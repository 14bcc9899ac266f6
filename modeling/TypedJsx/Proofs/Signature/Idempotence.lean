import TypedJsx.Conversion
import TypedJsx.Proofs.Arrow
import TypedJsx.Proofs.Signature.Composition
import TypedJsx.Proofs.Signature.Kept
/-!
Annotation a second time. A plan that was carried out finds its component as it would leave it: the first
parameter has a type, or is one that is kept; the result has a type; and a plan that failed meets what it
failed on (`Plan.applyTo_applyTo`). So every component of an annotated tree is settled, and a second pass
changes nothing.

The report lists components in the order of a walk that goes from a component as its plan leaves it into its
parts (`Node.outcomes_outer_first`). That the second walk goes the same way is then a matter of the settled
tree, wherever patterns have moved.

Main statement: annotation is idempotent, and its report is the same the second time.
-/
namespace TypedJsx

/-! ## A plan that was carried out -/

theorem ParameterChange.of_parameters {p : Plan} {params : List Node}
    (supported : ∀ reason, ParameterChange.of p.isDeclared params ≠ .unsupported reason) :
    ParameterChange.of p.isDeclared (p.parameters (ParameterChange.of p.isDeclared params) params)
      = .keep := by
  have typed : ∀ m s ds pattern value rest, ParameterChange.of p.isDeclared
      (.mk (.parameter m) s [ds, pattern, p.interfaceType, value] :: rest) = .keep := fun _ _ _ _ _ _ => rfl
  rcases ParameterChange.of_cases p.isDeclared params with ⟨rfl, change⟩ | ⟨-, change | ⟨reason, change⟩⟩ |
    ⟨m, s, ds, pattern, type, value, rest, rfl, -, ⟨-, change⟩ | ⟨-, change | change⟩⟩ <;> rw [change]
  · exact typed _ _ _ _ _ _
  · exact change
  · exact absurd change (supported reason)
  · exact typed _ _ _ _ _ _
  · exact typed _ _ _ _ _ _
  · exact typed _ _ _ _ _ _

theorem Plan.apply_of_keep {p : Plan} {parts : SignatureParts}
    (keep : ParameterChange.of p.isDeclared parts.params = .keep) (typed : parts.result.isPresent = true) :
    p.apply parts = (parts, none) := by
  simp only [Plan.apply, keep, Plan.parameters, typed, if_true]

theorem isPresent_ifPresent (part fallback : Node) (h : fallback.isPresent = true) :
    (if part.isPresent then part else fallback).isPresent = true := by
  split
  · assumption
  · exact h

/-- A plan that was carried out on a signature leaves it as it is, and one that failed fails again. -/
theorem Plan.apply_apply (p : Plan) (parts : SignatureParts)
    (binds : (parts.body.bindInBody? .absent parts.isExpression).isSome = true) :
    p.apply (p.apply parts).1 = p.apply parts := by
  have typed := isPresent_ifPresent parts.result elementType rfl
  have kept := @ParameterChange.of_parameters p parts.params
  cases change : ParameterChange.of p.isDeclared parts.params with
  | unsupported reason =>
    have fails : p.apply parts = (parts, some reason) := by simp only [Plan.apply, change]
    rw [fails, fails]
  | moveToBody =>
    rw [change] at kept
    rw [parts.body.isSome_bindInBody? .absent (parts.params.headD .absent).parameterPattern] at binds
    obtain ⟨bound, bound_eq⟩ := Option.isSome_iff_exists.mp binds
    have done : p.apply parts = (⟨p.parameters .moveToBody parts.params,
        if parts.result.isPresent then parts.result else elementType, bound, false⟩, none) := by
      simp only [Plan.apply, change, bound_eq]
    rw [done]
    exact Plan.apply_of_keep (kept (by simp)) typed
  | _ =>
    rw [change] at kept
    have done : p.apply parts = ({ parts with
        params := p.parameters (ParameterChange.of p.isDeclared parts.params) parts.params
        result := if parts.result.isPresent then parts.result else elementType }, none) := by
      simp only [Plan.apply, change]
    rw [done, change]
    exact Plan.apply_of_keep (kept (by simp)) typed

theorem Plan.kind_body_apply (p : Plan) (parts : SignatureParts) :
    (p.apply parts).1.body.kind = parts.body.kind := by
  rcases p.apply_cases parts with e | ⟨result, -, e⟩ | ⟨bound, binds, e⟩ <;> rw [e]
  rw [kind_of_bindInBody? (Option.isSome_of_eq_some binds)]
  unfold Node.bindInBody? at binds
  split at binds
  · split at binds
    · obtain ⟨_, -, rfl⟩ := Option.map_eq_some_iff.mp binds
      rfl
    · cases binds
      rfl
  · cases binds

theorem Plan.applyTo_applyTo (p : Plan) {n : Node} (value : n.holdsValue = true) (body : n.hasBody = true) :
    p.applyTo (p.applyTo n).1 = p.applyTo n := by
  fun_cases Plan.applyTo p n with
  | case1 form s name types this ps params result body absent => simp only [Plan.applyTo, absent, if_true]
  | case2 form s name types this ps params result body' present parts reason applied =>
    have kind : body'.kind = .functionBody := by simpa [Node.hasBody, present] using body
    have again := p.apply_apply ⟨params, result, body', false⟩
      (Node.binds_of_functionBody kind (by simp) .absent)
    have kept := p.kind_body_apply ⟨params, result, body', false⟩
    have flag := p.apply_isExpression ⟨params, result, body', false⟩
    rw [applied] at again kept flag
    -- the body is still there, and still a list of statements, so the second pass takes the same way
    have written : parts.body.isAbsent = false := by
      cases absent : parts.body.isAbsent with
      | false => rfl
      | true =>
        have none := (Node.isAbsent_iff.mp absent).1
        rw [kept, kind] at none
        cases none
    have same : parts = ⟨parts.params, parts.result, parts.body, false⟩ := by
      cases h : parts.isExpression with
      | false => rw [← h]
      | true => cases (flag h).1
    rw [same] at again
    simp only [Plan.applyTo, written, Bool.false_eq_true, if_false, again]
  | case3 form s types ps params result body' parts reason applied =>
    have again := p.apply_apply ⟨params, result, body', form.isExpression⟩
      (Node.binds_of_arrow body value .absent)
    rw [applied] at again
    simp only [Plan.applyTo]
    rw [again]
  | case4 form s ds name types base baseTypes implemented body' filled =>
    have typed := isPresent_ifPresent baseTypes (.fresh .typeArguments [p.interfaceType]) rfl
    simp only [Plan.applyTo, filled, typed, if_true]
  | case5 n hf ha hc =>
    rw [Plan.applyTo]
    · exact hf
    · exact ha
    · exact hc

theorem Node.children_annotateParts (plans : List Plan) (n : Node) :
    (n.annotateParts plans).children = n.children.map (Node.annotate plans) := by
  obtain ⟨k, s, cs⟩ := n
  rfl

/-! ## Settled components -/

/-- A component that its plan leaves as it is. -/
def Node.IsSettled (plans : List Plan) (n : Node) : Prop := n.annotateHere plans = n

section
variable {plans : List Plan}

theorem Node.isSettled_annotateHere (plans : List Plan) {n : Node} (value : n.holdsValue = true)
    (body : n.hasBody = true) : (n.annotateHere plans).IsSettled plans
      ∧ (n.annotateHere plans).ownOutcome plans = n.ownOutcome plans := by
  cases plan : n.plan? plans with
  | none =>
    have same : n.annotateHere plans = n := by rw [Node.annotateHere, plan]
    exact ⟨by rw [Node.IsSettled, same, same], by rw [same]⟩
  | some p =>
    have done : n.annotateHere plans = (p.applyTo n).1 := by rw [Node.annotateHere, plan]
    have again := p.applyTo_applyTo value body
    constructor
    · simp only [Node.IsSettled, Node.annotateHere, Plan.plan?_applyTo, plan, again]
    · rw [done, Node.ownOutcome, Node.ownOutcome, Plan.plan?_applyTo, plan, Option.map_some, again,
        Option.map_some]

theorem Node.hasBody_annotateParts {n : Node} (h : n.hasBody = true) :
    (n.annotateParts plans).hasBody = true := by
  obtain ⟨k, s, cs⟩ := n
  exact Node.hasBody_map (Node.isAbsent_annotate plans) (fun _ => Node.kind_annotate_iff rfl) h

/-- Every component of an annotated tree is settled, and reported as before. -/
theorem Node.isSettled_annotate (plans : List Plan) {n : Node} (value : n.holdsValue = true)
    (body : n.hasBody = true) :
    (n.annotate plans).IsSettled plans ∧ (n.annotate plans).ownOutcome plans = n.ownOutcome plans := by
  have parts : (n.annotateParts plans).holdsValue = true := by
    obtain ⟨k, s, cs⟩ := n
    exact Node.holdsValue_map_annotate plans value
  obtain ⟨settled, own⟩ := Node.isSettled_annotateHere plans parts (Node.hasBody_annotateParts body)
  rw [← Node.annotate_eq] at settled own
  refine ⟨settled, own.trans ?_⟩
  simp only [Node.ownOutcome, Node.plan?_annotateParts, Plan.applyTo_annotateParts]

/-- The plan for a node and those for its parts can be carried out in either order. -/
theorem Node.annotateHere_annotateParts (plans : List Plan) (n : Node) :
    (n.annotateParts plans).annotateHere plans = (n.annotateHere plans).annotateParts plans := by
  rw [← Node.annotate_eq, Node.annotate_outer_first]

theorem Node.annotate_idem {tree : Node}
    (sound : ∀ n ∈ tree.nodes, n.holdsValue = true ∧ n.hasBody = true) :
    (tree.annotate plans).annotate plans = tree.annotate plans := by
  induction tree using Node.induction with
  | step k s cs ih =>
    rw [Node.nodes_mk, List.forall_mem_cons, List.forall_mem_flatMap] at sound
    generalize e : Node.mk k s cs = n at sound
    have parts : (n.annotateParts plans).annotateParts plans = n.annotateParts plans := by
      have again : ∀ c ∈ cs, (c.annotate plans).annotate plans = c.annotate plans :=
        fun c hc => ih c hc (sound.2 c hc)
      rw [← e, Node.annotateParts_mk, Node.annotateParts_mk, List.map_map]
      exact congrArg _ (List.map_congr_left again)
    have settled : (n.annotate plans).annotateHere plans = n.annotate plans :=
      (Node.isSettled_annotate plans sound.1.1 sound.1.2).1
    calc (n.annotate plans).annotate plans
        = ((n.annotate plans).annotateHere plans).annotateParts plans := Node.annotate_outer_first plans _
      _ = ((n.annotateParts plans).annotateHere plans).annotateParts plans := by
          rw [settled, ← Node.annotate_eq]
      _ = ((n.annotateParts plans).annotateParts plans).annotateHere plans :=
          (Node.annotateHere_annotateParts plans _).symm
      _ = n.annotate plans := by rw [parts, ← Node.annotate_eq]

/-! ## The order of outcomes -/

theorem Node.outcomes_of_not_plannable {k : Kind} (h : k.isPlannable = false) (s : Span) (cs : List Node) :
    (Node.mk k s cs).outcomes plans = cs.flatMap (Node.outcomes plans) := by
  have none : (Node.mk k s cs).ownOutcome plans = [] := by
    simp [Node.ownOutcome, Node.plan?_mk, h]
  rw [Node.outcomes_other, none, List.nil_append]
  · rintro form _ _ _ _ _ _ _ rfl -
    cases h
  · rintro form _ _ _ _ _ rfl -
    cases h

/-- What is read off the functions, arrows and classes of a tree only. -/
def ReadsComponents (f : Node → List Outcome) : Prop :=
  ∀ (k : Kind) (s : Span) (cs : List Node), k.isPlannable = false → f (.mk k s cs) = cs.flatMap f

theorem readsComponents_outcomes (plans : List Plan) : ReadsComponents (Node.outcomes plans) :=
  fun _ s cs h => Node.outcomes_of_not_plannable h s cs

theorem readsComponents_annotate (plans : List Plan) :
    ReadsComponents fun n => (n.annotate plans).outcomes plans := by
  intro k s cs h
  show ((Node.mk k s cs).annotate plans).outcomes plans = _
  rw [Node.annotate_of_not_plannable h, Node.outcomes_of_not_plannable h, List.flatMap_map]

/-- Two readings agree on a tree if they agree on its functions, arrows and classes. -/
theorem ReadsComponents.congr {f g : Node → List Outcome} (hf : ReadsComponents f) (hg : ReadsComponents g)
    {tree : Node} (same : tree.Every fun n => f n = g n) : f tree = g tree := by
  induction tree using Node.induction with
  | step k s cs ih =>
    obtain ⟨own, parts⟩ := Node.every_mk.mp same
    cases plannable : k.isPlannable with
    | true => exact own plannable
    | false =>
      rw [hf k s cs plannable, hg k s cs plannable]
      exact List.flatMap_congr fun c hc => ih c hc (parts c hc)

theorem Node.outcomes_of_every_false {tree : Node} (none : tree.Every fun _ => False) :
    tree.outcomes plans = [] := by
  refine (readsComponents_outcomes plans).congr (g := fun _ => []) (fun _ _ cs _ => ?_)
    fun n mem plannable => (none n mem plannable).elim
  simp

theorem Node.outcomes_of_isAbsent {n : Node} (h : n.isAbsent = true) : n.outcomes plans = [] := by
  obtain ⟨k, s, cs⟩ := n
  obtain ⟨rfl, rfl⟩ := Node.isAbsent_iff.mp h
  exact Node.outcomes_of_not_plannable rfl s []

theorem outcomes_ifPresent (plans : List Plan) (part : Node) {fallback : Node}
    (none : fallback.Every fun _ => False) :
    (if part.isPresent then part else fallback).outcomes plans = part.outcomes plans := by
  cases absent : part.isAbsent with
  | true =>
    rw [if_neg (by simp [Node.isPresent, absent]), Node.outcomes_of_every_false none,
      Node.outcomes_of_isAbsent absent]
  | false => rw [if_pos (by simp [Node.isPresent, absent])]

theorem outcomes_propsBinding (pattern : Node) :
    (propsBinding pattern).outcomes plans = pattern.outcomes plans := by
  have leaf : ∀ {k : Kind}, k.isPlannable = false → (Node.mk k Span.none []).outcomes plans = [] :=
    fun h => Node.outcomes_of_not_plannable h _ _
  rw [propsBinding, Node.fresh, Node.outcomes_of_not_plannable rfl, List.flatMap_singleton, Node.fresh,
    Node.outcomes_of_not_plannable rfl]
  simp [Node.absent, Node.fresh, leaf (k := .absent) rfl, leaf (k := .reference _) rfl]

theorem outcomesOfParameters_whole (params : List Node) :
    outcomesOfParameters plans .whole params = params.flatMap (Node.outcomes plans) := by
  have append := outcomesOfParameters_append plans .whole params
  rwa [outcomesOfMoved, if_neg (by decide), List.append_nil] at append

theorem outcomesOfBody_of_ne {r : Remainder} (h : r ≠ .onlyPattern) (isExpression : Bool)
    (params : List Node) (body : Node) :
    outcomesOfBody plans r isExpression params body = body.outcomes plans := by
  obtain ⟨k, b, parts⟩ := body
  rw [outcomesOfBody, if_neg (by simpa using h)]

theorem outcomes_bindInBody? {body pattern bound : Node} {isExpression : Bool}
    (binds : body.bindInBody? pattern isExpression = some bound) {m : Modifiers} {s : Span}
    {ds type value : Node} {rest : List Node} :
    outcomesOfBody plans .onlyPattern isExpression
        (.mk (.parameter m) s [ds, pattern, type, value] :: rest) body = bound.outcomes plans := by
  unfold Node.bindInBody? at binds
  split at binds
  · rename_i t parts
    cases isExpression with
    | false =>
      cases binds
      simp [outcomesOfBody, outcomesOfStatements_eq, outcomesOfPattern, prependStatement,
        Node.outcomes_of_not_plannable (k := .functionBody) rfl, outcomes_propsBinding]
    | true =>
      obtain ⟨e, found, rfl⟩ := Option.map_eq_some_iff.mp binds
      simp [outcomesOfBody, outcomesOfValue_eq_flatMap, found, outcomesOfPattern, Node.fresh,
        Node.outcomes_of_not_plannable (k := .functionBody) rfl,
        Node.outcomes_of_not_plannable (k := .returnStatement) rfl, outcomes_propsBinding]
  · cases binds

theorem Plan.outcomes_apply (plans : List Plan) (p : Plan) (params : List Node) (result body : Node)
    (isExpression : Bool) :
    let parts := (p.apply ⟨params, result, body, isExpression⟩).1
    let r := p.remainder isExpression params body
    outcomesOfParameters plans r params = parts.params.flatMap (Node.outcomes plans)
      ∧ result.outcomes plans = parts.result.outcomes plans
      ∧ outcomesOfBody plans r isExpression params body = parts.body.outcomes plans := by
  have props : p.propsParameter.outcomes plans = [] := Node.outcomes_of_every_false p.every_propsParameter
  have type : p.interfaceType.outcomes plans = [] := Node.outcomes_of_every_false p.every_interfaceType
  have filled := outcomes_ifPresent plans result every_elementType
  rcases ParameterChange.of_cases p.isDeclared params with ⟨rfl, hc⟩ | ⟨-, hc | ⟨reason, hc⟩⟩ |
    ⟨m, s, ds, pattern, absent, value, rest, rfl, untyped, ⟨-, hc⟩ | ⟨-, hc | hc⟩⟩
  · simp only [Plan.apply, Plan.remainder, hc, Plan.parameters]
    exact ⟨by simp [outcomesOfParameters, props], filled.symm, outcomesOfBody_of_ne (by decide) _ _ _⟩
  · simp only [Plan.apply, Plan.remainder, hc, Plan.parameters]
    exact ⟨outcomesOfParameters_whole params, filled.symm, outcomesOfBody_of_ne (by decide) _ _ _⟩
  · simp only [Plan.apply, Plan.remainder, hc]
    exact ⟨outcomesOfParameters_whole params, trivial, outcomesOfBody_of_ne (by decide) _ _ _⟩
  · -- the first parameter gets a type in the place of none
    have none : absent.outcomes plans = [] := Node.outcomes_of_isAbsent untyped
    simp only [Plan.apply, Plan.remainder, hc, Plan.parameters, Node.withParameterType]
    refine ⟨?_, filled.symm, outcomesOfBody_of_ne (by decide) _ _ _⟩
    simp [outcomesOfParameters_whole, Node.outcomes_of_not_plannable (k := .parameter _) rfl, type, none]
  · simp only [Plan.apply, Plan.remainder, hc, Plan.parameters]
    -- the first parameter is replaced: what was in it is lost, and `props` has no outcomes
    refine ⟨?_, filled.symm, outcomesOfBody_of_ne (by decide) _ _ _⟩
    simp [outcomesOfParameters, outcomesOfList_eq_flatMap, props]
  · -- the pattern goes to the body, if that can bind it
    have binds := body.isSome_bindInBody? pattern .absent isExpression
    have params : ∀ r, r ≠ .whole → outcomesOfParameters plans r
          (.mk (.parameter m) s [ds, pattern, absent, value] :: rest)
        = (p.propsParameter :: rest).flatMap (Node.outcomes plans) := by
      intro r h
      cases r <;> simp [outcomesOfParameters, outcomesOfList_eq_flatMap, props] at h ⊢
    simp only [Plan.apply, Plan.remainder, hc, Plan.parameters, ← binds, List.headD_cons,
      Node.parameterPattern]
    cases bound : body.bindInBody? pattern isExpression with
    | some bound' => exact ⟨params _ (by simp), filled.symm, outcomes_bindInBody? bound⟩
    | none => exact ⟨params _ (by simp), rfl, outcomesOfBody_of_ne (by simp) _ _ _⟩

theorem Node.outcomes_of_no_plan {n : Node} (none : n.plan? plans = none) :
    n.outcomes plans = n.children.flatMap (Node.outcomes plans) := by
  have own : n.ownOutcome plans = [] := by rw [Node.ownOutcome, none]; rfl
  fun_cases Node.kept plans n with
  | case1 form s name types this ps params result body =>
    have unplanned : planFor? plans s = Option.none := none
    rw [Node.outcomes_function plans (r := .whole) (by rw [unplanned, remainderUnder, ite_self]), own,
      outcomesOfParameters_whole, outcomesOfBody_of_ne (by decide)]
    simp [Node.outcomes_of_not_plannable (k := .parameters) rfl]
  | case2 form s types ps params result body =>
    have unplanned : planFor? plans s = Option.none := none
    rw [Node.outcomes_arrow plans (r := .whole) (by rw [unplanned, remainderUnder]), own,
      outcomesOfParameters_whole, outcomesOfBody_of_ne (by decide)]
    simp [Node.outcomes_of_not_plannable (k := .parameters) rfl]
  | case3 k s cs hf ha =>
    rw [Node.outcomes_other plans (fun _ _ _ _ _ _ _ _ => hf _ _ _ _ _ _ _ _)
      fun _ _ _ _ _ _ => ha _ _ _ _ _ _, own]
    rfl

theorem Node.outcomes_of_plan {n : Node} {p : Plan} (planned : n.plan? plans = some p) :
    n.outcomes plans
      = n.ownOutcome plans ++ (p.applyTo n).1.children.flatMap (Node.outcomes plans) := by
  have list : ∀ s cs, (Node.mk .parameters s cs).outcomes plans = cs.flatMap (Node.outcomes plans) :=
    Node.outcomes_of_not_plannable rfl
  fun_cases Plan.applyTo p n with
  | case1 form s name types this ps params result body absent =>
    rw [Node.outcomes_function plans (r := .whole) (by rw [if_pos absent]), outcomesOfParameters_whole,
      outcomesOfBody_of_ne (by decide)]
    simp [list]
  | case2 form s name types this ps params result body present parts reason applied =>
    have here : planFor? plans s = some p := planned
    obtain ⟨inParams, inResult, inBody⟩ := p.outcomes_apply plans params result body false
    rw [applied] at inParams inResult inBody
    rw [Node.outcomes_function plans (r := p.remainder false params body)
      (by rw [if_neg present, here, remainderUnder]), inParams, inResult, inBody]
    simp [list]
  | case3 form s types ps params result body parts reason applied =>
    have here : planFor? plans s = some p := planned
    obtain ⟨inParams, inResult, inBody⟩ :=
      p.outcomes_apply plans params result body form.isExpression
    rw [applied] at inParams inResult inBody
    rw [Node.outcomes_arrow plans (r := p.remainder form.isExpression params body)
      (by rw [here, remainderUnder]), inParams, inResult, inBody]
    simp [list]
  | case4 form s ds name types base baseTypes implemented body filled =>
    have fallback : (Node.fresh .typeArguments [p.interfaceType]).Every fun _ => False := by
      rw [Node.fresh, Node.every_mk]
      simpa [Kind.isPlannable] using p.every_interfaceType
    rw [Node.outcomes_other plans (by simp) (by simp)]
    simp [filled, outcomes_ifPresent plans baseTypes fallback]
  | case5 n hf ha hc =>
    obtain ⟨k, s, cs⟩ := n
    -- no layout of a component, so all parts are kept
    rw [Node.outcomes_other plans, Node.children_mk]
    · rintro form name types this ps params result body rfl rfl
      exact hf _ _ _ _ _ _ _ _ _ rfl
    · rintro form types ps params result body rfl rfl
      exact ha _ _ _ _ _ _ _ rfl

/-- The outcomes of a node are its own, and those in its parts where its plan leaves them. -/
theorem Node.outcomes_outer_first (n : Node) : n.outcomes plans
    = n.ownOutcome plans ++ (n.annotateHere plans).children.flatMap (Node.outcomes plans) := by
  cases plan : n.plan? plans with
  | none =>
    rw [Node.annotateHere, plan, Node.ownOutcome, plan]
    exact Node.outcomes_of_no_plan plan
  | some p =>
    rw [Node.annotateHere, plan]
    exact Node.outcomes_of_plan plan

theorem Node.every_outcomes_annotate {tree : Node}
    (sound : ∀ n ∈ tree.nodes, n.holdsValue = true ∧ n.hasBody = true) :
    tree.Every fun n => (n.annotate plans).outcomes plans = n.outcomes plans := by
  induction tree using Node.induction with
  | step k s cs ih =>
    have here := sound _ (Node.mem_nodes_self _)
    rw [Node.nodes_mk, List.forall_mem_cons, List.forall_mem_flatMap] at sound
    have parts := fun c hc => ih c hc (sound.2 c hc)
    refine Node.every_mk.mpr ⟨fun _ => ?_, parts⟩
    generalize e : Node.mk k s cs = n at here
    -- the parts that the own plan leaves are made of parts for which the two agree
    have left : ∀ c ∈ (n.annotateHere plans).children,
        c.Every fun n => (n.annotate plans).outcomes plans = n.outcomes plans := by
      rw [Node.annotateHere]
      split
      · rw [← e]
        exact Plan.every_children_applyTo _ parts
      · rw [← e]
        exact parts
    obtain ⟨settled, own⟩ := Node.isSettled_annotate plans here.1 here.2
    calc (n.annotate plans).outcomes plans
        = n.ownOutcome plans ++ (n.annotate plans).children.flatMap (Node.outcomes plans) := by
          rw [Node.outcomes_outer_first, own, settled]
      _ = n.ownOutcome plans ++ ((n.annotateHere plans).children.map (Node.annotate plans)).flatMap
            (Node.outcomes plans) := by
          rw [Node.annotate_outer_first plans n, Node.children_annotateParts]
      _ = n.ownOutcome plans ++ (n.annotateHere plans).children.flatMap (Node.outcomes plans) := by
          rw [List.flatMap_map]
          refine congrArg _ (List.flatMap_congr fun c hc => ?_)
          exact (readsComponents_annotate plans).congr (readsComponents_outcomes plans) (left c hc)
      _ = n.outcomes plans := (Node.outcomes_outer_first n).symm

end

/-! ## A second time -/

/-- In a tree whose functions and arrows are laid out as such, and whose arrows that are one expression hold
just that, annotation for the same plans a second time changes nothing and reports the same: the same names
in the same order, and the same failures. -/
theorem annotation_idempotent {tree : Node} (values : tree.HoldsValues) (bodies : tree.HasBodies)
    (plans : List Plan) (source : List Char) :
    (tree.annotate plans).annotate plans = tree.annotate plans
      ∧ annotatedNames ((tree.annotate plans).outcomes plans) = annotatedNames (tree.outcomes plans)
      ∧ ((tree.annotate plans).outcomes plans).filterMap (·.failure? source)
        = (tree.outcomes plans).filterMap (·.failure? source) := by
  have sound : ∀ n ∈ tree.nodes, n.holdsValue = true ∧ n.hasBody = true :=
    fun n hn => ⟨values n hn, bodies n hn⟩
  have same : (tree.annotate plans).outcomes plans = tree.outcomes plans :=
    (readsComponents_annotate plans).congr (readsComponents_outcomes plans)
      (Node.every_outcomes_annotate sound)
  exact ⟨Node.annotate_idem sound, by rw [same], by rw [same]⟩

/-- A component in the pattern of another, and one that fails. -/
def nestingSource : List Char :=
  ("const List = (\x7b items = () => \x7b const Item = (\x7b n \x7d) => <i/>; \x7d \x7d) => <ul/>;"
    ++ "function Rest(...all) \x7b return <b/>; \x7d").toList

/-- The plans for the components of a tree, as if all had declared their props. -/
def declaredPlans (tree : Node) : List Plan := tree.components.map fun c => c.plan true {}

/-- The outer component takes the inner one into its body the first time, and the rest parameter fails
both times. -/
theorem nesting_annotation_idempotent : ∃ m, Module.parse nestingSource = .ok m
    ∧ m.tree.HoldsValues ∧ m.tree.HasBodies
    ∧ ((m.tree.outcomes (declaredPlans m.tree)).map fun o => (o.plan.component, o.failure))
      = [("List", none), ("Item", none), ("Rest", some restReason)]
    ∧ (m.tree.annotate (declaredPlans m.tree)).annotate (declaredPlans m.tree)
      = m.tree.annotate (declaredPlans m.tree)
    ∧ annotatedNames ((m.tree.annotate (declaredPlans m.tree)).outcomes (declaredPlans m.tree))
      = ["List", "Item"] := by
  have run : ∃ m, Module.parse nestingSource = .ok m ∧ m.tree.HoldsValues ∧ m.tree.HasBodies
      ∧ ((m.tree.outcomes (declaredPlans m.tree)).map fun o => (o.plan.component, o.failure))
        = [("List", none), ("Item", none), ("Rest", some restReason)]
      ∧ annotatedNames (m.tree.outcomes (declaredPlans m.tree)) = ["List", "Item"] := by
    decide +kernel
  obtain ⟨m, parsed, values, bodies, outcomes, names⟩ := run
  obtain ⟨again, same, -⟩ := annotation_idempotent values bodies (declaredPlans m.tree) m.source
  exact ⟨m, parsed, values, bodies, outcomes, again, same.trans names⟩

end TypedJsx
