import TypedJsx.Conversion
import TypedJsx.Proofs.Signature.Basic
/-!
Plans for different spans do not meddle with each other. Carrying out a plan moves parts of a component,
drops some and adds new ones; but what it does can be read off before the parts are annotated
(`ParameterChange.of_map_annotate`), and nothing that it adds has a plan. So it commutes with the
annotation of the parts (`Plan.annotateParts_applyTo`): inner components can be annotated before or after
outer ones (`Node.annotate_outer_first`), and two passes with plans for different spans are one pass with
all of them (`Node.annotate_annotate`).

Main statement: plans for different spans can be carried out one at a time, in any order.
-/
namespace TypedJsx

section
variable (plans : List Plan)

/-! ## New parts have no plans -/

@[simp] theorem Node.annotate_absent : Node.absent.annotate plans = .absent :=
  Node.annotate_of_not_plannable rfl plans _ _

theorem Node.annotate_fresh {k : Kind} (h : k.isPlannable = false) (cs : List Node) :
    (Node.fresh k cs).annotate plans = .fresh k (cs.map (Node.annotate plans)) :=
  Node.annotate_of_not_plannable h plans _ _

@[simp] theorem Plan.annotate_interfaceType (p : Plan) :
    p.interfaceType.annotate plans = p.interfaceType := by
  simp [Plan.interfaceType, Node.annotate_fresh plans (k := .typeReference) rfl,
    Node.annotate_fresh plans (k := .reference _) rfl]

@[simp] theorem Plan.annotate_propsParameter (p : Plan) :
    p.propsParameter.annotate plans = p.propsParameter := by
  simp [Plan.propsParameter, Node.annotate_fresh plans (k := .parameter _) rfl,
    Node.annotate_fresh plans (k := .decorators) rfl, Node.annotate_fresh plans (k := .binding _) rfl]

@[simp] theorem annotate_elementType : elementType.annotate plans = elementType := by
  simp [elementType, Node.annotate_fresh plans (k := .typeReference) rfl,
    Node.annotate_fresh plans (k := .qualifiedName) rfl, Node.annotate_fresh plans (k := .reference _) rfl,
    Node.annotate_fresh plans (k := .name _) rfl]

theorem annotate_propsBinding (pattern : Node) :
    (propsBinding pattern).annotate plans = propsBinding (pattern.annotate plans) := by
  simp [propsBinding, Node.annotate_fresh plans (k := .variableDeclaration _ _) rfl,
    Node.annotate_fresh plans (k := .declarator _) rfl, Node.annotate_fresh plans (k := .reference _) rfl]

/-! ## Bodies -/

theorem map_annotate_prependStatement (statement : Node) (parts : List Node) :
    (prependStatement statement parts).map (Node.annotate plans)
      = prependStatement (statement.annotate plans) (parts.map (Node.annotate plans)) := by
  have same : Node.isDirective ∘ Node.annotate plans = Node.isDirective := by
    funext n
    exact Node.isDirective_annotate plans n
  simp only [prependStatement, List.map_append, List.map_cons, List.takeWhile_map, List.dropWhile_map, same]

theorem Node.bindInBody?_annotate (body pattern : Node) (isExpression : Bool) :
    (body.annotate plans).bindInBody? (pattern.annotate plans) isExpression
      = (body.bindInBody? pattern isExpression).map (Node.annotate plans) := by
  obtain ⟨k, s, parts⟩ := body
  by_cases hk : k = .functionBody
  · subst hk
    have body : ∀ parts, (Node.mk .functionBody s parts).annotate plans
        = .mk .functionBody s (parts.map (Node.annotate plans)) :=
      Node.annotate_of_not_plannable rfl plans s
    rw [body]
    cases isExpression with
    | false =>
      simp only [Node.bindInBody?, Bool.false_eq_true, if_false, Option.map_some, body,
        map_annotate_prependStatement, annotate_propsBinding]
    | true =>
      have value : ∀ e, (Node.fresh .returnStatement [e]).annotate plans
          = .fresh .returnStatement [e.annotate plans] := fun e => Node.annotate_fresh plans rfl [e]
      simp only [Node.bindInBody?, if_true, firstValue?_map_annotate, Option.map_map, Function.comp_def,
        body, List.map_cons, List.map_nil, annotate_propsBinding, value]
  · have hn : ((Node.mk k s parts).annotate plans).kind ≠ .functionBody := by
      rwa [Ne, Node.kind_annotate_iff rfl]
    have hk : (Node.mk k s parts).kind ≠ .functionBody := hk
    rw [Node.bindInBody?_of_kind_ne hn, Node.bindInBody?_of_kind_ne hk]
    rfl

/-! ## Components -/

/-- The parts of a signature, annotated. -/
def SignatureParts.annotate (parts : SignatureParts) : SignatureParts :=
  { params := parts.params.map (Node.annotate plans), result := parts.result.annotate plans,
    body := parts.body.annotate plans, isExpression := parts.isExpression }

theorem annotate_ifPresent (part : Node) {fallback : Node} (h : fallback.annotate plans = fallback) :
    (if part.isPresent then part else fallback).annotate plans
      = if (part.annotate plans).isPresent then part.annotate plans else fallback := by
  cases ha : part.isAbsent with
  | true => simp [Node.isPresent, ha, h]
  | false => simp [Node.isPresent, ha]

/-- Carrying out a plan commutes with the annotation of the parts that it works on, and fails for the same
reason. -/
theorem Plan.apply_annotate (p : Plan) (parts : SignatureParts) :
    p.apply (parts.annotate plans) = ((p.apply parts).1.annotate plans, (p.apply parts).2) := by
  obtain ⟨params, result, body, isExpression⟩ := parts
  have hA := ParameterChange.of_map_annotate plans p.isDeclared params
  have hr := annotate_ifPresent plans result (annotate_elementType plans)
  rcases ParameterChange.of_cases p.isDeclared params with ⟨rfl, hc⟩ | ⟨-, hc | ⟨reason, hc⟩⟩ |
    ⟨m, s, ds, pattern, type, value, rest, rfl, -, ⟨-, hc⟩ | ⟨-, hc | hc⟩⟩ <;> rw [hc] at hA
  · -- `props` is added
    simp only [Plan.apply, SignatureParts.annotate, hc, Plan.parameters, hr, List.map_append,
      List.map_cons, List.map_nil, Plan.annotate_propsParameter]
  · simp only [Plan.apply, SignatureParts.annotate, hA, hc, Plan.parameters, hr]
    rfl
  · simp only [Plan.apply, SignatureParts.annotate, hA, hc]
  · -- the first parameter gets a type
    rw [List.map_cons, Node.annotate_parameter] at hA
    simp only [Plan.apply, SignatureParts.annotate, List.map_cons, Node.annotate_parameter, hA, hc,
      Plan.parameters, hr, Node.withParameterType, Plan.annotate_interfaceType]
  · -- the first parameter is replaced
    rw [List.map_cons] at hA
    simp only [Plan.apply, SignatureParts.annotate, List.map_cons, hA, hc, Plan.parameters, hr,
      Plan.annotate_propsParameter]
  · -- the pattern of the first parameter goes to the body
    have binds := Node.bindInBody?_annotate plans body pattern isExpression
    rw [List.map_cons, Node.annotate_parameter] at hA
    simp only [Plan.apply, SignatureParts.annotate, List.map_cons, Node.annotate_parameter, hA, hc,
      Plan.parameters, List.headD_cons, Node.parameterPattern, binds]
    cases body.bindInBody? pattern isExpression with
    | some bound => simp only [Option.map_some, hr, List.map_cons, Plan.annotate_propsParameter]
    | none => simp only [Option.map_none, List.map_cons, Plan.annotate_propsParameter]

/-- A node with its parts annotated. -/
def Node.annotateParts (n : Node) : Node := n.withChildren (n.children.map (Node.annotate plans))

@[simp] theorem Node.annotateParts_mk (k : Kind) (s : Span) (cs : List Node) :
    (Node.mk k s cs).annotateParts plans = .mk k s (cs.map (Node.annotate plans)) := rfl

theorem Node.annotate_eq (n : Node) : n.annotate plans = (n.annotateParts plans).annotateHere plans := by
  obtain ⟨k, s, cs⟩ := n
  exact Node.annotate_mk plans k s cs

theorem Plan.applyTo_annotateParts (p : Plan) (n : Node) :
    p.applyTo (n.annotateParts plans) = ((p.applyTo n).1.annotateParts plans, (p.applyTo n).2) := by
  have params : ∀ ps ds, (Node.mk .parameters ps ds).annotate plans
      = .mk .parameters ps (ds.map (Node.annotate plans)) :=
    Node.annotate_of_not_plannable rfl plans
  fun_cases Plan.applyTo p n with
  | case1 form s name types this ps ds result body absent =>
    simp only [Node.annotateParts_mk, List.map_cons, List.map_nil, params, Plan.applyTo,
      Node.isAbsent_annotate, absent, if_true]
  | case2 form s name types this ps ds result body present parts reason hparts =>
    have apply := p.apply_annotate plans ⟨ds, result, body, false⟩
    simp only [SignatureParts.annotate] at apply
    simp only [Node.annotateParts_mk, List.map_cons, List.map_nil, params, Plan.applyTo,
      Node.isAbsent_annotate, present, if_false, apply, hparts, Bool.false_eq_true]
  | case3 form s types ps ds result body parts reason hparts =>
    have apply := p.apply_annotate plans ⟨ds, result, body, form.isExpression⟩
    simp only [SignatureParts.annotate] at apply
    simp only [Node.annotateParts_mk, List.map_cons, List.map_nil, params, Plan.applyTo, apply, hparts]
  | case4 form s ds name types base baseTypes implemented body filled =>
    have arguments : (Node.fresh .typeArguments [p.interfaceType]).annotate plans
        = .fresh .typeArguments [p.interfaceType] := by
      rw [Node.annotate_fresh plans rfl, List.map_singleton, Plan.annotate_interfaceType]
    have filling := annotate_ifPresent plans baseTypes arguments
    simp only [Node.annotateParts_mk, List.map_cons, List.map_nil, Plan.applyTo, filled, filling]
  | case5 n hf ha hc =>
    obtain ⟨k, s, cs⟩ := n
    rw [Node.annotateParts_mk]
    unfold Plan.applyTo
    -- the annotated parts have none of the layouts, since the parts have none
    split
    · rename_i e
      obtain ⟨rfl, -, e⟩ := Node.mk.inj e
      obtain ⟨_, _, _, _, _, _, rfl⟩ := function_parts_of_annotate e
      exact (hf _ _ _ _ _ _ _ _ _ rfl).elim
    · rename_i e
      obtain ⟨rfl, -, e⟩ := Node.mk.inj e
      obtain ⟨_, _, _, _, rfl⟩ := arrow_parts_of_annotate e
      exact (ha _ _ _ _ _ _ _ rfl).elim
    · rename_i e
      obtain ⟨rfl, -, e⟩ := Node.mk.inj e
      obtain ⟨_, _, _, _, _, _, _, rfl⟩ := class_parts_of_annotate e
      exact (hc _ _ _ _ _ _ _ _ _ rfl).elim
    · rfl

theorem Plan.annotateParts_applyTo (p : Plan) (n : Node) :
    (p.applyTo n).1.annotateParts plans = (p.applyTo (n.annotateParts plans)).1 := by
  rw [p.applyTo_annotateParts plans n]

/-! ## The plan of a node -/

@[simp] theorem Node.plan?_annotateParts (plans' : List Plan) (n : Node) :
    (n.annotateParts plans).plan? plans' = n.plan? plans' := by
  obtain ⟨k, s, cs⟩ := n
  rfl

@[simp] theorem Plan.plan?_applyTo (p : Plan) (n : Node) : (p.applyTo n).1.plan? plans = n.plan? plans := by
  obtain ⟨span, plannable⟩ := p.applyTo_keeps n
  rw [Node.plan?, Node.plan?, span, plannable]

theorem Node.annotate_of_plan?_eq_none {n : Node} (h : n.plan? plans = none) :
    n.annotate plans = n.annotateParts plans := by
  rw [Node.annotate_eq, Node.annotateHere, Node.plan?_annotateParts, h]

/-- It makes no difference whether the plan for a node is carried out before or after those for its
parts. -/
theorem Node.annotate_outer_first (n : Node) :
    n.annotate plans = (n.annotateHere plans).annotateParts plans := by
  rw [Node.annotate_eq, Node.annotateHere, Node.annotateHere, Node.plan?_annotateParts]
  cases n.plan? plans with
  | some p => exact (p.annotateParts_applyTo plans n).symm
  | none => rfl

end

/-! ## Two passes -/

/-- No span has a plan in both lists. -/
def Apart (plans later : List Plan) : Prop :=
  ∀ s, (planFor? plans s).isSome = true → planFor? later s = none

theorem planFor?_append (plans later : List Plan) (s : Span) :
    planFor? (plans ++ later) s = (planFor? later s).or (planFor? plans s) := by
  rw [planFor?, List.reverse_append, List.find?_append]
  rfl

theorem Node.plan?_append (plans later : List Plan) (n : Node) :
    n.plan? (plans ++ later) = (n.plan? later).or (n.plan? plans) := by
  unfold Node.plan?
  split
  · exact planFor?_append plans later n.span
  · rfl

theorem Apart.plan?_eq_none {plans later : List Plan} (apart : Apart plans later) {n : Node} {p : Plan}
    (h : n.plan? plans = some p) : n.plan? later = none := by
  unfold Node.plan? at h ⊢
  split at h
  · rename_i hk
    rw [if_pos hk]
    exact apart n.span (by rw [h]; rfl)
  · cases h

section
variable {plans later : List Plan} (apart : Apart plans later)
include apart

theorem Node.annotate_annotateHere (n : Node) :
    (n.annotateHere plans).annotate later = (n.annotateParts later).annotateHere (plans ++ later) := by
  rw [Node.annotateHere, Node.annotateHere, Node.plan?_annotateParts, Node.plan?_append]
  cases hp : n.plan? plans with
  | some p =>
    -- the node has a plan in the first pass, so none in the second
    have hl : n.plan? later = none := apart.plan?_eq_none hp
    have none : (p.applyTo n).1.plan? later = none := by rw [Plan.plan?_applyTo, hl]
    rw [hl, Option.none_or]
    exact (Node.annotate_of_plan?_eq_none later none).trans (p.annotateParts_applyTo later n)
  | none =>
    rw [Option.or_none]
    show n.annotate later = _
    rw [Node.annotate_eq, Node.annotateHere, Node.plan?_annotateParts]

/-- Two passes with plans for different spans are one pass with all of them. -/
theorem Node.annotate_annotate (n : Node) :
    (n.annotate plans).annotate later = n.annotate (plans ++ later) := by
  induction n using Node.induction with
  | step k s cs ih =>
    have parts : (cs.map (Node.annotate plans)).map (Node.annotate later)
        = cs.map (Node.annotate (plans ++ later)) := by
      rw [List.map_map]
      exact List.map_congr_left ih
    rw [Node.annotate_mk, Node.annotate_annotateHere apart, Node.annotateParts_mk, parts, Node.annotate_mk]

end

/-! ## One plan at a time -/

theorem Node.annotate_congr {plans plans' : List Plan} (h : ∀ s, planFor? plans s = planFor? plans' s)
    (n : Node) : n.annotate plans = n.annotate plans' := by
  induction n using Node.induction with
  | step k s cs ih =>
    have parts : cs.map (Node.annotate plans) = cs.map (Node.annotate plans') := List.map_congr_left ih
    rw [Node.annotate_mk, Node.annotate_mk, parts, Node.annotateHere, Node.annotateHere, Node.plan?_mk,
      Node.plan?_mk, h]

theorem planFor?_perm {plans order : List Plan} (distinct : (plans.map Plan.span).Nodup)
    (h : order.Perm plans) (s : Span) : planFor? order s = planFor? plans s := by
  have distinct' : (order.map Plan.span).Nodup := (h.map Plan.span).nodup_iff.mpr distinct
  apply Option.ext
  intro p
  constructor
  · intro e
    obtain ⟨mem, rfl⟩ := mem_of_planFor? e
    exact (planFor?_eq_some_iff distinct (h.mem_iff.mp mem) p.span).mpr rfl
  · intro e
    obtain ⟨mem, rfl⟩ := mem_of_planFor? e
    exact (planFor?_eq_some_iff distinct' (h.mem_iff.mpr mem) p.span).mpr rfl

@[simp] theorem Node.annotate_nil (n : Node) : n.annotate [] = n :=
  Node.annotate_of_no_plan (by simp)

theorem apart_singleton {p : Plan} {plans : List Plan} (h : p.span ∉ plans.map Plan.span) :
    Apart [p] plans := by
  intro s hs
  obtain ⟨q, hq⟩ := Option.isSome_iff_exists.mp hs
  obtain ⟨mem, rfl⟩ := mem_of_planFor? hq
  obtain rfl := List.mem_singleton.mp mem
  cases hl : planFor? plans q.span with
  | none => rfl
  | some other =>
    obtain ⟨mem, e⟩ := mem_of_planFor? hl
    exact absurd (List.mem_map.mpr ⟨other, mem, e⟩) h

theorem foldl_annotate {plans : List Plan} (distinct : (plans.map Plan.span).Nodup) (program : Node) :
    plans.foldl (fun tree p => tree.annotate [p]) program = program.annotate plans := by
  induction plans generalizing program with
  | nil => simp
  | cons p plans ih =>
    rw [List.map_cons, List.nodup_cons] at distinct
    rw [List.foldl_cons, ih distinct.2, Node.annotate_annotate (apart_singleton distinct.1)]
    rfl

/-- Plans for different spans can be carried out one at a time, in any order: the tree that comes out is
that of carrying out all of them at once. -/
theorem annotate_one_at_a_time {plans order : List Plan} (distinct : (plans.map Plan.span).Nodup)
    (h : order.Perm plans) (program : Node) :
    order.foldl (fun tree p => tree.annotate [p]) program = program.annotate plans := by
  have distinct' : (order.map Plan.span).Nodup := (h.map Plan.span).nodup_iff.mpr distinct
  rw [foldl_annotate distinct']
  exact Node.annotate_congr (planFor?_perm distinct h) program

/-- A component in the default value of a parameter that another component drops. -/
def droppedSource : List Char :=
  "const A = (\x7b x \x7d = () => \x7b const D = () => <i/>; \x7d) => <b/>;\nA.propTypes = 1;\n".toList

/-- The plan of a component that is dropped may come before or after the plan that drops it. -/
theorem dropped_one_at_a_time : ∃ m, Module.parse droppedSource = .ok m
    ∧ (m.plans {}).length = 2
    ∧ (m.plans {}).reverse.foldl (fun tree p => tree.annotate [p]) m.tree.withoutProps
      = m.annotated {} := by
  have run : ∃ m, Module.parse droppedSource = .ok m
      ∧ (m.plans {}).length = 2 ∧ ((m.plans {}).map Plan.span).Nodup := by decide +kernel
  obtain ⟨m, hm, two, distinct⟩ := run
  exact ⟨m, hm, two, annotate_one_at_a_time distinct (List.reverse_perm _) m.tree.withoutProps⟩

end TypedJsx
