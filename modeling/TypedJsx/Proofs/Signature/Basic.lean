import Mathlib.Data.List.Nodup
import TypedJsx.Proofs.Tree
import TypedJsx.Signature
/-!
What carrying out plans keeps of a tree. A node that no plan can be for keeps its kind and has its
children annotated; one that a plan can be for stays such a node over the same span. So what a plan does
to the first parameter, and the value that a body has, can be read off the tree before its parts are
annotated.
-/
namespace TypedJsx

theorem annotateList_eq_map (plans : List Plan) (cs : List Node) :
    annotateList plans cs = cs.map (Node.annotate plans) := by
  induction cs with
  | nil => rfl
  | cons c cs ih => simp [annotateList, ih]

theorem Node.annotate_mk (plans : List Plan) (k : Kind) (s : Span) (cs : List Node) :
    (Node.mk k s cs).annotate plans
      = (Node.mk k s (cs.map (Node.annotate plans))).annotateHere plans := by
  rw [Node.annotate, annotateList_eq_map]

theorem Node.plan?_mk (plans : List Plan) (k : Kind) (s : Span) (cs : List Node) :
    (Node.mk k s cs).plan? plans = if k.isPlannable then planFor? plans s else none := rfl

theorem mem_of_planFor? {plans : List Plan} {s : Span} {p : Plan} (h : planFor? plans s = some p) :
    p ∈ plans ∧ p.span = s := by
  unfold planFor? at h
  exact ⟨by simpa using List.mem_of_find?_eq_some h, by simpa using List.find?_some h⟩

theorem planFor?_eq_some_iff {plans : List Plan} (h : (plans.map Plan.span).Nodup) {p : Plan}
    (hp : p ∈ plans) (s : Span) : planFor? plans s = some p ↔ s = p.span := by
  constructor
  · intro e
    exact (mem_of_planFor? e).2.symm
  · rintro rfl
    have found : (planFor? plans p.span).isSome = true := by
      simpa [planFor?] using ⟨p, hp, rfl⟩
    obtain ⟨q, hq⟩ := Option.isSome_iff_exists.mp found
    obtain ⟨mem, hs⟩ := mem_of_planFor? hq
    rw [hq, List.inj_on_of_nodup_map h mem hp hs]

theorem Node.mem_of_plan? {plans : List Plan} {n : Node} {p : Plan} (h : n.plan? plans = some p) :
    p ∈ plans ∧ p.span = n.span ∧ n.kind.isPlannable = true := by
  unfold Node.plan? at h
  split at h
  · rename_i hk
    obtain ⟨hp, hs⟩ := mem_of_planFor? h
    exact ⟨hp, hs, hk⟩
  · cases h

/-- A tree is not changed by plans for other spans than those of its functions, arrows and classes. -/
theorem Node.annotate_of_no_plan {plans : List Plan} {n : Node}
    (apart : ∀ c ∈ n.nodes, c.kind.isPlannable = true → ∀ p ∈ plans, p.span ≠ c.span) :
    n.annotate plans = n := by
  induction n using Node.induction with
  | step k s cs ih =>
    rw [Node.nodes_mk, List.forall_mem_cons, List.forall_mem_flatMap] at apart
    have parts : cs.map (Node.annotate plans) = cs := by
      rw [List.map_congr_left fun c hc => ih c hc (apart.2 c hc), List.map_id']
    have none : (Node.mk k s cs).plan? plans = none := by
      cases hp : (Node.mk k s cs).plan? plans with
      | none => rfl
      | some p =>
        obtain ⟨mem, span, plannable⟩ := Node.mem_of_plan? hp
        exact absurd span (apart.1 plannable p mem)
    rw [Node.annotate_mk, parts, Node.annotateHere, none]

/-! ## Nodes that no plan can be for -/

theorem Node.annotate_of_not_plannable {k : Kind} (h : k.isPlannable = false) (plans : List Plan)
    (s : Span) (cs : List Node) :
    (Node.mk k s cs).annotate plans = .mk k s (cs.map (Node.annotate plans)) := by
  simp [Node.annotate_mk, Node.annotateHere, Node.plan?_mk, h]

theorem Node.annotate_parameter (plans : List Plan) (m : Modifiers) (s : Span)
    (ds pattern type value : Node) :
    (Node.mk (.parameter m) s [ds, pattern, type, value]).annotate plans
      = .mk (.parameter m) s
        [ds.annotate plans, pattern.annotate plans, type.annotate plans, value.annotate plans] :=
  Node.annotate_of_not_plannable rfl plans s _

theorem Plan.applyTo_keeps (p : Plan) (n : Node) :
    (p.applyTo n).1.span = n.span ∧ (p.applyTo n).1.kind.isPlannable = n.kind.isPlannable := by
  fun_cases Plan.applyTo p n <;> exact ⟨rfl, rfl⟩

theorem Node.annotateHere_keeps (plans : List Plan) (n : Node) :
    (n.annotateHere plans).span = n.span
      ∧ (n.annotateHere plans).kind.isPlannable = n.kind.isPlannable := by
  unfold Node.annotateHere
  split
  · exact Plan.applyTo_keeps _ n
  · exact ⟨rfl, rfl⟩

@[simp] theorem Node.span_annotate (plans : List Plan) (n : Node) :
    (n.annotate plans).span = n.span := by
  obtain ⟨k, s, cs⟩ := n
  rw [Node.annotate_mk]
  exact (Node.annotateHere_keeps plans _).1

@[simp] theorem Node.isPlannable_annotate (plans : List Plan) (n : Node) :
    (n.annotate plans).kind.isPlannable = n.kind.isPlannable := by
  obtain ⟨k, s, cs⟩ := n
  rw [Node.annotate_mk]
  exact (Node.annotateHere_keeps plans _).2

theorem Node.kind_annotate_iff {plans : List Plan} {n : Node} {k : Kind} (h : k.isPlannable = false) :
    (n.annotate plans).kind = k ↔ n.kind = k := by
  obtain ⟨k', s, cs⟩ := n
  cases hk : k'.isPlannable with
  | false => rw [Node.annotate_of_not_plannable hk]; simp
  | true =>
    have hp : ((Node.mk k' s cs).annotate plans).kind.isPlannable = true := by simp [hk]
    constructor
    · intro e; rw [e, h] at hp; cases hp
    · intro e; rw [← e] at h; simp [hk] at h

theorem Node.eq_of_annotate_eq {plans : List Plan} {n : Node} {k : Kind} {s : Span} {ds : List Node}
    (h : k.isPlannable = false) (e : n.annotate plans = .mk k s ds) :
    ∃ cs, n = .mk k s cs ∧ ds = cs.map (Node.annotate plans) := by
  obtain ⟨k', s', cs⟩ := n
  obtain rfl : k' = k := (Node.kind_annotate_iff h).mp (congrArg Node.kind e)
  rw [Node.annotate_of_not_plannable h] at e
  cases e
  exact ⟨cs, rfl, rfl⟩

theorem function_parts_of_annotate {plans : List Plan} {cs : List Node}
    {name types this result body : Node} {ps : Span} {params : List Node}
    (e : cs.map (Node.annotate plans) = [name, types, this, .mk .parameters ps params, result, body]) :
    ∃ name types this params result body,
      cs = [name, types, this, .mk .parameters ps params, result, body] := by
  simp only [List.map_eq_cons_iff, List.map_eq_nil_iff] at e
  obtain ⟨name, _, rfl, -, types, _, rfl, -, this, _, rfl, -, _, _, rfl, hp, result, _, rfl, -,
    body, _, rfl, -, rfl⟩ := e
  obtain ⟨params, rfl, -⟩ := Node.eq_of_annotate_eq rfl hp
  exact ⟨name, types, this, params, result, body, rfl⟩

theorem arrow_parts_of_annotate {plans : List Plan} {cs : List Node} {types result body : Node}
    {ps : Span} {params : List Node}
    (e : cs.map (Node.annotate plans) = [types, .mk .parameters ps params, result, body]) :
    ∃ types params result body, cs = [types, .mk .parameters ps params, result, body] := by
  simp only [List.map_eq_cons_iff, List.map_eq_nil_iff] at e
  obtain ⟨types, _, rfl, -, _, _, rfl, hp, result, _, rfl, -, body, _, rfl, -, rfl⟩ := e
  obtain ⟨params, rfl, -⟩ := Node.eq_of_annotate_eq rfl hp
  exact ⟨types, params, result, body, rfl⟩

theorem class_parts_of_annotate {plans : List Plan} {cs : List Node}
    {ds name types base baseTypes implemented body : Node}
    (e : cs.map (Node.annotate plans) = [ds, name, types, base, baseTypes, implemented, body]) :
    ∃ ds name types base baseTypes implemented body,
      cs = [ds, name, types, base, baseTypes, implemented, body] := by
  simp only [List.map_eq_cons_iff, List.map_eq_nil_iff] at e
  obtain ⟨ds, _, rfl, -, name, _, rfl, -, types, _, rfl, -, base, _, rfl, -, baseTypes, _, rfl, -,
    implemented, _, rfl, -, body, _, rfl, -, rfl⟩ := e
  exact ⟨ds, name, types, base, baseTypes, implemented, body, rfl⟩

theorem Node.isAbsent_of_plannable {n : Node} (h : n.kind.isPlannable = true) :
    n.isAbsent = false := by
  cases ha : n.isAbsent with
  | false => rfl
  | true => rw [(Node.isAbsent_iff.mp ha).1] at h; cases h

@[simp] theorem Node.isAbsent_annotate (plans : List Plan) (n : Node) :
    (n.annotate plans).isAbsent = n.isAbsent := by
  cases hk : n.kind.isPlannable with
  | true =>
    rw [Node.isAbsent_of_plannable hk]
    exact Node.isAbsent_of_plannable (by simp [hk])
  | false =>
    obtain ⟨k, s, cs⟩ := n
    rw [Node.annotate_of_not_plannable (k := k) hk, Bool.eq_iff_iff, Node.isAbsent_iff, Node.isAbsent_iff]
    simp

@[simp] theorem Node.isDirective_annotate (plans : List Plan) (n : Node) :
    (n.annotate plans).isDirective = n.isDirective := by
  rw [Bool.eq_iff_iff, Node.isDirective_iff, Node.isDirective_iff]
  exact exists_congr fun raw => Node.kind_annotate_iff rfl

/-! ## What is done to the first parameter -/

/-- The ways in which a list of parameters is treated: `props` is added to an empty one; only a first
parameter without a type gets one, if no props are declared, or is replaced, if they are; anything else
stays as it is. -/
theorem ParameterChange.of_cases (isDeclared : Bool) (params : List Node) :
    (params = [] ∧ ParameterChange.of isDeclared params = .add)
      ∨ (params ≠ [] ∧ (ParameterChange.of isDeclared params = .keep
          ∨ ∃ reason, ParameterChange.of isDeclared params = .unsupported reason))
      ∨ ∃ m s ds pattern type value rest,
          params = .mk (.parameter m) s [ds, pattern, type, value] :: rest ∧ type.isAbsent = true
            ∧ (isDeclared = false ∧ ParameterChange.of isDeclared params = .setType
              ∨ isDeclared = true ∧ (ParameterChange.of isDeclared params = .replace
                ∨ ParameterChange.of isDeclared params = .moveToBody)) := by
  unfold ParameterChange.of
  split
  · exact .inl ⟨rfl, rfl⟩
  · rename_i m s ds pattern type value rest
    split
    · exact .inr (.inl ⟨by simp, .inl rfl⟩)
    · rename_i ht
      have ht : type.isAbsent = true := by simpa [Node.isPresent] using ht
      cases isDeclared with
      | false =>
        split
        · exact .inr (.inl ⟨by simp, .inl rfl⟩)
        · exact .inr (.inl ⟨by simp, .inl rfl⟩)
        · exact .inr (.inr ⟨m, s, ds, pattern, type, value, rest, rfl, ht, .inl ⟨rfl, rfl⟩⟩)
        · exact .inr (.inl ⟨by simp, .inr ⟨_, rfl⟩⟩)
        · exact .inr (.inl ⟨by simp, .inl rfl⟩)
      | true =>
        split
        · exact .inr (.inr ⟨m, s, ds, pattern, type, value, rest, rfl, ht, .inr ⟨rfl, .inr rfl⟩⟩)
        · exact .inr (.inr ⟨m, s, ds, pattern, type, value, rest, rfl, ht, .inr ⟨rfl, .inr rfl⟩⟩)
        · exact .inr (.inr ⟨m, s, ds, pattern, type, value, rest, rfl, ht, .inr ⟨rfl, .inl rfl⟩⟩)
        · exact .inr (.inl ⟨by simp, .inr ⟨_, rfl⟩⟩)
        · exact .inr (.inl ⟨by simp, .inl rfl⟩)
  · exact .inr (.inl ⟨by simp, .inr ⟨_, rfl⟩⟩)

theorem ParameterChange.of_cons_plannable {isDeclared : Bool} {m : Modifiers} {s : Span}
    {ds pattern type value : Node} {rest : List Node} (h : pattern.kind.isPlannable = true) :
    ParameterChange.of isDeclared (.mk (.parameter m) s [ds, pattern, type, value] :: rest) = .keep := by
  simp only [ParameterChange.of]
  split
  · rfl
  · revert h
    cases pattern.kind <;> simp [Kind.isPlannable]

/-- What is done to the parameters can be read off before their parts are annotated. -/
@[simp] theorem ParameterChange.of_map_annotate (plans : List Plan) (isDeclared : Bool)
    (params : List Node) :
    ParameterChange.of isDeclared (params.map (Node.annotate plans))
      = ParameterChange.of isDeclared params := by
  -- what is no parameter is told by its kind, which annotation keeps
  have rest : ∀ (first : Node) (others : List Node), (∀ m, first.kind ≠ .parameter m) →
      ParameterChange.of isDeclared (first :: others) = .unsupported restReason := by
    intro first others h
    unfold ParameterChange.of
    split
    · rename_i e
      cases e
    · rename_i e
      cases e
      exact absurd rfl (h _)
    · rfl
  rcases params with _ | ⟨⟨k, s, cs⟩, others⟩
  · rfl
  · by_cases hk : ∃ m, k = .parameter m
    · obtain ⟨m, rfl⟩ := hk
      rw [List.map_cons, Node.annotate_of_not_plannable rfl]
      -- only a parameter with its four parts is looked into
      rcases cs with _ | ⟨a, _ | ⟨pattern, _ | ⟨type, _ | ⟨value, _ | ⟨e, cs⟩⟩⟩⟩⟩ <;> try rfl
      cases hp : pattern.kind.isPlannable with
      | true =>
        rw [ParameterChange.of_cons_plannable hp]
        exact ParameterChange.of_cons_plannable (by simp [hp])
      | false =>
        have kind : (pattern.annotate plans).kind = pattern.kind := (Node.kind_annotate_iff hp).mpr rfl
        simp only [List.map_cons, List.map_nil, ParameterChange.of, Node.isPresent,
          Node.isAbsent_annotate, kind]
        rfl
    · rw [not_exists] at hk
      rw [List.map_cons, rest (.mk k s cs) others hk, rest]
      intro m
      rw [Ne, Node.kind_annotate_iff rfl]
      exact hk m

/-! ## The value of a body -/

theorem mem_of_firstValue? {parts : List Node} {e : Node} (h : firstValue? parts = some e) :
    ∃ s, Node.mk .expressionStatement s [e] ∈ parts := by
  fun_induction firstValue? parts with
  | case1 raw t cs rest ih =>
    obtain ⟨s, mem⟩ := ih h
    exact ⟨s, List.mem_cons_of_mem _ mem⟩
  | case2 s value rest =>
    cases h
    exact ⟨s, List.mem_cons_self⟩
  | case3 => cases h

theorem firstValue?_map_annotate (plans : List Plan) (parts : List Node) :
    firstValue? (parts.map (Node.annotate plans)) = (firstValue? parts).map (Node.annotate plans) := by
  -- the value is looked for behind directives only
  have none : ∀ (part : Node) (others : List Node), (∀ text, part.kind ≠ .directive text) →
      part.kind ≠ .expressionStatement → firstValue? (part :: others) = none := by
    intro part others hd he
    unfold firstValue?
    split
    · rename_i e
      cases e
      exact absurd rfl (hd _)
    · rename_i e
      cases e
      exact absurd rfl he
    · rfl
  induction parts with
  | nil => rfl
  | cons part parts ih =>
    obtain ⟨k, s, cs⟩ := part
    by_cases hd : ∃ text, k = .directive text
    · obtain ⟨text, rfl⟩ := hd
      rw [List.map_cons, Node.annotate_of_not_plannable rfl, firstValue?, firstValue?, ih]
    · rw [not_exists] at hd
      by_cases he : k = .expressionStatement
      · rw [he, List.map_cons, Node.annotate_of_not_plannable rfl]
        rcases cs with _ | ⟨value, _ | ⟨other, cs⟩⟩ <;> rfl
      · rw [List.map_cons, none (.mk k s cs) parts hd he, none]
        · rfl
        · intro text
          rw [Ne, Node.kind_annotate_iff rfl]
          exact hd text
        · rw [Ne, Node.kind_annotate_iff rfl]
          exact he

theorem Node.bindInBody?_of_kind_ne {body : Node} (h : body.kind ≠ .functionBody) (pattern : Node)
    (isExpression : Bool) : body.bindInBody? pattern isExpression = none := by
  unfold Node.bindInBody?
  split
  · exact absurd rfl h
  · rfl

theorem Node.isSome_bindInBody? (body pattern pattern' : Node) (isExpression : Bool) :
    (body.bindInBody? pattern isExpression).isSome = (body.bindInBody? pattern' isExpression).isSome := by
  unfold Node.bindInBody?
  split
  · cases isExpression with
    | false => rfl
    | true => simp
  · rfl

theorem Node.isSome_bindInBody?_annotate (plans : List Plan) (body pattern pattern' : Node)
    (isExpression : Bool) :
    ((body.annotate plans).bindInBody? pattern isExpression).isSome
      = (body.bindInBody? pattern' isExpression).isSome := by
  obtain ⟨k, s, parts⟩ := body
  by_cases hk : k = .functionBody
  · rw [hk, Node.annotate_of_not_plannable rfl]
    cases isExpression with
    | false => rfl
    | true => simp [Node.bindInBody?, firstValue?_map_annotate]
  · have hn : ((Node.mk k s parts).annotate plans).kind ≠ .functionBody := by
      rwa [Ne, Node.kind_annotate_iff rfl]
    have hk : (Node.mk k s parts).kind ≠ .functionBody := hk
    rw [Node.bindInBody?_of_kind_ne hn, Node.bindInBody?_of_kind_ne hk]

/-! ## What a plan does -/

/-- The ways in which a plan changes a signature: not at all; all but the body; or with a pattern bound
in the body, which then is a list of statements. -/
theorem Plan.apply_cases (p : Plan) (parts : SignatureParts) :
    (p.apply parts).1 = parts
      ∨ (∃ result, (result = parts.result
            ∨ result = if parts.result.isPresent then parts.result else elementType)
          ∧ (p.apply parts).1 = { parts with
              params := p.parameters (ParameterChange.of p.isDeclared parts.params) parts.params
              result := result })
      ∨ ∃ bound, parts.body.bindInBody? (parts.params.headD .absent).parameterPattern parts.isExpression
            = some bound
          ∧ (p.apply parts).1 = {
              params := p.parameters (ParameterChange.of p.isDeclared parts.params) parts.params
              result := if parts.result.isPresent then parts.result else elementType
              body := bound
              isExpression := false } := by
  cases hc : ParameterChange.of p.isDeclared parts.params with
  | unsupported reason =>
    refine .inl ?_
    simp only [Plan.apply, hc]
  | moveToBody =>
    cases hb : parts.body.bindInBody? (parts.params.headD .absent).parameterPattern parts.isExpression with
    | some bound =>
      refine .inr (.inr ⟨bound, rfl, ?_⟩)
      simp only [Plan.apply, hc, hb]
    | none =>
      refine .inr (.inl ⟨parts.result, .inl rfl, ?_⟩)
      simp only [Plan.apply, hc, hb]
  | _ =>
    refine .inr (.inl ⟨_, .inr rfl, ?_⟩)
    simp only [Plan.apply, hc]

end TypedJsx
