import TypedJsx.Proofs.Signature.Kept
/-!
Counting the nodes of an annotated tree. Besides types, annotation adds only nodes that no plan can be
for, so the nodes that a plan can be for, and the types that name interfaces, are those of the annotated
parts that are kept, and what the node's own plan writes (`TellsBySpan.counted`).
-/
namespace TypedJsx

/-! ## What a plan writes -/

/-- Whether a change puts the interface into the parameters. -/
def ParameterChange.writes : ParameterChange → Bool
  | .keep | .unsupported _ => false
  | _ => true

/-- Whether a plan writes its interface into a node. -/
def Plan.writes (p : Plan) : Node → Bool
  | .mk (.function _) _ [_, _, _, .mk .parameters _ params, _, body] =>
    !body.isAbsent && (ParameterChange.of p.isDeclared params).writes
  | .mk (.arrow _) _ [_, .mk .parameters _ params, _, _] =>
    (ParameterChange.of p.isDeclared params).writes
  | .mk (.classNode _) _ [_, _, _, _, baseTypes, _, _] => baseTypes.isAbsent
  | _ => false

/-- Whether the plan for a node, if there is one, writes its interface and the type passes a test. -/
def Node.writesPassing (plans : List Plan) (test : Node → Bool) (n : Node) : Bool :=
  (n.plan? plans).any fun p => p.writes n && test p.interfaceType

theorem Node.writesPassing_eq_false {plans : List Plan} {test : Node → Bool} {n : Node}
    (h : ∀ p, n.plan? plans = some p → p.writes n = true → test p.interfaceType = false) :
    n.writesPassing plans test = false := by
  unfold Node.writesPassing
  cases hp : n.plan? plans with
  | none => rfl
  | some p =>
    rw [Option.any_some, Bool.and_eq_false_iff]
    cases hw : p.writes n with
    | false => exact .inl rfl
    | true => exact .inr (h p hp hw)

/-! ## Tests on nodes -/

/-- A test that tells the nodes that plans can be for only by their spans, and passes nothing else but
types; not the type of markup. -/
structure TellsBySpan (test : Node → Bool) : Prop where
  plannable : ∀ {k k' : Kind} (s : Span) (cs cs' : List Node), k.isPlannable = true →
    k'.isPlannable = true → test (.mk k s cs) = test (.mk k' s cs')
  other : ∀ (k : Kind) (s : Span) (cs : List Node), k.isPlannable = false → k ≠ .typeReference →
    test (.mk k s cs) = false
  element : test elementType = false

section
variable {test : Node → Bool} (h : TellsBySpan test)
include h

theorem TellsBySpan.occurrences_mk {k : Kind} (hk : k.isPlannable = false) (ht : k ≠ .typeReference)
    (s : Span) (cs : List Node) : (Node.mk k s cs).occurrences test = occurrencesIn test cs := by
  rw [Node.occurrences_mk, h.other k s cs hk ht]
  simp

theorem TellsBySpan.occurrences_leaf {k : Kind} (hk : k.isPlannable = false) (ht : k ≠ .typeReference)
    (s : Span) : (Node.mk k s []).occurrences test = 0 := by
  rw [h.occurrences_mk hk ht, occurrencesIn_nil]

theorem TellsBySpan.occurrences_of_isAbsent {n : Node} (ha : n.isAbsent = true) :
    n.occurrences test = 0 := by
  obtain ⟨k, s, cs⟩ := n
  obtain ⟨rfl, rfl⟩ := Node.isAbsent_iff.mp ha
  exact h.occurrences_leaf rfl (by simp) s

theorem TellsBySpan.occurrences_interfaceType (p : Plan) :
    p.interfaceType.occurrences test = (test p.interfaceType).toNat := by
  have name := h.occurrences_leaf (k := .reference p.interfaceName) rfl (by simp) Span.none
  have none := h.occurrences_leaf (k := .absent) rfl (by simp) Span.none
  simp only [Plan.interfaceType, Node.fresh, Node.absent, Node.occurrences_mk test .typeReference,
    occurrencesIn_cons, occurrencesIn_nil, name, none, Nat.add_zero]

theorem TellsBySpan.occurrences_propsParameter (p : Plan) :
    p.propsParameter.occurrences test = (test p.interfaceType).toNat := by
  have decorators := h.occurrences_leaf (k := .decorators) rfl (by simp) Span.none
  have name := h.occurrences_leaf (k := .binding propsName) rfl (by simp) Span.none
  have none := h.occurrences_leaf (k := .absent) rfl (by simp) Span.none
  rw [← h.occurrences_interfaceType p, Plan.propsParameter, Node.fresh, h.occurrences_mk rfl (by simp)]
  simp only [Node.fresh, Node.absent, occurrencesIn_cons, occurrencesIn_nil, decorators, name, none,
    Nat.zero_add, Nat.add_zero]

theorem TellsBySpan.occurrences_elementType : elementType.occurrences test = 0 := by
  have space := h.occurrences_leaf (k := .reference "JSX") rfl (by simp) Span.none
  have name := h.occurrences_leaf (k := .name "Element") rfl (by simp) Span.none
  have none := h.occurrences_leaf (k := .absent) rfl (by simp) Span.none
  have element := h.element
  simp only [elementType, Node.fresh, Node.absent] at element ⊢
  rw [Node.occurrences_mk, element, occurrencesIn_cons, h.occurrences_mk rfl (by simp)]
  simp only [occurrencesIn_cons, occurrencesIn_nil, space, name, none, Bool.toNat_false]

theorem TellsBySpan.occurrences_result (result : Node) :
    (if result.isPresent then result else elementType).occurrences test = result.occurrences test := by
  cases ha : result.isAbsent with
  | false => simp [Node.isPresent, ha]
  | true => simp [Node.isPresent, ha, h.occurrences_elementType, h.occurrences_of_isAbsent ha]

theorem TellsBySpan.occurrences_baseTypes (p : Plan) (types : Node) :
    (if types.isPresent then types else .fresh .typeArguments [p.interfaceType]).occurrences test
      = types.occurrences test + (types.isAbsent && test p.interfaceType).toNat := by
  cases ha : types.isAbsent with
  | false => simp [Node.isPresent, ha]
  | true =>
    simp [Node.isPresent, ha, Node.fresh, h.occurrences_mk (k := .typeArguments) rfl (by simp),
      h.occurrences_interfaceType, h.occurrences_of_isAbsent ha]

theorem TellsBySpan.occurrences_propsBinding (pattern : Node) :
    (propsBinding pattern).occurrences test = pattern.occurrences test := by
  have name := h.occurrences_leaf (k := .reference propsName) rfl (by simp) Span.none
  have none := h.occurrences_leaf (k := .absent) rfl (by simp) Span.none
  rw [propsBinding, Node.fresh, h.occurrences_mk rfl (by simp), occurrencesIn_cons, Node.fresh,
    h.occurrences_mk rfl (by simp)]
  simp only [Node.fresh, Node.absent, occurrencesIn_cons, occurrencesIn_nil, name, none, Nat.add_zero]

end

theorem occurrencesIn_prependStatement (test : Node → Bool) (statement : Node) (parts : List Node) :
    occurrencesIn test (prependStatement statement parts)
      = statement.occurrences test + occurrencesIn test parts := by
  have split : occurrencesIn test parts = occurrencesIn test (parts.takeWhile Node.isDirective)
      + occurrencesIn test (parts.dropWhile Node.isDirective) := by
    rw [← occurrencesIn_append, List.takeWhile_append_dropWhile]
  rw [prependStatement, occurrencesIn_append, occurrencesIn_cons, split]
  omega

/-! ## Annotated nodes -/

/-- The nodes of an annotated node that pass a test are the node itself, the type that its plan writes,
and those of the annotated parts that are kept. -/
def Counted (test : Node → Bool) (plans : List Plan) (n : Node) : Prop :=
  (n.annotate plans).occurrences test
    = (test (n.withChildren (n.children.map (Node.annotate plans)))).toNat
      + (n.writesPassing plans test).toNat
      + occurrencesIn test ((n.kept plans).map (Node.annotate plans))

section
variable {test : Node → Bool} (h : TellsBySpan test) (plans : List Plan)
include h

theorem TellsBySpan.occurrences_bindInBody? {body pattern bound : Node} {isExpression : Bool}
    (hb : (body.annotate plans).bindInBody? pattern isExpression = some bound) :
    bound.occurrences test = pattern.occurrences test + occurrencesIn test
      ((Remainder.onlyPattern.body isExpression body).map (Node.annotate plans)) := by
  obtain ⟨k, s, parts⟩ := body
  obtain rfl : k = .functionBody := by
    have := kind_of_bindInBody? (Option.isSome_of_eq_some hb)
    rwa [Node.kind_annotate_iff rfl] at this
  rw [Node.annotate_of_not_plannable rfl] at hb
  cases isExpression with
  | false =>
    cases hb
    have left : Remainder.onlyPattern.body false (.mk .functionBody s parts)
        = [.mk .functionBody s parts] := rfl
    rw [left, List.map_singleton, Node.annotate_of_not_plannable rfl, occurrencesIn_cons,
      h.occurrences_mk rfl (by simp), h.occurrences_mk rfl (by simp), occurrencesIn_prependStatement,
      h.occurrences_propsBinding]
    simp
  | true =>
    simp only [Node.bindInBody?, if_true, firstValue?_map_annotate, Option.map_map,
      Option.map_eq_some_iff] at hb
    obtain ⟨e, he, rfl⟩ := hb
    have left : Remainder.onlyPattern.body true (.mk .functionBody s parts) = [e] := by
      simp [Remainder.body, Node.bodyValue?, he]
    rw [left, Function.comp_apply, h.occurrences_mk rfl (by simp), occurrencesIn_cons,
      h.occurrences_propsBinding, occurrencesIn_cons, Node.fresh, h.occurrences_mk rfl (by simp)]
    simp

/-- The parameters, result and body of a component after its plan was carried out, over annotated parts. -/
theorem TellsBySpan.occurrences_apply (p : Plan) (params : List Node) (result body : Node)
    (isExpression : Bool) :
    let parts := (p.apply ⟨params.map (Node.annotate plans), result.annotate plans, body.annotate plans,
      isExpression⟩).1
    let remainder := p.remainder isExpression params body
    occurrencesIn test parts.params + parts.result.occurrences test + parts.body.occurrences test
      = ((ParameterChange.of p.isDeclared params).writes && test p.interfaceType).toNat
        + occurrencesIn test ((remainder.parameters params).map (Node.annotate plans))
        + (result.annotate plans).occurrences test
        + occurrencesIn test ((remainder.body isExpression body).map (Node.annotate plans)) := by
  have hA := ParameterChange.of_map_annotate plans p.isDeclared params
  rcases ParameterChange.of_cases p.isDeclared params with ⟨rfl, hc⟩ | ⟨hne, hc | ⟨reason, hc⟩⟩ |
    ⟨m, s, ds, pattern, type, value, rest, rfl, ht, ⟨-, hc⟩ | ⟨-, hc | hc⟩⟩ <;> rw [hc] at hA
  · -- `props` is added to no parameters
    simp only [Plan.apply, hc, Plan.parameters, Plan.remainder, Remainder.parameters,
      Remainder.body_whole, h.occurrences_result, ParameterChange.writes, occurrencesIn_append,
      occurrencesIn_cons, occurrencesIn_nil, List.map_cons, List.map_nil, h.occurrences_propsParameter,
      Bool.true_and]
    omega
  · simp only [Plan.apply, hA, hc, Plan.parameters, Plan.remainder, Remainder.parameters,
      Remainder.body_whole, h.occurrences_result, ParameterChange.writes, occurrencesIn_cons,
      occurrencesIn_nil, List.map_cons, List.map_nil, Bool.false_and]
    simp
  · simp only [Plan.apply, hA, hc, Plan.remainder, Remainder.parameters, Remainder.body_whole,
      ParameterChange.writes, occurrencesIn_cons,
      occurrencesIn_nil, List.map_cons, List.map_nil, Bool.false_and]
    simp
  · -- the first parameter gets a type in the place of none
    have first := Node.annotate_parameter plans m s ds pattern type value
    have none : (type.annotate plans).occurrences test = 0 := h.occurrences_of_isAbsent (by simpa using ht)
    rw [List.map_cons, first] at hA ⊢
    simp only [Plan.apply, hA, hc, Plan.parameters, Plan.remainder, Remainder.parameters,
      Remainder.body_whole, Node.withParameterType, h.occurrences_result, ParameterChange.writes,
      occurrencesIn_cons, occurrencesIn_nil, List.map_cons, List.map_nil, first, Bool.true_and,
      h.occurrences_mk (k := .parameter m) rfl (by simp), h.occurrences_interfaceType, none]
    omega
  · -- the first parameter is replaced, and lost with all its parts
    rw [List.map_cons] at hA ⊢
    simp only [Plan.apply, hA, hc, Plan.parameters, Plan.remainder, Remainder.parameters,
      Remainder.body_nothing, h.occurrences_result, ParameterChange.writes, occurrencesIn_cons,
      occurrencesIn_nil, List.map_cons, List.map_nil, h.occurrences_propsParameter, Bool.true_and,
      Nat.add_zero]
  · -- the first parameter is replaced, and its pattern goes to the body if that can bind it
    have first := Node.annotate_parameter plans m s ds pattern type value
    have binds :=
      Node.isSome_bindInBody?_annotate plans body (pattern.annotate plans) .absent isExpression
    rw [List.map_cons, first] at hA ⊢
    cases hb : (body.annotate plans).bindInBody? (pattern.annotate plans) isExpression with
    | some bound =>
      rw [hb, Option.isSome_some] at binds
      simp only [Plan.apply, hA, hc, Plan.parameters, Plan.remainder, ← binds, if_true,
        Remainder.parameters, List.headD_cons, Node.parameterPattern, hb, h.occurrences_result,
        h.occurrences_bindInBody? plans hb, ParameterChange.writes, occurrencesIn_append,
        occurrencesIn_cons, occurrencesIn_nil, List.map_append, List.map_cons, List.map_nil,
        h.occurrences_propsParameter, Bool.true_and]
      omega
    | none =>
      rw [hb, Option.isSome_none] at binds
      simp only [Plan.apply, hA, hc, Plan.parameters, Plan.remainder, ← binds, Bool.false_eq_true,
        if_false, Remainder.parameters, List.headD_cons, Node.parameterPattern, hb,
        Remainder.body_nothing, ParameterChange.writes, occurrencesIn_cons, occurrencesIn_nil, List.map_cons, List.map_nil,
        h.occurrences_propsParameter, Bool.true_and, Nat.add_zero]

theorem TellsBySpan.counted_function (form : FunctionForm) (s : Span) (name types this : Node) (ps : Span)
    (params : List Node) (result body : Node) :
    Counted test plans
      (.mk (.function form) s [name, types, this, .mk .parameters ps params, result, body]) := by
  unfold Counted
  simp only [Node.kept]
  -- the remainder gets a name, since it is all that the three cases below differ in
  generalize hr : (if body.isAbsent then Remainder.whole
    else remainderUnder (planFor? plans s) false params body) = remainder
  have parameters := Node.annotate_of_not_plannable (k := .parameters) rfl plans ps params
  -- the test looks at the span of such a node, and not at its parts, which have changed
  have own : ∀ cs, test (.mk (.function form) s cs) = test (.mk (.function form) s []) := fun cs =>
    h.plannable s cs [] rfl rfl
  rw [Node.annotate_mk, Node.annotateHere, Node.writesPassing, Node.plan?_mk, Node.plan?_mk]
  simp only [Kind.isPlannable, if_true, List.map_cons, List.map_nil, parameters, Node.withChildren_mk,
    Node.children_mk, own]
  cases hplan : planFor? plans s with
  | none =>
    have whole : remainder = .whole := by simp [← hr, hplan, remainderUnder]
    simp only [whole, Remainder.parameters, Node.occurrences_mk test (.function form), own,
      h.occurrences_mk (k := .parameters) rfl (by simp), occurrencesIn_cons, occurrencesIn_nil,
      occurrencesIn_append, List.map_append, List.map_cons, List.map_nil, Option.any_none]
    simp
    omega
  | some p =>
    cases ha : body.isAbsent with
    | true =>
      have whole : remainder = .whole := by simp [← hr, ha]
      simp only [Plan.applyTo, Plan.writes, Node.isAbsent_annotate, ha, if_true, whole,
        Remainder.parameters, Node.occurrences_mk test (.function form), own,
        h.occurrences_mk (k := .parameters) rfl (by simp), occurrencesIn_cons, occurrencesIn_nil,
        occurrencesIn_append, List.map_append, List.map_cons, List.map_nil, Option.any_some]
      simp
      omega
    | false =>
      have apply := h.occurrences_apply plans p params result body false
      have left : remainder = p.remainder false params body := by
        simp [← hr, ha, hplan, remainderUnder]
      have leftBody : (p.remainder false params body).body false body = [body] := rfl
      simp only [leftBody] at apply
      simp only [Plan.applyTo, Plan.writes, Node.isAbsent_annotate, ha, left, Bool.false_eq_true, if_false,
        Node.occurrences_mk test (.function form), own, Bool.not_false, Bool.true_and,
        h.occurrences_mk (k := .parameters) rfl (by simp), occurrencesIn_cons, occurrencesIn_nil,
        occurrencesIn_append, List.map_append, List.map_cons, List.map_nil, Option.any_some] at apply ⊢
      omega

theorem TellsBySpan.counted_arrow (form : ArrowForm) (s : Span) (types : Node) (ps : Span)
    (params : List Node) (result body : Node) :
    Counted test plans (.mk (.arrow form) s [types, .mk .parameters ps params, result, body]) := by
  unfold Counted
  simp only [Node.kept]
  generalize hr : remainderUnder (planFor? plans s) form.isExpression params body = remainder
  have parameters := Node.annotate_of_not_plannable (k := .parameters) rfl plans ps params
  have own : ∀ form' cs, test (.mk (.arrow form') s cs) = test (.mk (.arrow form) s []) := fun _ cs =>
    h.plannable s cs [] rfl rfl
  rw [Node.annotate_mk, Node.annotateHere, Node.writesPassing, Node.plan?_mk, Node.plan?_mk]
  simp only [Kind.isPlannable, if_true, List.map_cons, List.map_nil, parameters, Node.withChildren_mk,
    Node.children_mk, own]
  cases hplan : planFor? plans s with
  | none =>
    have whole : remainder = .whole := by simp [← hr, hplan, remainderUnder]
    simp only [whole, Remainder.body_whole, Remainder.parameters, Node.occurrences_mk test (.arrow form),
      own, h.occurrences_mk (k := .parameters) rfl (by simp), occurrencesIn_cons, occurrencesIn_nil,
      occurrencesIn_append, List.map_append, List.map_cons, List.map_nil, Option.any_none,
      Bool.toNat_false]
    omega
  | some p =>
    have apply := h.occurrences_apply plans p params result body form.isExpression
    have left : remainder = p.remainder form.isExpression params body := by
      simp [← hr, hplan, remainderUnder]
    simp only [Plan.applyTo, Plan.writes, left, Node.occurrences_mk test (.arrow _), own,
      h.occurrences_mk (k := .parameters) rfl (by simp), occurrencesIn_cons, occurrencesIn_nil,
      occurrencesIn_append, List.map_append, List.map_cons, List.map_nil, Option.any_some] at apply ⊢
    omega

theorem TellsBySpan.counted_other {k : Kind} {s : Span} {cs : List Node}
    (hf : ∀ (form : FunctionForm) (name types this : Node) (ps : Span) (params : List Node)
      (result body : Node), k = .function form →
        cs = [name, types, this, .mk .parameters ps params, result, body] → False)
    (ha : ∀ (form : ArrowForm) (types : Node) (ps : Span) (params : List Node) (result body : Node),
      k = .arrow form → cs = [types, .mk .parameters ps params, result, body] → False)
    (hk : (Node.mk k s cs).kept plans = cs) : Counted test plans (.mk k s cs) := by
  unfold Counted
  rw [hk]
  rw [Node.annotate_mk, Node.annotateHere, Node.writesPassing, Node.plan?_mk, Node.plan?_mk,
    Node.withChildren_mk, Node.children_mk]
  cases hplan : (if k.isPlannable = true then planFor? plans s else none) with
  | none => simp [Node.occurrences_mk]
  | some p =>
    simp only [Option.any_some]
    unfold Plan.applyTo
    split
    · rename_i e
      -- annotated parts have the layout of a function only if the parts had it
      obtain ⟨hk, -, e⟩ := Node.mk.inj e
      obtain ⟨_, _, _, _, _, _, e⟩ := function_parts_of_annotate e
      exact (hf _ _ _ _ _ _ _ _ hk e).elim
    · rename_i e
      obtain ⟨hk, -, e⟩ := Node.mk.inj e
      obtain ⟨_, _, _, _, e⟩ := arrow_parts_of_annotate e
      exact (ha _ _ _ _ _ _ hk e).elim
    · rename_i form _ _ _ _ _ _ _ _ e
      simp only [Node.mk.injEq, List.map_eq_cons_iff, List.map_eq_nil_iff] at e
      obtain ⟨rfl, rfl, ds, _, rfl, rfl, name, _, rfl, rfl, types, _, rfl, rfl, base, _, rfl, rfl,
        baseTypes, _, rfl, rfl, implemented, _, rfl, rfl, body, _, rfl, rfl, rfl⟩ := e
      -- a class: what its plan writes are the type arguments, if there are none
      have written := h.occurrences_baseTypes p (baseTypes.annotate plans)
      rw [Node.isAbsent_annotate] at written
      have own : ∀ cs, test (.mk (.classNode form) s cs) = test (.mk (.classNode form) s []) := fun cs =>
        h.plannable s cs [] rfl rfl
      simp only [Node.occurrences_mk test (.classNode _), Plan.writes, occurrencesIn_cons, written,
        List.map_cons, List.map_nil, own]
      omega
    · rename_i hf' ha' hc
      have : p.writes (.mk k s cs) = false := by
        unfold Plan.writes
        split
        · rename_i e
          cases e
          exact (hf _ _ _ _ _ _ _ _ rfl rfl).elim
        · rename_i e
          cases e
          exact (ha _ _ _ _ _ _ rfl rfl).elim
        · rename_i e
          cases e
          exact (hc _ _ _ _ _ _ _ _ _ rfl).elim
        · rfl
      rw [this, Node.occurrences_mk]
      simp

/-- The nodes of an annotated node that pass a test: the node itself, the type that its plan writes, and
those of the annotated parts that are kept. -/
theorem TellsBySpan.counted (n : Node) : Counted test plans n := by
  fun_cases Node.kept plans n with
  | case1 form s name types this ps params result body =>
    exact h.counted_function plans form s name types this ps params result body
  | case2 form s types ps params result body =>
    exact h.counted_arrow plans form s types ps params result body
  | case3 k s cs hf ha =>
    refine h.counted_other plans hf ha ?_
    unfold Node.kept
    split
    · rename_i e
      cases e
      exact (hf _ _ _ _ _ _ _ _ rfl rfl).elim
    · rename_i e
      cases e
      exact (ha _ _ _ _ _ _ rfl rfl).elim
    · rename_i e
      cases e
      rfl

end

end TypedJsx
