import TypedJsx.Proofs.Signature.Written
/-!
The interface names that annotation writes. A plan that fails without declared props writes nothing;
every other outcome may have written the name of its interface. So a name that no such outcome has is
written nowhere (`Node.occurrences_namesType_le`), and the annotated tree does not depend on it
(`Node.annotate_rename`).
-/
namespace TypedJsx

/-- An outcome under which the name of the interface may have been written. -/
def Outcome.mayWrite (o : Outcome) : Bool := o.failure.isNone || o.plan.isDeclared

theorem Plan.mayWrite_of_writes {p : Plan} {n : Node} (h : p.writes n = true) :
    (Outcome.mk p (p.applyTo n).2).mayWrite = true := by
  have apply : ∀ parts : SignatureParts, (ParameterChange.of p.isDeclared parts.params).writes = true →
      (Outcome.mk p (p.apply parts).2).mayWrite = true := by
    intro parts hw
    -- a change that writes nothing is against `hw`; any other succeeds, or is of a plan with declared props
    rcases ParameterChange.of_cases p.isDeclared parts.params with ⟨-, hc⟩ | ⟨-, hc | ⟨reason, hc⟩⟩ |
      ⟨_, _, _, _, _, _, _, -, -, ⟨-, hc⟩ | ⟨hd, -⟩⟩
    · simp [Outcome.mayWrite, Plan.apply, hc]
    · rw [hc] at hw
      cases hw
    · rw [hc] at hw
      cases hw
    · simp [Outcome.mayWrite, Plan.apply, hc]
    · simp [Outcome.mayWrite, hd]
  unfold Plan.writes at h
  unfold Plan.applyTo
  split at h
  · obtain ⟨ha, hw⟩ := Bool.and_eq_true_iff.mp h
    rw [Bool.not_eq_true'] at ha
    simp only [ha, Bool.false_eq_true, if_false]
    exact apply ⟨_, _, _, false⟩ hw
  · exact apply ⟨_, _, _, _⟩ h
  · rfl
  · cases h

/-! ## Names in the annotated tree -/

/-- A type that no source text stands for, and that is a plain name. -/
def Node.namesType (name : String) : Node → Bool
  | .mk .typeReference span (.mk (.reference text) _ _ :: _) => span == Span.none && text == name
  | _ => false

theorem tellsBySpan_namesType (name : String) : TellsBySpan (Node.namesType name) := by
  have other : ∀ (k : Kind) (s : Span) (cs : List Node), k ≠ .typeReference →
      (Node.mk k s cs).namesType name = false := by
    intro k s cs hk
    unfold Node.namesType
    split
    · rename_i e
      cases e
      exact absurd rfl hk
    · rfl
  refine ⟨fun {k k'} s cs cs' hk hk' => ?_, fun k s cs _ ht => other k s cs ht, rfl⟩
  rw [other k, other k']
  · rintro rfl
    cases hk'
  · rintro rfl
    cases hk

theorem Node.namesType_map_annotate (plans : List Plan) (name : String) (k : Kind) (s : Span)
    (cs : List Node) :
    (Node.mk k s (cs.map (Node.annotate plans))).namesType name = (Node.mk k s cs).namesType name := by
  by_cases hk : k = .typeReference
  · subst hk
    rcases cs with _ | ⟨⟨k, t, ds⟩, cs⟩
    · rfl
    · by_cases hr : ∃ text, k = .reference text
      · obtain ⟨text, rfl⟩ := hr
        rw [List.map_cons, Node.annotate_of_not_plannable rfl]
        rfl
      · -- annotation keeps the kind of the first part, so it cannot become a plain name
        have no : ∀ first : Node, ∀ rest, (∀ text, first.kind ≠ .reference text) →
            (Node.mk .typeReference s (first :: rest)).namesType name = false := by
          intro first rest hf
          unfold Node.namesType
          split
          · rename_i e
            cases e
            exact absurd rfl (hf _)
          · rfl
        rw [not_exists] at hr
        rw [List.map_cons, no (.mk k t ds) cs hr, no]
        intro text
        rw [Ne, Node.kind_annotate_iff rfl]
        exact hr text
  · have tells := tellsBySpan_namesType name
    cases hp : k.isPlannable with
    | true => exact tells.plannable s _ _ hp hp
    | false => rw [tells.other k s _ hp hk, tells.other k s _ hp hk]

/-- A name that no outcome may have written is in no more types of the annotated tree than before. -/
theorem Node.occurrences_namesType_le {plans : List Plan} {name : String} {n : Node}
    (h : ∀ o ∈ n.outcomes plans, o.mayWrite = true → o.plan.interfaceName ≠ name) :
    (n.annotate plans).occurrences (Node.namesType name) ≤ n.occurrences (Node.namesType name) := by
  induction n using Node.keptInduction plans with
  | step n ih =>
    have tells := tellsBySpan_namesType name
    rw [Node.forall_mem_outcomes] at h
    have parts : occurrencesIn (Node.namesType name) ((n.kept plans).map (Node.annotate plans))
        ≤ occurrencesIn (Node.namesType name) n.children :=
      Nat.le_trans (occurrencesIn_le_of_forall fun c hc => ih c hc (h.2 c hc))
        (Node.occurrencesIn_kept_le _ plans n)
    -- the node's own plan does not write the name
    have own : n.writesPassing plans (Node.namesType name) = false := by
      apply Node.writesPassing_eq_false
      intro p hp hw
      have : p.interfaceName ≠ name :=
        h.1 ⟨p, (p.applyTo n).2⟩ (by simp [Node.ownOutcome, hp]) (Plan.mayWrite_of_writes hw)
      simpa [Plan.interfaceType, Node.fresh, Node.namesType] using this
    have counted := tells.counted plans n
    obtain ⟨k, s, cs⟩ := n
    rw [Counted, own, Node.withChildren_mk, Node.children_mk, Node.namesType_map_annotate] at counted
    rw [counted, Node.occurrences_mk, Bool.toNat_false]
    rw [Node.children_mk] at parts
    omega

/-! ## Names that do not matter -/

/-- The same plan with another name for its interface. -/
def Plan.rename (f : String → String) (p : Plan) : Plan := { p with interfaceName := f p.interfaceName }

theorem planFor?_rename (f : String → String) (plans : List Plan) (s : Span) :
    planFor? (plans.map (Plan.rename f)) s = (planFor? plans s).map (Plan.rename f) := by
  simp only [planFor?, ← List.map_reverse, List.find?_map]
  rfl

theorem Plan.rename_of_fixed {f : String → String} {p : Plan} (h : f p.interfaceName = p.interfaceName) :
    p.rename f = p := by
  rw [Plan.rename, h]

section
variable {plans plans' : List Plan}

theorem Node.bindInBody?_congr {body pattern : Node} {isExpression : Bool}
    (h : ∀ c ∈ Remainder.onlyPattern.body isExpression body, c.annotate plans' = c.annotate plans) :
    (body.annotate plans').bindInBody? pattern isExpression
      = (body.annotate plans).bindInBody? pattern isExpression := by
  cases isExpression with
  | false => rw [h body (by simp [Remainder.body])]
  | true =>
    obtain ⟨k, s, parts⟩ := body
    by_cases hk : k = .functionBody
    · subst hk
      simp only [Remainder.body, Node.bodyValue?] at h
      rw [Node.annotate_of_not_plannable rfl, Node.annotate_of_not_plannable rfl]
      simp only [Node.bindInBody?, firstValue?_map_annotate]
      cases hv : firstValue? parts with
      | none => rfl
      | some e => simp [h e (by simp [hv])]
    · have hn : ∀ plans, ((Node.mk k s parts).annotate plans).kind ≠ .functionBody := by
        intro plans
        rwa [Ne, Node.kind_annotate_iff rfl]
      rw [Node.bindInBody?_of_kind_ne (hn _), Node.bindInBody?_of_kind_ne (hn _)]

/-- What a plan makes of a component depends only on the parts that are kept. -/
theorem Plan.apply_congr (p : Plan) {params : List Node} {result body : Node} {isExpression : Bool}
    (hp : ∀ c ∈ (p.remainder isExpression params body).parameters params,
      c.annotate plans' = c.annotate plans)
    (hr : result.annotate plans' = result.annotate plans)
    (hb : ∀ c ∈ (p.remainder isExpression params body).body isExpression body,
      c.annotate plans' = c.annotate plans) :
    (p.apply ⟨params.map (Node.annotate plans'), result.annotate plans', body.annotate plans',
        isExpression⟩).1
      = (p.apply ⟨params.map (Node.annotate plans), result.annotate plans, body.annotate plans,
        isExpression⟩).1 := by
  -- where all parts are kept the two sides have the same parts
  have whole : p.remainder isExpression params body = .whole →
      (p.apply ⟨params.map (Node.annotate plans'), result.annotate plans', body.annotate plans',
          isExpression⟩).1
        = (p.apply ⟨params.map (Node.annotate plans), result.annotate plans, body.annotate plans,
          isExpression⟩).1 := by
    intro hw
    rw [hw] at hp hb
    have same : params.map (Node.annotate plans') = params.map (Node.annotate plans) :=
      List.map_congr_left hp
    rw [same, hr, hb body (by simp [Remainder.body])]
  have hA := ParameterChange.of_map_annotate plans p.isDeclared params
  have hA' := ParameterChange.of_map_annotate plans' p.isDeclared params
  rcases ParameterChange.of_cases p.isDeclared params with ⟨-, hc⟩ | ⟨-, hc | ⟨reason, hc⟩⟩ |
    ⟨m, s, ds, pattern, type, value, rest, rfl, -, ⟨-, hc⟩ | ⟨-, hc | hc⟩⟩ <;> rw [hc] at hA hA'
  · exact whole (by simp [Plan.remainder, hc])
  · exact whole (by simp [Plan.remainder, hc])
  · exact whole (by simp [Plan.remainder, hc])
  · exact whole (by simp [Plan.remainder, hc])
  · -- the first parameter is replaced, so only the others have to agree
    have left : p.remainder isExpression (.mk (.parameter m) s [ds, pattern, type, value] :: rest) body
        = .nothing := by simp [Plan.remainder, hc]
    rw [left] at hp hb
    have rest' : rest.map (Node.annotate plans') = rest.map (Node.annotate plans) := List.map_congr_left hp
    rw [List.map_cons] at hA
    rw [List.map_cons, rest'] at hA'
    simp only [Plan.apply, List.map_cons, rest', hA, hA', Plan.parameters, hr,
      hb body (by simp [Remainder.body])]
  · -- whether the pattern moves does not depend on the pattern, so both sides move it or lose it
    have first := Node.annotate_parameter plans m s ds pattern type value
    have first' := Node.annotate_parameter plans' m s ds pattern type value
    rw [List.map_cons, first] at hA
    rw [List.map_cons, first'] at hA'
    simp only [Plan.remainder, hc] at hp hb
    simp only [Plan.apply, List.map_cons, first, first', hA, hA', Plan.parameters, List.headD_cons,
      Node.parameterPattern, hr]
    have binds :=
      Node.isSome_bindInBody?_annotate plans body (pattern.annotate plans) .absent isExpression
    have binds' :=
      Node.isSome_bindInBody?_annotate plans' body (pattern.annotate plans') .absent isExpression
    cases hs : (body.bindInBody? .absent isExpression).isSome with
    | true =>
      rw [hs, if_pos rfl] at hp hb
      simp only [Remainder.parameters, List.forall_mem_append, List.forall_mem_singleton] at hp
      obtain ⟨bound, e⟩ := Option.isSome_iff_exists.mp (binds.trans hs)
      rw [hp.2, Node.bindInBody?_congr hb, e, List.map_congr_left hp.1]
    | false =>
      rw [hs] at hp hb
      simp only [Bool.false_eq_true, if_false] at hp hb
      have rest' : rest.map (Node.annotate plans') = rest.map (Node.annotate plans) :=
        List.map_congr_left hp
      have none : ∀ {o : Option Node}, o.isSome = false → o = .none := fun h => by simpa using h
      rw [none (binds.trans hs), none (binds'.trans hs), rest', hb body (by simp [Remainder.body])]

theorem Plan.apply_rename (f : String → String) {p : Plan} (parts : SignatureParts)
    (h : (ParameterChange.of p.isDeclared parts.params).writes = false) :
    (p.rename f).apply parts = p.apply parts := by
  have same : (p.rename f).isDeclared = p.isDeclared := rfl
  rcases ParameterChange.of_cases p.isDeclared parts.params with ⟨-, hc⟩ | ⟨-, hc | ⟨reason, hc⟩⟩ |
    ⟨_, _, _, _, _, _, _, -, -, ⟨-, hc⟩ | ⟨-, hc | hc⟩⟩
  · rw [hc] at h
    cases h
  · simp only [Plan.apply, same, hc, Plan.parameters]
  · simp only [Plan.apply, same, hc]
  · rw [hc] at h
    cases h
  · rw [hc] at h
    cases h
  · rw [hc] at h
    cases h

/-- A plan that keeps the name of its interface, or does not write it, does the same under the new name. -/
theorem Plan.applyTo_rename {f : String → String} {p : Plan} {n : Node}
    (h : p.rename f = p ∨ p.writes n = false) : (p.rename f).applyTo n = p.applyTo n := by
  rcases h with h | h
  · rw [h]
  · unfold Plan.applyTo
    split
    · rename_i params result body
      split
      · rfl
      · rename_i ha
        have hw : (ParameterChange.of p.isDeclared params).writes = false := by
          simpa [Plan.writes, ha] using h
        rw [Plan.apply_rename f ⟨params, result, body, false⟩ hw]
    · rename_i form s types ps params result body
      rw [Plan.apply_rename f ⟨params, result, body, form.isExpression⟩ h]
    · rename_i baseTypes _ _
      have present : baseTypes.isPresent = true := by
        rw [Node.isPresent, show baseTypes.isAbsent = false from h]
        rfl
      simp only [present, if_true]
    · rfl

theorem Plan.writes_map_annotate (plans : List Plan) (p : Plan) (k : Kind) (s : Span) (cs : List Node) :
    p.writes (.mk k s (cs.map (Node.annotate plans))) = p.writes (.mk k s cs) := by
  generalize hn : Node.mk k s cs = n
  fun_cases Plan.writes p n with
  | case1 form t name types this ps params result body =>
    cases hn
    simp only [List.map_cons, List.map_nil]
    rw [Node.annotate_of_not_plannable rfl]
    simp [Plan.writes]
  | case2 form t types ps params result body =>
    cases hn
    simp only [List.map_cons, List.map_nil]
    rw [Node.annotate_of_not_plannable rfl]
    simp [Plan.writes]
  | case3 form t ds name types base baseTypes implemented body =>
    cases hn
    simp [Plan.writes]
  | case4 n hf ha hc =>
    subst hn
    unfold Plan.writes
    split
    · rename_i e
      obtain ⟨rfl, -, e⟩ := Node.mk.inj e
      obtain ⟨_, _, _, _, _, _, rfl⟩ := function_parts_of_annotate e
      exact (hf _ _ _ _ _ _ _ _ _ rfl).elim
    · rename_i e
      obtain ⟨rfl, -, e⟩ := Node.mk.inj e
      obtain ⟨_, _, _, _, rfl⟩ := arrow_parts_of_annotate e
      exact (ha _ _ _ _ _ _ _ rfl).elim
    · rename_i e
      obtain ⟨rfl, -, e⟩ := Node.mk.inj e
      obtain ⟨_, _, _, _, _, _, _, rfl⟩ := class_parts_of_annotate e
      exact (hc _ _ _ _ _ _ _ _ _ rfl).elim
    · rfl

theorem annotate_parameters_congr {ps : Span} {params : List Node}
    (h : ∀ c ∈ params, c.annotate plans' = c.annotate plans) :
    (Node.mk .parameters ps params).annotate plans' = (Node.mk .parameters ps params).annotate plans := by
  rw [Node.annotate_of_not_plannable rfl, Node.annotate_of_not_plannable rfl, List.map_congr_left h]

theorem map_annotate_congr {k : Kind} {s : Span} {cs : List Node}
    (hp : (Node.mk k s cs).plan? plans = none)
    (h : ∀ c ∈ (Node.mk k s cs).kept plans, c.annotate plans' = c.annotate plans) :
    cs.map (Node.annotate plans') = cs.map (Node.annotate plans) := by
  revert h hp
  generalize hn : Node.mk k s cs = n
  fun_cases Node.kept plans n with
  | case1 form t name types this ps params result body remainder =>
    cases hn
    intro hp h
    have hp : planFor? plans s = none := hp
    have whole : remainder = .whole := by simp [remainder, hp, remainderUnder]
    simp only [whole, Remainder.parameters, List.forall_mem_append, List.forall_mem_cons,
      List.not_mem_nil, false_implies, implies_true, and_true] at h
    obtain ⟨⟨⟨hn, ht, hthis⟩, hparams⟩, hr, hb⟩ := h
    simp only [List.map_cons, List.map_nil, hn, ht, hthis, annotate_parameters_congr hparams, hr, hb]
  | case2 form t types ps params result body remainder =>
    cases hn
    intro hp h
    have hp : planFor? plans s = none := hp
    have whole : remainder = .whole := by simp [remainder, hp, remainderUnder]
    simp only [whole, Remainder.body_whole, Remainder.parameters, List.forall_mem_append,
      List.forall_mem_cons, List.not_mem_nil, false_implies, implies_true, and_true] at h
    obtain ⟨⟨⟨ht, hparams⟩, hr⟩, hb⟩ := h
    simp only [List.map_cons, List.map_nil, ht, annotate_parameters_congr hparams, hr, hb]
  | case3 k' t cs' hf ha =>
    cases hn
    intro _ h
    exact List.map_congr_left h

theorem Plan.applyTo_congr {p : Plan} {k : Kind} {s : Span} {cs : List Node}
    (hp : (Node.mk k s cs).plan? plans = some p)
    (h : ∀ c ∈ (Node.mk k s cs).kept plans, c.annotate plans' = c.annotate plans) :
    (p.applyTo (.mk k s (cs.map (Node.annotate plans')))).1
      = (p.applyTo (.mk k s (cs.map (Node.annotate plans)))).1 := by
  revert h hp
  generalize hn : Node.mk k s cs = n
  fun_cases Node.kept plans n with
  | case1 form t name types this ps params result body remainder =>
    cases hn
    intro hp h
    have hp : planFor? plans s = some p := hp
    simp only [List.forall_mem_append, List.forall_mem_cons, List.not_mem_nil, false_implies,
      implies_true, and_true] at h
    obtain ⟨⟨⟨hn, ht, hthis⟩, hparams⟩, hr, hb⟩ := h
    simp only [List.map_cons, List.map_nil, hn, ht, hthis]
    rw [Node.annotate_of_not_plannable rfl, Node.annotate_of_not_plannable rfl]
    simp only [Plan.applyTo, Node.isAbsent_annotate]
    cases ha : body.isAbsent with
    | true =>
      -- an overload has no body, and is left as it is
      have whole : remainder = .whole := by simp [remainder, ha]
      rw [whole] at hparams
      simp only [if_true, hr, hb, List.map_congr_left (show ∀ c ∈ params, _ from hparams)]
    | false =>
      have left : remainder = p.remainder false params body := by
        simp [remainder, ha, hp, remainderUnder]
      rw [left] at hparams
      have congr := p.apply_congr hparams hr (by simpa [Remainder.body] using hb)
      simp only [Bool.false_eq_true, if_false, congr]
  | case2 form t types ps params result body remainder =>
    cases hn
    intro hp h
    have hp : planFor? plans s = some p := hp
    have left : remainder = p.remainder form.isExpression params body := by
      simp [remainder, hp, remainderUnder]
    simp only [left, List.forall_mem_append, List.forall_mem_cons, List.not_mem_nil, false_implies,
      implies_true, and_true] at h
    obtain ⟨⟨⟨ht, hparams⟩, hr⟩, hb⟩ := h
    have congr := p.apply_congr hparams hr hb
    simp only [List.map_cons, List.map_nil, ht]
    rw [Node.annotate_of_not_plannable rfl, Node.annotate_of_not_plannable rfl]
    simp only [Plan.applyTo, congr]
  | case3 k' t cs' hf ha =>
    cases hn
    intro _ h
    rw [List.map_congr_left h]

/-- The annotated tree depends only on the interface names of outcomes that may have written them. -/
theorem Node.annotate_rename {f : String → String} {n : Node}
    (h : ∀ o ∈ n.outcomes plans, o.mayWrite = true → f o.plan.interfaceName = o.plan.interfaceName) :
    n.annotate (plans.map (Plan.rename f)) = n.annotate plans := by
  induction n using Node.keptInduction plans with
  | step n ih =>
    rw [Node.forall_mem_outcomes] at h
    have kept : ∀ c ∈ n.kept plans, c.annotate (plans.map (Plan.rename f)) = c.annotate plans :=
      fun c hc => ih c hc (h.2 c hc)
    obtain ⟨k, s, cs⟩ := n
    have same : ∀ ds, (Node.mk k s ds).plan? plans = (Node.mk k s cs).plan? plans := fun _ => rfl
    have renamed : ∀ ds, (Node.mk k s ds).plan? (plans.map (Plan.rename f))
        = ((Node.mk k s cs).plan? plans).map (Plan.rename f) := by
      intro ds
      simp only [Node.plan?_mk, planFor?_rename]
      split <;> rfl
    simp only [Node.annotate_mk, Node.annotateHere, renamed, same (cs.map _)]
    cases hp : (Node.mk k s cs).plan? plans with
    | none => simp only [Option.map_none, map_annotate_congr hp kept]
    | some p =>
      -- a plan that writes its interface has an outcome that may have written it, and such names stay
      have keeps : p.rename f = p ∨ p.writes (.mk k s cs) = false := by
        cases hw : p.writes (.mk k s cs) with
        | false => exact .inr rfl
        | true =>
          refine .inl (Plan.rename_of_fixed (h.1 ⟨p, _⟩ ?_ (Plan.mayWrite_of_writes hw)))
          simp [Node.ownOutcome, hp]
      simp only [Option.map_some]
      rw [Plan.applyTo_rename (by rwa [Plan.writes_map_annotate]), Plan.applyTo_congr hp kept]

end

end TypedJsx
