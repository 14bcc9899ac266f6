import Mathlib.Data.List.Perm.Basic
import TypedJsx.Proofs.Signature.Basic
/-!
What annotation keeps of the parts of a node. A plan can drop the first parameter of a component, or all
of it but its pattern, and a body that is one expression is then reduced to its value. The parts that are
kept are annotated and stand in the annotated node; the others are lost.

The outcomes of a tree are those of the node itself and of the parts that are kept, where a pattern that
moves takes its own along (`Node.outcomes_perm`). Statements about annotated trees are proved by induction
over the parts that are kept (`Node.keptInduction`).
-/
namespace TypedJsx

/-! ## Parts -/

/-- What is left of the parameters of a component. -/
def Remainder.parameters : Remainder → List Node → List Node
  | .onlyPattern, .mk _ _ [_, pattern, _, _] :: rest => rest ++ [pattern]
  | .nothing, .mk _ _ [_, _, _, _] :: rest => rest
  | _, params => params

/-- The value of a body that is one expression. -/
def Node.bodyValue? : Node → Option Node
  | .mk .functionBody _ parts => firstValue? parts
  | _ => none

/-- What is left of the body of a component. -/
def Remainder.body (remainder : Remainder) (isExpression : Bool) (body : Node) : List Node :=
  if isExpression && remainder == .onlyPattern then body.bodyValue?.toList else [body]

@[simp] theorem Remainder.body_whole (isExpression : Bool) (body : Node) :
    Remainder.whole.body isExpression body = [body] := by
  simp [Remainder.body]

@[simp] theorem Remainder.body_nothing (isExpression : Bool) (body : Node) :
    Remainder.nothing.body isExpression body = [body] := by
  simp [Remainder.body]

/-- The parts of a node that annotation keeps. -/
def Node.kept (plans : List Plan) : Node → List Node
  | .mk (.function _) s [name, types, this, .mk .parameters _ params, result, body] =>
    let remainder :=
      if body.isAbsent then .whole else remainderUnder (planFor? plans s) false params body
    [name, types, this] ++ remainder.parameters params ++ [result, body]
  | .mk (.arrow form) s [types, .mk .parameters _ params, result, body] =>
    let remainder := remainderUnder (planFor? plans s) form.isExpression params body
    [types] ++ remainder.parameters params ++ [result] ++ remainder.body form.isExpression body
  | .mk _ _ cs => cs

/-! ## Counting what is kept -/

section
variable (test : Node → Bool)

theorem Remainder.occurrencesIn_parameters_le (r : Remainder) (params : List Node) :
    occurrencesIn test (r.parameters params) ≤ occurrencesIn test params := by
  unfold Remainder.parameters
  split
  · simp only [occurrencesIn_append, occurrencesIn_cons, occurrencesIn_nil, Node.occurrences_mk]
    omega
  · simp
  · exact Nat.le_refl _

theorem occurrences_firstValue?_le {parts : List Node} {e : Node} (h : firstValue? parts = some e) :
    e.occurrences test ≤ occurrencesIn test parts := by
  induction parts with
  | nil => cases h
  | cons part parts ih =>
    rw [occurrencesIn_cons]
    unfold firstValue? at h
    split at h
    · rename_i eq
      cases eq
      exact Nat.le_add_left_of_le (ih h)
    · rename_i eq
      cases eq
      cases h
      rw [Node.occurrences_mk, occurrencesIn_cons]
      omega
    · cases h

theorem Remainder.occurrencesIn_body_le (r : Remainder) (isExpression : Bool) (body : Node) :
    occurrencesIn test (r.body isExpression body) ≤ body.occurrences test := by
  unfold Remainder.body
  split
  · unfold Node.bodyValue?
    split
    · rename_i s parts
      cases hv : firstValue? parts with
      | none => simp
      | some e =>
        rw [Node.occurrences_mk]
        simpa using Nat.le_add_left_of_le (occurrences_firstValue?_le test hv)
    · simp
  · simp

theorem Node.occurrencesIn_kept_le (plans : List Plan) (n : Node) :
    occurrencesIn test (n.kept plans) ≤ occurrencesIn test n.children := by
  unfold Node.kept
  split
  · rename_i form s name types this ps params result body
    have := Remainder.occurrencesIn_parameters_le test
      (if body.isAbsent then .whole else remainderUnder (planFor? plans s) false params body) params
    simp only [occurrencesIn_append, occurrencesIn_cons, occurrencesIn_nil, Node.children_mk,
      Node.occurrences_mk]
    omega
  · rename_i form s types ps params result body
    have hp := Remainder.occurrencesIn_parameters_le test
      (remainderUnder (planFor? plans s) form.isExpression params body) params
    have hb := Remainder.occurrencesIn_body_le test
      (remainderUnder (planFor? plans s) form.isExpression params body) form.isExpression body
    simp only [occurrencesIn_append, occurrencesIn_cons, occurrencesIn_nil, Node.children_mk,
      Node.occurrences_mk]
    omega
  · exact Nat.le_refl _

end

/-- What holds of a node if it holds of the parts that are kept holds of every node. -/
theorem Node.keptInduction (plans : List Plan) {P : Node → Prop}
    (step : ∀ n, (∀ c ∈ n.kept plans, P c) → P n) (n : Node) : P n := by
  -- the parts that are kept have fewer nodes in all
  induction hn : n.occurrences (fun _ => true) using Nat.strongRecOn generalizing n with
  | ind size ih =>
    apply step
    intro c hc
    have inside := Node.occurrencesIn_kept_le (fun _ => true) plans n
    have part := occurrences_le_of_mem (fun _ => true) hc
    obtain ⟨k, s, cs⟩ := n
    rw [Node.occurrences_mk, Bool.toNat_true] at hn
    rw [Node.children_mk] at inside
    exact ih _ (by omega) c rfl

/-! ## Outcomes -/

section
variable (plans : List Plan)

theorem outcomesOfList_eq_flatMap (cs : List Node) :
    outcomesOfList plans cs = cs.flatMap (Node.outcomes plans) := by
  induction cs with
  | nil => rfl
  | cons c cs ih => simp [outcomesOfList, ih]

theorem outcomesOfValue_eq_flatMap (parts : List Node) :
    outcomesOfValue plans parts = (firstValue? parts).toList.flatMap (Node.outcomes plans) := by
  fun_induction firstValue? parts with
  | case1 text s cs rest ih => rw [outcomesOfValue, ih]
  | case2 s e rest => simp [outcomesOfValue]
  | case3 parts hd he =>
    unfold outcomesOfValue
    split
    · exact absurd rfl (hd _ _ _ _)
    · exact absurd rfl (he _ _ _)
    · rfl

theorem outcomesOfStatements_eq (moved : List Outcome) (parts : List Node) :
    outcomesOfStatements plans moved parts
      = (parts.takeWhile Node.isDirective).flatMap (Node.outcomes plans) ++ moved
        ++ (parts.dropWhile Node.isDirective).flatMap (Node.outcomes plans) := by
  induction parts with
  | nil => simp [outcomesOfStatements]
  | cons part parts ih =>
    unfold outcomesOfStatements
    split
    · rename_i e
      cases e
    · rename_i raw s cs rest e
      cases e
      have directive : (Node.mk (.directive raw) s cs).isDirective = true := rfl
      rw [ih, List.takeWhile_cons_of_pos directive, List.dropWhile_cons_of_pos directive]
      simp
    · rename_i no e
      cases e
      have plain : ¬part.isDirective = true := by
        rw [Node.isDirective_iff]
        rintro ⟨raw, hk⟩
        obtain ⟨k, s, cs⟩ := part
        obtain rfl : k = .directive raw := hk
        exact no raw s cs rfl
      rw [List.takeWhile_cons_of_neg plain, List.dropWhile_cons_of_neg plain, outcomesOfList_eq_flatMap]
      simp

/-- The outcomes in a pattern that moves; none if nothing moves. -/
def outcomesOfMoved (plans : List Plan) (r : Remainder) (params : List Node) : List Outcome :=
  if r == .onlyPattern then outcomesOfPattern plans params else []

theorem outcomesOfParameters_append (r : Remainder) (params : List Node) :
    outcomesOfParameters plans r params ++ outcomesOfMoved plans r params
      = (r.parameters params).flatMap (Node.outcomes plans) := by
  unfold outcomesOfParameters outcomesOfMoved
  split
  · cases r <;> rfl
  · cases r <;> simp [Remainder.parameters, outcomesOfPattern, outcomesOfList_eq_flatMap]
  · rename_i first rest h
    have whole : r.parameters (first :: rest) = first :: rest := by
      unfold Remainder.parameters
      split
      · rename_i e
        cases e
        exact absurd rfl (h _ _ _ _ _ _)
      · rename_i e
        cases e
        exact absurd rfl (h _ _ _ _ _ _)
      · rfl
    have none : outcomesOfPattern plans (first :: rest) = [] := by
      unfold outcomesOfPattern
      split
      · rename_i e
        cases e
        exact absurd rfl (h _ _ _ _ _ _)
      · rfl
    simp [whole, none, outcomesOfList_eq_flatMap]

theorem bindInBody?_of_onlyPattern {plan : Option Plan} {isExpression : Bool} {params : List Node}
    {body : Node} (h : remainderUnder plan isExpression params body = .onlyPattern) :
    (body.bindInBody? .absent isExpression).isSome = true := by
  unfold remainderUnder Plan.remainder at h
  split at h
  · split at h
    · cases h
    · split at h
      · assumption
      · cases h
    · cases h
  · cases h

theorem kind_of_bindInBody? {body pattern : Node} {isExpression : Bool}
    (h : (body.bindInBody? pattern isExpression).isSome = true) : body.kind = .functionBody := by
  unfold Node.bindInBody? at h
  split at h
  · rfl
  · cases h

/-- The outcomes in a body, those of a pattern that moves into it among them. -/
def outcomesOfBody (plans : List Plan) (r : Remainder) (isExpression : Bool) (params : List Node) :
    Node → List Outcome
  | .mk k b parts =>
    if r == .onlyPattern then
      if isExpression then outcomesOfPattern plans params ++ outcomesOfValue plans parts
      else outcomesOfStatements plans (outcomesOfPattern plans params) parts
    else Node.outcomes plans (.mk k b parts)

/-- The outcomes in a body are those of a pattern that moves into it, and of what is left of the body. -/
theorem outcomesOfBody_perm {r : Remainder} {isExpression : Bool} {body : Node}
    (binds : r = .onlyPattern → (body.bindInBody? .absent isExpression).isSome = true) (params : List Node) :
    (outcomesOfBody plans r isExpression params body).Perm
      (outcomesOfMoved plans r params ++ (r.body isExpression body).flatMap (Node.outcomes plans)) := by
  obtain ⟨k, b, parts⟩ := body
  unfold outcomesOfBody outcomesOfMoved Remainder.body
  by_cases only : r = .onlyPattern
  · obtain rfl : k = .functionBody := kind_of_bindInBody? (binds only)
    have statements : (Node.mk .functionBody b parts).outcomes plans
        = parts.flatMap (Node.outcomes plans) := by
      rw [Node.outcomes]
      · exact outcomesOfList_eq_flatMap plans parts
      · simp
      · simp
    cases isExpression with
    | true => simp [only, Node.bodyValue?, outcomesOfValue_eq_flatMap]
    | false =>
      have split : parts.flatMap (Node.outcomes plans)
          = (parts.takeWhile Node.isDirective).flatMap (Node.outcomes plans)
            ++ (parts.dropWhile Node.isDirective).flatMap (Node.outcomes plans) := by
        rw [← List.flatMap_append, List.takeWhile_append_dropWhile]
      simp only [only, beq_self_eq_true, if_true, Bool.false_eq_true, if_false, Bool.false_and,
        outcomesOfStatements_eq, List.flatMap_singleton, statements, split, ← List.append_assoc]
      exact List.perm_append_comm.append_right _
  · simp [only]

theorem Node.outcomes_function {form : FunctionForm} {s : Span} {name types this : Node} {ps : Span}
    {params : List Node} {result body : Node} {r : Remainder}
    (left : r = if body.isAbsent then .whole else remainderUnder (planFor? plans s) false params body) :
    let n := Node.mk (.function form) s [name, types, this, .mk .parameters ps params, result, body]
    n.outcomes plans = n.ownOutcome plans ++ name.outcomes plans ++ types.outcomes plans
      ++ this.outcomes plans ++ outcomesOfParameters plans r params ++ result.outcomes plans
      ++ outcomesOfBody plans r false params body := by
  subst left
  obtain ⟨k, b, parts⟩ := body
  intro n
  rw [Node.outcomes.eq_def]
  rfl

theorem Node.outcomes_arrow {form : ArrowForm} {s : Span} {types : Node} {ps : Span} {params : List Node}
    {result body : Node} {r : Remainder}
    (left : r = remainderUnder (planFor? plans s) form.isExpression params body) :
    let n := Node.mk (.arrow form) s [types, .mk .parameters ps params, result, body]
    n.outcomes plans = n.ownOutcome plans ++ types.outcomes plans ++ outcomesOfParameters plans r params
      ++ result.outcomes plans ++ outcomesOfBody plans r form.isExpression params body := by
  subst left
  obtain ⟨k, b, parts⟩ := body
  intro n
  rw [Node.outcomes.eq_def]
  rfl

theorem Node.outcomes_other {k : Kind} {s : Span} {cs : List Node}
    (hf : ∀ (form : FunctionForm) (name types this : Node) (ps : Span) (params : List Node)
      (result body : Node), k = .function form →
        cs = [name, types, this, .mk .parameters ps params, result, body] → False)
    (ha : ∀ (form : ArrowForm) (types : Node) (ps : Span) (params : List Node) (result body : Node),
      k = .arrow form → cs = [types, .mk .parameters ps params, result, body] → False) :
    (Node.mk k s cs).outcomes plans
      = (Node.mk k s cs).ownOutcome plans ++ cs.flatMap (Node.outcomes plans) := by
  rw [Node.outcomes, outcomesOfList_eq_flatMap]
  · intro form name types this ps params result k b parts
    exact hf _ _ _ _ _ _ _ _
  · intro form types ps params result k b parts
    exact ha _ _ _ _ _ _

/-- The outcomes of a tree are those of the node itself, and of the parts that are kept. -/
theorem Node.outcomes_perm (n : Node) :
    (n.outcomes plans).Perm (n.ownOutcome plans ++ (n.kept plans).flatMap (Node.outcomes plans)) := by
  fun_cases Node.kept plans n with
  | case1 form s name types this ps params result body remainder =>
    have binds : remainder = .onlyPattern → (body.bindInBody? .absent false).isSome = true := by
      intro only
      cases absent : body.isAbsent with
      | true => simp [remainder, absent] at only
      | false => exact bindInBody?_of_onlyPattern (by simpa [remainder, absent] using only)
    have whole : remainder.body false body = [body] := rfl
    have inBody := List.perm_iff_count.mp (outcomesOfBody_perm plans binds params)
    -- a pattern that moves changes the place of its outcomes, so they are counted
    refine List.perm_iff_count.mpr fun o => ?_
    have inBody := inBody o
    rw [Node.outcomes_function plans (r := remainder) rfl]
    simp only [whole, List.flatMap_append, List.flatMap_cons, List.flatMap_nil,
      ← outcomesOfParameters_append, List.count_append, List.count_nil] at inBody ⊢
    omega
  | case2 form s types ps params result body remainder =>
    have inBody := List.perm_iff_count.mp
      (outcomesOfBody_perm (r := remainder) plans bindInBody?_of_onlyPattern params)
    refine List.perm_iff_count.mpr fun o => ?_
    have inBody := inBody o
    rw [Node.outcomes_arrow plans (r := remainder) rfl]
    simp only [List.flatMap_append, List.flatMap_cons, List.flatMap_nil, ← outcomesOfParameters_append,
      List.count_append, List.count_nil] at inBody ⊢
    omega
  | case3 k s cs hf ha =>
    rw [Node.outcomes_other plans (fun _ _ _ _ _ _ _ _ => hf _ _ _ _ _ _ _ _)
      fun _ _ _ _ _ _ => ha _ _ _ _ _ _]

theorem Node.mem_outcomes {n : Node} {o : Outcome} : o ∈ n.outcomes plans ↔
    o ∈ n.ownOutcome plans ∨ ∃ c ∈ n.kept plans, o ∈ c.outcomes plans := by
  rw [(n.outcomes_perm plans).mem_iff, List.mem_append, List.mem_flatMap]

theorem Node.forall_mem_outcomes {n : Node} {P : Outcome → Prop} : (∀ o ∈ n.outcomes plans, P o) ↔
    (∀ o ∈ n.ownOutcome plans, P o) ∧ ∀ c ∈ n.kept plans, ∀ o ∈ c.outcomes plans, P o := by
  have perm := n.outcomes_perm plans
  simp only [perm.mem_iff, List.forall_mem_append, List.forall_mem_flatMap]

end

theorem Node.plan_mem_of_mem_outcomes {plans : List Plan} {n : Node} {o : Outcome}
    (h : o ∈ n.outcomes plans) : o.plan ∈ plans := by
  induction n using Node.keptInduction plans with
  | step n ih =>
    rw [Node.mem_outcomes] at h
    rcases h with own | ⟨c, hc, ho⟩
    · obtain ⟨p, hp, rfl⟩ := Option.map_eq_some_iff.mp (Option.mem_toList.mp own)
      exact (Node.mem_of_plan? hp).1
    · exact ih c hc ho

end TypedJsx
