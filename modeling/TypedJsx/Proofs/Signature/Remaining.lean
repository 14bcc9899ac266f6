import TypedJsx.Proofs.Signature.Components
import TypedJsx.Proofs.Signature.Composition
import TypedJsx.Proofs.Signature.Kept
/-!
The nodes that annotation leaves of a tree: a component loses its first parameter to `props`, and what stood
in it. The nodes that remain are the ones that the outcomes are about (`Node.mem_outcomes_iff`), and a
component that remains is in the annotated tree, itself annotated (`Node.Remains.mem_nodes_annotate`).
-/
namespace TypedJsx

/-- A node of a tree that annotation leaves: the tree itself, or a part that is kept of such a node. -/
inductive Node.Remains (plans : List Plan) (tree : Node) : Node → Prop
  | root : tree.Remains plans tree
  | part {n c : Node} (outer : tree.Remains plans n) (kept : c ∈ n.kept plans) : tree.Remains plans c

section
variable {plans : List Plan}

theorem Node.Remains.occurrences_le {tree n : Node} (h : tree.Remains plans n) (test : Node → Bool) :
    n.occurrences test ≤ tree.occurrences test := by
  induction h with
  | root => exact Nat.le_refl _
  | @part m c _ kept ih =>
    have part := occurrences_le_of_mem test kept
    have inside := Node.occurrencesIn_kept_le test plans m
    obtain ⟨k, s, cs⟩ := m
    rw [Node.children_mk] at inside
    rw [Node.occurrences_mk] at ih
    omega

open Classical in
theorem Node.Remains.mem_nodes {tree n : Node} (h : tree.Remains plans n) : n ∈ tree.nodes := by
  -- a part that is kept need not be a child, but it is counted in the tree
  have once : 0 < n.occurrences (· = n) := List.countP_pos_iff.mpr ⟨n, n.mem_nodes_self, by simp⟩
  obtain ⟨m, mem, same⟩ := List.countP_pos_iff.mp (Nat.lt_of_lt_of_le once (h.occurrences_le _))
  obtain rfl : m = n := of_decide_eq_true same
  exact mem

/-! ## Outcomes -/

theorem Node.Remains.of_part {tree c n : Node} (kept : c ∈ tree.kept plans) (h : c.Remains plans n) :
    tree.Remains plans n := by
  induction h with
  | root => exact .part .root kept
  | part _ inner ih => exact .part ih inner

/-- The outcomes of a tree are those of the nodes that remain of it. -/
theorem Node.mem_outcomes_iff {tree : Node} {o : Outcome} :
    o ∈ tree.outcomes plans ↔ ∃ n, tree.Remains plans n ∧ o ∈ n.ownOutcome plans := by
  constructor
  · induction tree using Node.keptInduction plans with
    | step tree ih =>
      intro h
      rw [Node.mem_outcomes] at h
      rcases h with own | ⟨c, kept, inner⟩
      · exact ⟨tree, .root, own⟩
      · obtain ⟨n, remains, own⟩ := ih c kept inner
        exact ⟨n, .of_part kept remains, own⟩
  · rintro ⟨n, remains, own⟩
    have inside : o ∈ n.outcomes plans := by
      rw [Node.mem_outcomes]
      exact .inl own
    -- the outcome is carried up to the root, from each kept part to the node that it is a part of
    clear own
    induction remains with
    | root => exact inside
    | part _ kept ih =>
      refine ih ?_
      rw [Node.mem_outcomes]
      exact .inr ⟨_, kept, inside⟩

end

/-! ## Kept parts of a node -/

/-- A property of trees that only says something of the nodes that plans can be for. -/
def IsAboutPlannable (Q : Node → Prop) : Prop :=
  ∀ (k : Kind) (s : Span) (cs : List Node), k.isPlannable = false → (Q (.mk k s cs) ↔ ∀ c ∈ cs, Q c)

section
variable {Q : Node → Prop} (about : IsAboutPlannable Q)
include about

theorem IsAboutPlannable.of_isAbsent {n : Node} (h : n.isAbsent = true) : Q n := by
  obtain ⟨k, s, cs⟩ := n
  obtain ⟨rfl, rfl⟩ := Node.isAbsent_iff.mp h
  simp [about .absent s [] rfl]

theorem IsAboutPlannable.of_ifPresent {part fallback : Node}
    (h : Q (if part.isPresent then part else fallback)) : Q part := by
  cases absent : part.isAbsent with
  | true => exact about.of_isAbsent absent
  | false => simpa [Node.isPresent, absent] using h

theorem IsAboutPlannable.of_propsBinding {pattern : Node} (h : Q (propsBinding pattern)) : Q pattern := by
  unfold propsBinding at h
  rw [Node.fresh, about _ _ _ rfl, List.forall_mem_singleton, Node.fresh, about _ _ _ rfl] at h
  exact h pattern List.mem_cons_self

theorem IsAboutPlannable.of_bindInBody? {body pattern bound : Node} {isExpression : Bool}
    (hb : body.bindInBody? pattern isExpression = some bound) (h : Q bound) :
    Q pattern ∧ ∀ c ∈ Remainder.onlyPattern.body isExpression body, Q c := by
  unfold Node.bindInBody? at hb
  split at hb
  · rename_i s parts
    cases isExpression with
    | false =>
      cases hb
      rw [about _ _ _ rfl] at h
      -- the binding is one more statement behind the directives; none of the others is lost
      have statements : ∀ c ∈ parts, Q c := fun c hc => h c (by
        rw [← List.takeWhile_append_dropWhile (p := Node.isDirective) (l := parts)] at hc
        simp only [prependStatement, List.mem_append, List.mem_cons] at hc ⊢
        tauto)
      have whole : Q (.mk .functionBody s parts) := (about _ _ _ rfl).mpr statements
      exact ⟨about.of_propsBinding (h _ (by simp [prependStatement])), by simpa [Remainder.body]⟩
    | true =>
      -- of an expression the value is kept, now behind a `return`
      obtain ⟨e, he, rfl⟩ := Option.map_eq_some_iff.mp hb
      rw [about _ _ _ rfl] at h
      have value : Q (.fresh .returnStatement [e]) := h _ (by simp)
      rw [Node.fresh, about _ _ _ rfl, List.forall_mem_singleton] at value
      exact ⟨about.of_propsBinding (h _ (by simp)), by simpa [Remainder.body, Node.bodyValue?, he]⟩
  · cases hb

/-- What holds of all that a plan makes of a signature holds of the parts that are kept of it. -/
theorem IsAboutPlannable.of_apply {p : Plan} {params : List Node} {result body : Node} {isExpression : Bool}
    (hp : ∀ c ∈ (p.apply ⟨params, result, body, isExpression⟩).1.params, Q c)
    (hr : Q (p.apply ⟨params, result, body, isExpression⟩).1.result)
    (hb : Q (p.apply ⟨params, result, body, isExpression⟩).1.body) :
    (∀ c ∈ (p.remainder isExpression params body).parameters params, Q c) ∧ Q result
      ∧ ∀ c ∈ (p.remainder isExpression params body).body isExpression body, Q c := by
  rcases ParameterChange.of_cases p.isDeclared params with ⟨rfl, hc⟩ | ⟨hne, hc | ⟨reason, hc⟩⟩ |
    ⟨m, s, ds, pattern, type, value, rest, rfl, untyped, ⟨-, hc⟩ | ⟨-, hc | hc⟩⟩
  · simp only [Plan.apply, hc] at hp hr hb
    simp only [Plan.remainder, hc, Remainder.parameters, Remainder.body_whole]
    exact ⟨by simp, about.of_ifPresent hr, by simpa⟩
  · simp only [Plan.apply, hc] at hp hr hb
    simp only [Plan.remainder, hc, Remainder.parameters, Remainder.body_whole]
    exact ⟨hp, about.of_ifPresent hr, by simpa⟩
  · simp only [Plan.apply, hc] at hp hr hb
    simp only [Plan.remainder, hc, Remainder.parameters, Remainder.body_whole]
    exact ⟨hp, hr, by simpa⟩
  · -- only a missing type is lost
    simp only [Plan.apply, hc] at hp hr hb
    simp only [Plan.remainder, hc, Remainder.parameters, Remainder.body_whole]
    refine ⟨?_, about.of_ifPresent hr, by simpa⟩
    simp only [Plan.parameters, Node.withParameterType, List.forall_mem_cons] at hp ⊢
    refine ⟨?_, hp.2⟩
    have first := hp.1
    have type := about.of_isAbsent untyped
    rw [about _ _ _ rfl] at first ⊢
    simp only [List.mem_cons, List.not_mem_nil, or_false, forall_eq_or_imp, forall_eq] at first ⊢
    exact ⟨first.1, first.2.1, type, first.2.2.2⟩
  · -- the first parameter is replaced and not kept, so nothing has to be said of it
    simp only [Plan.apply, hc] at hp hr hb
    simp only [Plan.remainder, hc, Remainder.parameters, Remainder.body_nothing]
    exact ⟨fun c h => hp c (List.mem_cons_of_mem _ h), about.of_ifPresent hr, by simpa⟩
  · -- the body tells whether it binds the pattern, whatever the pattern is
    have binds := body.isSome_bindInBody? pattern .absent isExpression
    simp only [Plan.apply, hc, List.headD_cons, Node.parameterPattern] at hp hr hb
    cases hbound : body.bindInBody? pattern isExpression with
    | some bound =>
      rw [hbound] at binds
      simp only [hbound] at hp hr hb
      simp only [Plan.remainder, hc, ← binds, Option.isSome_some, if_true, Remainder.parameters]
      obtain ⟨moved, left⟩ := about.of_bindInBody? hbound hb
      refine ⟨?_, about.of_ifPresent hr, left⟩
      rw [List.forall_mem_append]
      exact ⟨fun c h => hp c (List.mem_cons_of_mem _ h), by simpa⟩
    | none =>
      rw [hbound] at binds
      simp only [hbound] at hp hr hb
      simp only [Plan.remainder, hc, ← binds, Option.isSome_none, Bool.false_eq_true, if_false,
        Remainder.parameters, Remainder.body_nothing]
      exact ⟨fun c h => hp c (List.mem_cons_of_mem _ h), hr, by simpa⟩

theorem IsAboutPlannable.of_annotateHere {plans : List Plan} {n : Node}
    (h : ∀ c ∈ (n.annotateHere plans).children, Q c) : ∀ c ∈ n.kept plans, Q c := by
  have parameters : ∀ {ps : Span} {params : List Node}, Q (.mk .parameters ps params) →
      ∀ c ∈ params, Q c := fun h => (about _ _ _ rfl).mp h
  fun_cases Node.kept plans n with
  | case1 form s name types this ps params result body remainder =>
    simp only [Node.annotateHere, Node.plan?_mk, Kind.isPlannable, if_true] at h
    simp only [List.forall_mem_append, List.forall_mem_cons]
    cases plan : planFor? plans s with
    | none =>
      have whole : remainder = .whole := by simp [remainder, plan, remainderUnder]
      simp only [plan, Node.children_mk, List.forall_mem_cons] at h
      obtain ⟨hn, ht, hthis, hp, hr, hb, -⟩ := h
      exact ⟨⟨⟨hn, ht, hthis, by simp⟩, whole ▸ parameters hp⟩, hr, hb, by simp⟩
    | some p =>
      cases absent : body.isAbsent with
      | true =>
        -- an overload has no body, and is left as it is
        have whole : remainder = .whole := by simp [remainder, absent]
        simp only [plan, Plan.applyTo, absent, if_true, Node.children_mk, List.forall_mem_cons] at h
        obtain ⟨hn, ht, hthis, hp, hr, hb, -⟩ := h
        exact ⟨⟨⟨hn, ht, hthis, by simp⟩, whole ▸ parameters hp⟩, hr, hb, by simp⟩
      | false =>
        have left : remainder = p.remainder false params body := by
          simp [remainder, absent, plan, remainderUnder]
        simp only [plan, Plan.applyTo, absent, Bool.false_eq_true, if_false, Node.children_mk,
          List.forall_mem_cons] at h
        obtain ⟨hn, ht, hthis, hp, hr, hb, -⟩ := h
        obtain ⟨params', result', body'⟩ := about.of_apply (parameters hp) hr hb
        have body' : Q body := by simpa [Remainder.body] using body'
        exact ⟨⟨⟨hn, ht, hthis, by simp⟩, left ▸ params'⟩, result', body', by simp⟩
  | case2 form s types ps params result body remainder =>
    simp only [Node.annotateHere, Node.plan?_mk, Kind.isPlannable, if_true] at h
    simp only [List.forall_mem_append, List.forall_mem_cons]
    cases plan : planFor? plans s with
    | none =>
      have whole : remainder = .whole := by simp [remainder, plan, remainderUnder]
      simp only [plan, Node.children_mk, List.forall_mem_cons] at h
      obtain ⟨ht, hp, hr, hb, -⟩ := h
      exact ⟨⟨⟨⟨ht, by simp⟩, whole ▸ parameters hp⟩, hr, by simp⟩, by simpa [whole]⟩
    | some p =>
      have left : remainder = p.remainder form.isExpression params body := by
        simp [remainder, plan, remainderUnder]
      simp only [plan, Plan.applyTo, Node.children_mk, List.forall_mem_cons] at h
      obtain ⟨ht, hp, hr, hb, -⟩ := h
      obtain ⟨params', result', body'⟩ := about.of_apply (parameters hp) hr hb
      exact ⟨⟨⟨⟨ht, by simp⟩, left ▸ params'⟩, result', by simp⟩, left ▸ body'⟩
  | case3 k s cs hf ha =>
    unfold Node.annotateHere at h
    split at h
    · rename_i p _
      unfold Plan.applyTo at h
      split at h
      · rename_i e
        cases e
        exact (hf _ _ _ _ _ _ _ _ rfl rfl).elim
      · rename_i e
        cases e
        exact (ha _ _ _ _ _ _ rfl rfl).elim
      · rename_i e
        cases e
        simp only [Node.children_mk, List.forall_mem_cons] at h ⊢
        -- a class only has type arguments filled in
        obtain ⟨hd, hn, ht, hb, hbt, hi, hbody, -⟩ := h
        exact ⟨hd, hn, ht, hb, about.of_ifPresent hbt, hi, hbody, by simp⟩
      · exact h
    · exact h

end

/-! ## Annotated trees -/

/-- A component that remains of a tree is in the annotated tree, itself annotated. -/
theorem Node.Remains.mem_nodes_annotate {plans : List Plan} {tree n : Node} (remains : tree.Remains plans n)
    (plannable : n.kind.isPlannable = true) : n.annotate plans ∈ (tree.annotate plans).nodes := by
  -- the types that annotation writes over are no components, so that only these have to be found again
  let Found (c : Node) : Prop := (c.annotate plans).Every (· ∈ (tree.annotate plans).nodes)
  have about : IsAboutPlannable Found := by
    intro k s cs hk
    simp only [Found]
    rw [Node.annotate_of_not_plannable hk, Node.every_of_not_plannable hk, List.forall_mem_map]
  have found : Found n := by
    clear plannable
    induction remains with
    | root => exact fun x mem _ => mem
    | @part m c outer kept ih =>
      refine about.of_annotateHere (fun d hd => ?_) c kept
      simp only [Found, Node.annotate_outer_first plans m] at ih
      generalize m.annotateHere plans = outer at hd ih
      obtain ⟨k, s, cs⟩ := outer
      rw [Node.annotateParts_mk] at ih
      exact ih.child (List.mem_map_of_mem hd)
  exact found _ (Node.mem_nodes_self _) (by simpa using plannable)

end TypedJsx
