import TypedJsx.Proofs.Conversion.Interfaces
import TypedJsx.Proofs.PropTypes
import TypedJsx.Proofs.Signature.Written
/-!
Functions, arrows and classes told by their spans. Extraction and annotation only lose some of them, and
every candidate for a component is one of them. So if the spans of a program are distinct, they are so in
the annotated program, the plans are for different spans, and the plan for a span is the plan with that
span.
-/
namespace TypedJsx

/-- A function, arrow or class over a span. -/
def Node.standsOver (s : Span) (n : Node) : Bool := n.kind.isPlannable && n.span == s

/-- The functions, arrows and classes of a program have different spans. -/
def Node.HasDistinctSpans (program : Node) : Prop :=
  ((program.nodes.filter fun n => n.kind.isPlannable).map Node.span).Nodup

instance (program : Node) : Decidable program.HasDistinctSpans :=
  inferInstanceAs (Decidable (List.Nodup _))

theorem Node.HasDistinctSpans.occurrences_le_one {program : Node} (h : program.HasDistinctSpans)
    (s : Span) : program.occurrences (Node.standsOver s) ≤ 1 := by
  have once := List.nodup_iff_count_le_one.mp h s
  rw [List.count, List.countP_map, List.countP_filter] at once
  refine Nat.le_trans (Nat.le_of_eq (List.countP_congr fun n _ => ?_)) once
  simp [Node.standsOver, and_comm]

theorem tellsBySpan_standsOver (s : Span) : TellsBySpan (Node.standsOver s) := by
  refine ⟨fun t _ _ hk hk' => ?_, fun k t cs hk _ => ?_, rfl⟩
  · simp [Node.standsOver, hk, hk']
  · simp [Node.standsOver, hk]

/-! ## What is lost -/

section
variable (s : Span)

theorem Node.occurrences_annotate_le (plans : List Plan) (n : Node) :
    (n.annotate plans).occurrences (Node.standsOver s) ≤ n.occurrences (Node.standsOver s) := by
  induction n using Node.keptInduction plans with
  | step n ih =>
    have parts := Nat.le_trans (occurrencesIn_le_of_forall ih)
      (Node.occurrencesIn_kept_le (Node.standsOver s) plans n)
    have writes : n.writesPassing plans (Node.standsOver s) = false :=
      Node.writesPassing_eq_false fun _ _ _ => rfl
    have counted := (tellsBySpan_standsOver s).counted plans n
    obtain ⟨k, t, cs⟩ := n
    rw [Counted, writes, Bool.toNat_false] at counted
    rw [counted, Node.occurrences_mk]
    exact Nat.add_le_add_left parts _

theorem occurrencesIn_filter_le (test keep : Node → Bool) (cs : List Node) :
    occurrencesIn test (cs.filter keep) ≤ occurrencesIn test cs := by
  induction cs with
  | nil => exact Nat.le_refl _
  | cons c cs ih =>
    rw [List.filter_cons]
    split <;> simp only [occurrencesIn_cons] <;> omega

theorem Node.occurrences_withoutDeclarations_le (n : Node) :
    n.withoutDeclarations.occurrences (Node.standsOver s) ≤ n.occurrences (Node.standsOver s) := by
  induction n using Node.induction with
  | step k t cs ih =>
    have parts := occurrencesIn_le_of_forall ih
    rw [Node.withoutDeclarations, withoutDeclarationsList_eq_map, Node.occurrences_mk, Node.occurrences_mk]
    refine Nat.add_le_add_left (Nat.le_trans ?_ parts) _
    split
    · exact occurrencesIn_filter_le _ _ _
    · exact Nat.le_refl _

theorem Node.occurrences_withoutProps_le (program : Node) :
    program.withoutProps.occurrences (Node.standsOver s)
      ≤ program.occurrences (Node.standsOver s) := by
  refine Nat.le_trans (Node.occurrences_withoutDeclarations_le s _) ?_
  obtain ⟨k, t, cs⟩ := program
  rw [Node.withoutBindings, Node.withChildren_mk, Node.children_mk, Node.occurrences_mk,
    Node.occurrences_mk]
  exact Nat.add_le_add_left (occurrencesIn_filter_le _ _ _) _

/-! ## Candidates -/

theorem Node.candidate?_cases {n : Node} {c : Candidate} (h : n.candidate? = some c) :
    (n.kind.isPlannable = true ∧ c.span = n.span)
      ∨ ∃ form s pattern type value, n = .mk (.declarator form) s [pattern, type, value]
        ∧ value.kind.isPlannable = true ∧ c.span = value.span ∧ value.candidate? = none := by
  have none_of : ∀ {value : Node}, (∀ c, ¬value.Declares c) → value.candidate? = none := by
    intro value no
    rw [Option.eq_none_iff_forall_ne_some]
    exact fun c found => no c (Node.candidate?_eq_some_iff.mp found)
  cases Node.candidate?_eq_some_iff.mp h with
  | functionDeclaration => exact .inl ⟨rfl, rfl⟩
  | classDeclaration => exact .inl ⟨rfl, rfl⟩
  | arrow => exact .inr ⟨_, _, _, _, _, rfl, rfl, rfl, rfl⟩
  | functionExpression expression =>
    refine .inr ⟨_, _, _, _, _, rfl, rfl, rfl, none_of ?_⟩
    rintro _ (⟨statement⟩ | _)
    rw [expression] at statement
    cases statement
  | classExpression expression =>
    refine .inr ⟨_, _, _, _, _, rfl, rfl, rfl, none_of ?_⟩
    rintro _ (_ | ⟨statement⟩)
    rw [expression] at statement
    cases statement

theorem countP_flatMap_candidates_le {cs : List Node}
    (h : ∀ c ∈ cs, c.candidates.countP (fun c => c.span == s) ≤ c.occurrences (Node.standsOver s)) :
    (cs.flatMap Node.candidates).countP (fun c => c.span == s)
      ≤ occurrencesIn (Node.standsOver s) cs := by
  induction cs with
  | nil => exact Nat.le_refl _
  | cons c cs ih =>
    rw [List.forall_mem_cons] at h
    rw [List.flatMap_cons, List.countP_append, occurrencesIn_cons]
    exact Nat.add_le_add h.1 (ih h.2)

/-- There are at most as many candidates over a span as functions, arrows and classes. -/
theorem Node.countP_candidates_le (n : Node) :
    (n.children.flatMap Node.candidates).countP (fun c => c.span == s)
        ≤ occurrencesIn (Node.standsOver s) n.children
      ∧ n.candidates.countP (fun c => c.span == s) ≤ n.occurrences (Node.standsOver s) := by
  induction n using Node.induction with
  | step k t cs ih =>
    have parts := countP_flatMap_candidates_le s fun c hc => (ih c hc).2
    refine ⟨parts, ?_⟩
    rw [Node.candidates_mk, List.countP_append, Node.occurrences_mk]
    cases hc : (Node.mk k t cs).candidate? with
    | none => simpa using Nat.le_add_left_of_le parts
    | some c =>
      have single : (some c).toList.countP (fun c => c.span == s) = (c.span == s).toNat := by
        cases hs : c.span == s <;> simp [hs]
      rw [single]
      rcases Node.candidate?_cases hc with ⟨hk, hs⟩ | ⟨form, u, pattern, type, value, e, hk, hs, none⟩
      · refine Nat.add_le_add (Nat.le_of_eq ?_) parts
        simp only [Node.standsOver, hk, hs, Bool.true_and]
      · -- the candidate is counted for the value, whose own candidates are those of its parts
        cases e
        simp only [List.forall_mem_cons, List.not_mem_nil, false_implies, implies_true, and_true] at ih
        obtain ⟨hpattern, htype, hvalue⟩ := ih
        obtain ⟨kv, sv, vs⟩ := value
        have inner : (Node.mk kv sv vs).candidates = vs.flatMap Node.candidates := by
          rw [Node.candidates_mk, none]
          rfl
        have counts : (c.span == s) = (Node.mk kv sv vs).standsOver s := by
          simp only [Node.standsOver, hk, hs, Bool.true_and]
        simp only [List.flatMap_cons, List.flatMap_nil, List.append_nil, List.countP_append,
          occurrencesIn_cons, occurrencesIn_nil, Node.occurrences_mk (Node.standsOver s) kv, inner, counts]
        have := hpattern.2
        have := htype.2
        have := hvalue.1
        rw [Node.children_mk] at this
        omega

end

/-! ## Plans -/

theorem Node.HasDistinctSpans.nodup_candidates {program : Node} (h : program.HasDistinctSpans) :
    (program.candidates.map Candidate.span).Nodup := by
  rw [List.nodup_iff_count_le_one]
  intro s
  rw [List.count, List.countP_map]
  exact Nat.le_trans (Node.countP_candidates_le s program).2 (h.occurrences_le_one s)

/-- The plans of a program with distinct spans are for different spans. -/
theorem Node.HasDistinctSpans.nodup_plans {m : Module} (h : m.tree.HasDistinctSpans) (config : Config) :
    ((m.plans config).map Plan.span).Nodup := by
  have spans : (m.plans config).map Plan.span
      = (m.tree.components.filter fun c => !c.isLeftAlone m.extraction).map Component.span := by
    simp only [Module.plans, List.map_map]
    rfl
  have found : (m.tree.components.filter fun c => !c.isLeftAlone m.extraction).Sublist
      (m.tree.candidates.map Candidate.component) := by
    rw [m.tree.components_eq]
    exact List.filter_sublist.trans
      ((firstPerKey_sublist _ _).trans (List.filter_sublist.map Candidate.component))
  have places : (m.tree.candidates.map Candidate.component).map Component.span
      = m.tree.candidates.map Candidate.span := by
    rw [List.map_map]
    rfl
  rw [spans]
  exact (places ▸ h.nodup_candidates).sublist (found.map Component.span)

end TypedJsx
