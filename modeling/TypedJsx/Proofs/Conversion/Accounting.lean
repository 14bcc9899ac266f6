import TypedJsx.Proofs.Conversion.Spans
/-!
Every component of a program is accounted for: it is left alone with one warning, or has one plan; a plan
has one outcome if its function, arrow or class is still in the annotated program, and none if not; and
the diagnostics of a conversion are the warnings and the failed outcomes, in this order.

Components are found before declarations are taken out, and plans are looked up by span afterwards. The
link is a count: the outcomes of a plan are as many as the nodes of the annotated tree that the plan is
for (`Node.countP_outcomes`).
-/
namespace TypedJsx

/-! ## Outcomes of a plan -/

/-- Whether a plan is the one for a node. -/
def Node.hasPlan (plans : List Plan) (p : Plan) (n : Node) : Bool := n.plan? plans == some p

theorem tellsBySpan_hasPlan (plans : List Plan) (p : Plan) : TellsBySpan (Node.hasPlan plans p) := by
  refine ⟨fun t cs cs' hk hk' => ?_, fun k t cs hk _ => ?_, rfl⟩
  · simp [Node.hasPlan, Node.plan?_mk, hk, hk']
  · simp [Node.hasPlan, Node.plan?_mk, hk]

theorem Node.countP_ownOutcome (plans : List Plan) (p : Plan) (n : Node) :
    (n.ownOutcome plans).countP (fun o => o.plan == p) = (n.hasPlan plans p).toNat := by
  unfold Node.ownOutcome Node.hasPlan
  cases n.plan? plans with
  | none => rfl
  | some q => cases h : q == p <;> simp [h]

theorem countP_flatMap_outcomes {plans : List Plan} {p : Plan} {cs : List Node}
    (h : ∀ c ∈ cs, (c.outcomes plans).countP (fun o => o.plan == p)
      = (c.annotate plans).occurrences (Node.hasPlan plans p)) :
    (cs.flatMap (Node.outcomes plans)).countP (fun o => o.plan == p)
      = occurrencesIn (Node.hasPlan plans p) (cs.map (Node.annotate plans)) := by
  induction cs with
  | nil => rfl
  | cons c cs ih =>
    rw [List.forall_mem_cons] at h
    rw [List.flatMap_cons, List.countP_append, List.map_cons, occurrencesIn_cons, h.1, ih h.2]

/-- The outcomes of a plan are as many as the nodes of the annotated tree that the plan is for. -/
theorem Node.countP_outcomes (plans : List Plan) (p : Plan) (n : Node) :
    (n.outcomes plans).countP (fun o => o.plan == p)
      = (n.annotate plans).occurrences (Node.hasPlan plans p) := by
  induction n using Node.keptInduction plans with
  | step n ih =>
    have parts := countP_flatMap_outcomes ih
    have writes : n.writesPassing plans (Node.hasPlan plans p) = false :=
      Node.writesPassing_eq_false fun _ _ _ => rfl
    have counted := (tellsBySpan_hasPlan plans p).counted plans n
    obtain ⟨k, s, cs⟩ := n
    rw [Counted, writes, Bool.toNat_false, Nat.add_zero] at counted
    rw [counted, (Node.outcomes_perm plans _).countP_eq, List.countP_append, Node.countP_ownOutcome, parts]
    rfl

section
variable {m : Module} {config : Config}

/-- With distinct spans, the outcomes of a plan are as many as the functions, arrows and classes of the
annotated program over its span, and there is at most one. -/
theorem Node.HasDistinctSpans.countP_outcomes (h : m.tree.HasDistinctSpans) {p : Plan}
    (hp : p ∈ m.plans config) :
    (m.outcomes config).countP (fun o => o.plan == p)
        = (m.annotated config).occurrences (Node.standsOver p.span)
      ∧ (m.annotated config).occurrences (Node.standsOver p.span) ≤ 1 := by
  constructor
  · rw [Module.outcomes, Node.countP_outcomes]
    refine List.countP_congr fun n _ => ?_
    have found := planFor?_eq_some_iff (h.nodup_plans config) hp n.span
    unfold Node.hasPlan Node.plan? Node.standsOver
    split <;> rename_i hk <;> simp [hk, found]
  · exact Nat.le_trans (Node.occurrences_annotate_le p.span _ _)
      (Nat.le_trans (Node.occurrences_withoutProps_le p.span _) (h.occurrences_le_one p.span))

theorem Module.count_annotatedNames {p : Plan} (hp : p ∈ m.plans config) :
    (annotatedNames (m.outcomes config)).count p.component
      = ((m.outcomes config).filter fun o => o.plan == p).countP
          fun o => o.failure.isNone := by
  rw [annotatedNames, List.count, List.countP_map, List.countP_filter, List.countP_filter]
  refine List.countP_congr fun o ho => ?_
  have same : o.plan.component = p.component ↔ o.plan = p :=
    ⟨fun e => List.inj_on_of_nodup_map (m.nodup_plans config) (Node.plan_mem_of_mem_outcomes ho) hp e,
      congrArg Plan.component⟩
  simp [same, and_comm]

/-! ## Components and plans -/

/-- A component that may merely make another one, and has no declaration in any statement list. -/
def Component.IsUndecided (c : Component) (m : Module) : Prop :=
  c.detection = .ambiguous ∧ ¬∃ d, m.Declares d ∧ d.component = c.name

theorem Component.isLeftAlone_iff (c : Component) (m : Module) :
    c.isLeftAlone m.extraction = true ↔ c.IsUndecided m := by
  rw [Component.IsUndecided, ← m.declares_iff]
  simp [Component.isLeftAlone]

theorem Module.leftAlone_of_isLeftAlone {c : Component} (hc : c ∈ m.tree.components)
    (h : c.isLeftAlone m.extraction = true) :
    (m.leftAlone.filter fun l => l.name == c.name) = [c]
      ∧ ((m.plans config).filter fun p => p.component == c.name) = [] := by
  constructor
  · have names : (m.leftAlone.map Component.name).Nodup :=
      m.tree.nodup_components.sublist (List.filter_sublist.map _)
    exact filter_key_eq_singleton Component.name names (List.mem_filter.mpr ⟨hc, h⟩)
  · rw [List.filter_eq_nil_iff]
    intro p hp e
    obtain ⟨c', hc', rfl⟩ := List.mem_map.mp hp
    obtain ⟨hc', kept⟩ := List.mem_filter.mp hc'
    obtain rfl := List.inj_on_of_nodup_map m.tree.nodup_components hc' hc (beq_iff_eq.mp e)
    simp [h] at kept

theorem Module.plan_of_not_isLeftAlone {c : Component} (hc : c ∈ m.tree.components)
    (h : c.isLeftAlone m.extraction = false) :
    (m.leftAlone.filter fun l => l.name == c.name) = []
      ∧ ((m.plans config).filter fun p => p.component == c.name)
        = [c.plan (m.extraction.declares c.name) config] := by
  constructor
  · rw [List.filter_eq_nil_iff]
    intro l hl e
    obtain ⟨hl, alone⟩ := List.mem_filter.mp hl
    obtain rfl := List.inj_on_of_nodup_map m.tree.nodup_components hl hc (beq_iff_eq.mp e)
    rw [h] at alone
    cases alone
  · have mem : c.plan (m.extraction.declares c.name) config ∈ m.plans config :=
      List.mem_map.mpr ⟨c, List.mem_filter.mpr ⟨hc, by simp [h]⟩, rfl⟩
    exact filter_key_eq_singleton Plan.component (m.nodup_plans config) mem

/-! ## Diagnostics -/

theorem Module.severity_of_mem_diagnostics {d : Diagnostic} (h : d ∈ (m.convertParts config).diagnostics) :
    d.severity = .warning := by
  rcases List.mem_append.mp h with h | h
  · obtain ⟨c, -, rfl⟩ := List.mem_map.mp h
    rfl
  · obtain ⟨f, -, rfl⟩ := List.mem_map.mp h
    rfl

/-! ## The outcome of one plan -/

/-- A function, arrow or class over a span is in the tree. -/
def Node.HasOver (s : Span) (tree : Node) : Prop :=
  ∃ n ∈ tree.nodes, n.kind.isPlannable = true ∧ n.span = s

theorem Node.hasOver_iff (s : Span) (tree : Node) :
    tree.HasOver s ↔ 0 < tree.occurrences (Node.standsOver s) := by
  rw [Node.occurrences, List.countP_pos_iff]
  simp [Node.HasOver, Node.standsOver]

theorem Node.HasDistinctSpans.outcome_of_present (h : m.tree.HasDistinctSpans) {p : Plan}
    (hp : p ∈ m.plans config) (there : (m.annotated config).HasOver p.span) :
    ∃ o, ((m.outcomes config).filter fun o => o.plan == p) = [o]
      ∧ ((o.failure? m.source = none ∧ (annotatedNames (m.outcomes config)).count p.component = 1)
        ∨ ((o.failure? m.source).isSome = true
          ∧ (annotatedNames (m.outcomes config)).count p.component = 0)) := by
  obtain ⟨count, once⟩ := h.countP_outcomes hp
  rw [Node.hasOver_iff] at there
  have one : ((m.outcomes config).filter fun o => o.plan == p).length = 1 := by
    rw [← List.countP_eq_length_filter]
    omega
  obtain ⟨o, only⟩ := List.length_eq_one_iff.mp one
  have names := Module.count_annotatedNames hp
  rw [only] at names
  refine ⟨o, only, ?_⟩
  cases hf : o.failure with
  | none => exact .inl ⟨by simp [Outcome.failure?, hf], by simp [names, hf]⟩
  | some reason => exact .inr ⟨by simp [Outcome.failure?, hf], by simp [names, hf]⟩

theorem Node.HasDistinctSpans.outcome_of_gone (h : m.tree.HasDistinctSpans) {p : Plan}
    (hp : p ∈ m.plans config) (gone : ¬(m.annotated config).HasOver p.span) :
    ((m.outcomes config).filter fun o => o.plan == p) = []
      ∧ (annotatedNames (m.outcomes config)).count p.component = 0 := by
  have count := (h.countP_outcomes hp).1
  rw [Node.hasOver_iff] at gone
  have zero : ((m.outcomes config).filter fun o => o.plan == p).length = 0 := by
    rw [← List.countP_eq_length_filter]
    omega
  have none := List.length_eq_zero_iff.mp zero
  have names := Module.count_annotatedNames hp
  rw [none] at names
  exact ⟨none, names⟩

end

/-! ## All components -/

/-- In a program whose functions, arrows and classes have distinct spans, a component is ambiguous without
declared props, and then has one warning and no plan, or it has one plan. A plan has one outcome, among
the annotated names or among the failures, if a function, arrow or class with its span is in the annotated
program, and none otherwise. The diagnostics are the warnings in the order of the components, then one
warning for every failure. -/
theorem components_accounted_for (m : Module) (config : Config) (h : m.tree.HasDistinctSpans) :
    (∀ c ∈ m.tree.components,
      (c.IsUndecided m → (m.leftAlone.filter fun l => l.name == c.name) = [c]
        ∧ ((m.plans config).filter fun p => p.component == c.name) = [])
      ∧ (¬c.IsUndecided m → (m.leftAlone.filter fun l => l.name == c.name) = []
        ∧ ((m.plans config).filter fun p => p.component == c.name)
          = [c.plan (m.extraction.declares c.name) config]))
    ∧ (∀ p ∈ m.plans config,
      ((m.annotated config).HasOver p.span →
        ∃ o, ((m.outcomes config).filter fun o => o.plan == p) = [o]
          ∧ ((o.failure? m.source = none ∧ (annotatedNames (m.outcomes config)).count p.component = 1)
            ∨ ((o.failure? m.source).isSome = true
              ∧ (annotatedNames (m.outcomes config)).count p.component = 0)))
      ∧ (¬(m.annotated config).HasOver p.span →
        ((m.outcomes config).filter fun o => o.plan == p) = []
          ∧ (annotatedNames (m.outcomes config)).count p.component = 0))
    ∧ ((m.convertParts config).diagnostics
      = (m.leftAlone.map fun c => c.ambiguityWarning m.source)
        ++ ((m.outcomes config).filterMap fun o => o.failure? m.source).map fun f =>
          Diagnostic.reportContained f m.source)
    ∧ (∀ c ∈ m.leftAlone, (c.ambiguityWarning m.source).code = "AMBIGUOUS_COMPONENT")
    ∧ (∀ d ∈ (m.convertParts config).diagnostics, d.severity = .warning)
    ∧ ∀ source, Module.parse source = .ok m →
      (convert source config).diagnostics = (m.convertParts config).diagnostics := by
  refine ⟨fun c hc => ⟨fun undecided => ?_, fun decided => ?_⟩,
    fun p hp => ⟨h.outcome_of_present hp, h.outcome_of_gone hp⟩, rfl, fun c _ => rfl,
    fun d hd => Module.severity_of_mem_diagnostics hd, fun source parsed => ?_⟩
  · exact Module.leftAlone_of_isLeftAlone hc ((c.isLeftAlone_iff m).mpr undecided)
  · rw [← c.isLeftAlone_iff m, Bool.not_eq_true] at decided
    exact Module.plan_of_not_isLeftAlone hc decided
  · rw [convert, parsed]

/-- A component, and a function that may merely make one. -/
def ambiguousSource : List Char :=
  "function A(p) \x7b return <a/>; \x7d\nfunction B() \x7b return () => <b/>; \x7d\n".toList

/-- Of a component and a function that may merely make one, the first has one outcome, and the second is
left alone. -/
theorem ambiguous_accounted_for : ∃ m, Module.parse ambiguousSource = .ok m ∧ m.tree.HasDistinctSpans
    ∧ m.leftAlone.length = 1
    ∧ ∀ p ∈ m.plans {}, ∃ o, ((m.outcomes {}).filter fun o => o.plan == p) = [o] := by
  have run : (match Module.parse ambiguousSource with
      | .ok m => decide ((m.tree.HasDistinctSpans ∧ m.leftAlone.length = 1)
          ∧ ∀ p ∈ m.plans {}, ∃ n ∈ (m.annotated {}).nodes,
            n.kind.isPlannable = true ∧ n.span = p.span)
      | .error _ => false) = true := by decide +kernel
  split at run
  · rename_i m hm
    obtain ⟨⟨distinct, alone⟩, present⟩ := of_decide_eq_true run
    refine ⟨m, hm, distinct, alone, fun p hp => ?_⟩
    obtain ⟨o, only, -⟩ := ((components_accounted_for m {} distinct).2.1 p hp).1 (present p hp)
    exact ⟨o, only⟩
  · cases run

end TypedJsx
