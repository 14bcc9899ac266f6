import TypedJsx.Proofs.Conversion.Interfaces
/-!
Comments on the entries of declarations. Every entry of every declaration takes its comments with it, and
none of these gets a new place; but an interface is made of the one declaration that counts for its
component. So the comments in a declaration that a later one replaces go where no interface shows them.

Main statement: the comments that entries took are all shown by interfaces just if each comment in a
replaced declaration says the same as one in a declaration that counts.
-/
namespace TypedJsx

/-- A comment that an entry of a declaration took with it. -/
def PropDeclaration.Carries (d : PropDeclaration) (c : Comment) : Prop :=
  ∃ e ∈ d.entries, c ∈ e.comments

/-- A comment whose text stands above a member of an interface. -/
def Interface.Shows (i : Interface) (c : Comment) : Prop :=
  ∃ member ∈ i.members, String.ofList c.text ∈ member.comments

section
variable (m : Module)

/-- A comment that a declaration took with it, so that it gets no new place. -/
def Module.Absorbs (c : Comment) : Prop := ∃ d, m.Declares d ∧ d.Carries c

/-- A declaration that counts for its component. -/
def Module.Counts (d : PropDeclaration) : Prop := m.extraction.declarationFor? d.component = some d

/-! ## Declarations -/

theorem Module.mem_absorbed (s : Span) :
    s ∈ m.extraction.absorbed ↔ ∃ c, m.Absorbs c ∧ c.span = s := by
  have found : ∀ d, d ∈ m.propContext.declarations m.tree.withoutBindings ↔ m.Declares d :=
    m.propContext.mem_declarations _
  simp only [Module.extraction, List.mem_flatMap, List.mem_map, found]
  constructor
  · rintro ⟨d, hd, e, he, c, hc, rfl⟩
    exact ⟨c, ⟨d, hd, e, he, hc⟩, rfl⟩
  · rintro ⟨c, ⟨d, hd, e, he, hc⟩, rfl⟩
    exact ⟨d, hd, e, he, c, hc, rfl⟩

theorem Module.not_counts_of_later {d d' : PropDeclaration} (h : m.Declares d')
    (same : d'.component = d.component) (later : d.span.start < d'.span.start) : ¬m.Counts d := by
  intro counts
  have last := (Module.declarationFor?_isLast counts).2.2 d' h same
  omega

theorem Module.mem_counting (d : PropDeclaration) :
    d ∈ m.extraction.components.filterMap m.extraction.declarationFor? ↔ m.Counts d := by
  rw [List.mem_filterMap]
  constructor
  · rintro ⟨name, -, h⟩
    obtain rfl := (Module.declarationFor?_isLast h).2.1
    exact h
  · intro h
    have declared := (m.mem_extraction d).mpr (Module.declarationFor?_isLast h).1
    exact ⟨d.component, Extraction.mem_components.mpr ⟨d, declared, rfl⟩, h⟩

end

/-! ## Interfaces -/

theorem PropDeclaration.shows_interface_iff (d : PropDeclaration) (config : Config) (c : Comment) :
    (d.interface config).Shows c ↔ ∃ c', d.Carries c' ∧ c'.text = c.text := by
  constructor
  · rintro ⟨member, hm, hc⟩
    obtain ⟨e, he, rfl⟩ := List.mem_map.mp hm
    obtain ⟨c', hc, same⟩ := List.mem_map.mp hc
    exact ⟨c', ⟨e, he, hc⟩, String.ofList_injective same⟩
  · rintro ⟨c', ⟨e, he, hc⟩, same⟩
    refine ⟨e.member, List.mem_map_of_mem he, ?_⟩
    exact List.mem_map.mpr ⟨c', hc, congrArg String.ofList same⟩

theorem HookCall.comments_eq_nil (call : HookCall) :
    ∀ i ∈ call.interfaces, ∀ member ∈ i.members, member.comments = [] := by
  have state : ∀ i ∈ call.stateInterfaces, ∀ member ∈ i.members, member.comments = [] := by
    unfold HookCall.stateInterfaces
    split <;> simp
  have reducer : ∀ i ∈ call.reducerInterfaces, ∀ member ∈ i.members, member.comments = [] := by
    unfold HookCall.reducerInterfaces
    split <;> simp
  have context : ∀ i ∈ call.contextInterfaces, ∀ member ∈ i.members, member.comments = [] := by
    unfold HookCall.contextInterfaces
    split <;> simp
  unfold HookCall.interfaces
  split
  · exact state
  · split
    · exact reducer
    · split
      · exact context
      · simp

section
variable (m : Module) (config : Config)

theorem Module.not_shows_of_mem_askedHooks {i : Interface}
    (h : i ∈ (m.convertParts config).askedHooks config) (c : Comment) : ¬i.Shows c := by
  unfold ConvertedParts.askedHooks at h
  split at h
  · rintro ⟨member, hm, hc⟩
    obtain ⟨call, hi⟩ := Node.exists_call_of_mem_hookInterfaces h
    rw [call.comments_eq_nil i hi member hm] at hc
    cases hc
  · cases h

/-- The interfaces show what is carried by the declarations that count. -/
theorem Module.shown_iff (c : Comment) :
    (∃ i ∈ (m.convertParts config).interfaces config, i.Shows c) ↔
      ∃ d, m.Counts d ∧ ∃ c', d.Carries c' ∧ c'.text = c.text := by
  rw [Module.interfaces_eq]
  constructor
  · rintro ⟨i, hi, shows⟩
    rcases List.mem_append.mp hi with hi | hi
    · rcases List.mem_append.mp hi with hi | hi
      · obtain ⟨d, hd, rfl⟩ := List.mem_map.mp hi
        exact ⟨d, (m.mem_counting d).mp hd, (d.shows_interface_iff config c).mp shows⟩
      · -- an interface for props that are not declared has no members
        obtain ⟨p, -, rfl⟩ := List.mem_map.mp hi
        obtain ⟨member, hm, -⟩ := shows
        cases hm
    · exact absurd shows (m.not_shows_of_mem_askedHooks config (List.mem_of_mem_filter hi) c)
  · rintro ⟨d, counts, carries⟩
    refine ⟨d.interface config, ?_, (d.shows_interface_iff config c).mpr carries⟩
    refine List.mem_append_left _ (List.mem_append_left _ ?_)
    exact List.mem_map_of_mem ((m.mem_counting d).mpr counts)

/-! ## All comments on entries -/

/-- The comments that are passed over when comments get new places are those that the entries of all
declarations took. The interfaces show those of the declarations that count, each of which starts last
among the declarations of its component. So all are shown just if each in a declaration that does not
count says the same as one in a declaration that does. -/
theorem absorbed_comments_shown_iff :
    (∀ s, s ∈ m.extraction.absorbed ↔ ∃ c, m.Absorbs c ∧ c.span = s)
      ∧ (∀ c, m.Absorbs c → ∀ anchors : Anchors,
        anchors.place m.extraction.removed m.extraction.absorbed c = c)
      ∧ (∀ d, m.Counts d → ∀ d', m.Declares d' → d'.component = d.component →
        d'.span.start ≤ d.span.start)
      ∧ (∀ d, m.Counts d → ∀ c, d.Carries c →
        ∃ i ∈ (m.convertParts config).interfaces config, i.Shows c)
      ∧ ((∀ c, m.Absorbs c → ∃ i ∈ (m.convertParts config).interfaces config, i.Shows c) ↔
        ∀ d, m.Declares d → ¬m.Counts d → ∀ c, d.Carries c →
          ∃ d', m.Counts d' ∧ ∃ c', d'.Carries c' ∧ c'.text = c.text) := by
  have counting : ∀ d, m.Counts d → ∀ c, d.Carries c →
      ∃ i ∈ (m.convertParts config).interfaces config, i.Shows c := by
    intro d counts c carries
    exact (m.shown_iff config c).mpr ⟨d, counts, c, carries, rfl⟩
  refine ⟨m.mem_absorbed, fun c hc anchors => ?_, fun d counts => ?_, counting, ?_, ?_⟩
  · have absorbed : c.span ∈ m.extraction.absorbed := (m.mem_absorbed c.span).mpr ⟨c, hc, rfl⟩
    rw [Anchors.place, if_pos (by simpa using absorbed)]
  · exact (Module.declarationFor?_isLast counts).2.2
  · -- a comment of a declaration that does not count is shown only by one that says the same
    intro all d declares _ c carries
    exact (m.shown_iff config c).mp (all c ⟨d, declares, carries⟩)
  · rintro replaced c ⟨d, declares, carries⟩
    by_cases counts : m.Counts d
    · exact counting d counts c carries
    · exact (m.shown_iff config c).mpr (replaced d declares counts c carries)

end

/-- Two declarations of one component, the first with a comment. -/
def replacedDeclaration : List Char :=
  ("Foo.propTypes = \x7b\n  // shown as a title\n  a: PropTypes.string,\n\x7d;\n"
    ++ "Foo.propTypes = \x7b b: PropTypes.number \x7d;\n").toList

/-- The comment in a declaration that a later one replaces is shown by no interface. -/
theorem replaced_declaration_loses_comment : ∃ m, Module.parse replacedDeclaration = .ok m
    ∧ ∀ config, ∃ c, m.Absorbs c ∧ c.span ∈ m.extraction.absorbed
      ∧ ¬∃ i ∈ (m.convertParts config).interfaces config, i.Shows c := by
  have run : ∃ m, Module.parse replacedDeclaration = .ok m
      ∧ (∃ d ∈ m.propContext.declarations m.tree.withoutBindings, ∃ e ∈ d.entries, e.comments ≠ [])
      ∧ ∀ d ∈ m.propContext.declarations m.tree.withoutBindings, (∃ e ∈ d.entries, e.comments ≠ []) →
        ∃ d' ∈ m.propContext.declarations m.tree.withoutBindings,
          d'.component = d.component ∧ d.span.start < d'.span.start := by decide +kernel
  obtain ⟨m, hm, ⟨d, hd, e, he, some⟩, replaced⟩ := run
  have found : ∀ d, d ∈ m.propContext.declarations m.tree.withoutBindings ↔ m.Declares d :=
    m.propContext.mem_declarations _
  obtain ⟨c, hc⟩ := List.exists_mem_of_ne_nil _ some
  have absorbs : m.Absorbs c := ⟨d, (found d).mp hd, e, he, hc⟩
  refine ⟨m, hm, fun config => ⟨c, absorbs, ?_, fun shown => ?_⟩⟩
  · exact ((absorbed_comments_shown_iff m config).1 c.span).mpr ⟨c, absorbs, rfl⟩
  · obtain ⟨d, counts, c, ⟨e, he, hc⟩, -⟩ := (m.shown_iff config c).mp shown
    have declares := (Module.declarationFor?_isLast counts).1
    obtain ⟨d', hd', same, later⟩ :=
      replaced d ((found d).mpr declares) ⟨e, he, List.ne_nil_of_mem hc⟩
    exact m.not_counts_of_later ((found d').mp hd') same later counts

end TypedJsx
