import TypedJsx.Conversion
import TypedJsx.Proofs.Component
import TypedJsx.Proofs.Hook
import TypedJsx.Proofs.PropTypes
import TypedJsx.Proofs.Signature.Naming
/-!
The plans of a conversion and the interfaces that it declares. There is at most one plan for every name, its
interface is named after the component, and it says that props are declared just if they are. The interfaces
are first those of props, one for every component with declared props and an empty one for every annotated
component without; then those of hooks whose names are still free. No two have the same name, and each
component finds its own.

Main statement: a name that annotation writes is that of a declared interface, and the annotated program
does not depend on any other name of an interface.
-/
namespace TypedJsx

variable (m : Module) (config : Config)

/-! ## Plans -/

/-- Different components have different interfaces, whatever the names of interfaces begin and end with. -/
theorem Config.interfaceName_injective (config : Config) : Function.Injective config.interfaceName := by
  intro a b h
  unfold Config.interfaceName at h
  have h := congrArg String.toList h
  split at h
  · simp only [String.toList_append, List.append_cancel_right_eq, List.append_cancel_left_eq] at h
    exact String.toList_injective h
  · simp only [String.toList_append, List.append_cancel_right_eq] at h
    exact String.toList_injective h

theorem Module.plan_of_mem {p : Plan} (h : p ∈ m.plans config) :
    p.interfaceName = config.interfaceName p.component
      ∧ p.isDeclared = m.extraction.declares p.component := by
  obtain ⟨c, -, rfl⟩ := List.mem_map.mp h
  exact ⟨rfl, rfl⟩

theorem Module.map_component_plans : (m.plans config).map Plan.component
    = (m.tree.components.filter fun c => !c.isLeftAlone m.extraction).map Component.name := by
  simp only [Module.plans, List.map_map]
  rfl

theorem Module.nodup_plans : ((m.plans config).map Plan.component).Nodup := by
  rw [Module.map_component_plans]
  exact m.tree.nodup_components.sublist (List.filter_sublist.map _)

/-! ## Interfaces of props -/

/-- The components that have an interface of props, in the order of the interfaces. -/
def Module.interfaced : List String :=
  m.extraction.components
    ++ ((m.plans config).filter fun p => !p.isDeclared
        && (annotatedNames (m.outcomes config)).contains p.component).map
      Plan.component

theorem Module.map_name_props :
    (m.convertParts config).props.map Interface.name = (m.interfaced config).map config.interfaceName := by
  have declared : (m.extraction.interfaces config).map Interface.name
      = m.extraction.components.map config.interfaceName := by
    rw [← m.extraction.map_component_declarationFor?, Extraction.interfaces, List.map_map, List.map_map]
    rfl
  have undeclared : ∀ plans ⊆ m.plans config,
      plans.map Plan.interfaceName = (plans.map Plan.component).map config.interfaceName := by
    intro plans h
    rw [List.map_map]
    exact List.map_congr_left fun p hp => (m.plan_of_mem config (h hp)).1
  simp only [Module.convertParts, Module.interfaced, undeclaredInterfaces, List.map_append, declared]
  rw [← undeclared _ List.filter_sublist.subset, List.map_map]
  rfl

theorem Module.nodup_interfaced : (m.interfaced config).Nodup := by
  refine List.nodup_append.mpr ⟨?_, ?_, ?_⟩
  · exact m.extraction.nodup_components
  · exact (m.nodup_plans config).sublist (List.filter_sublist.map _)
  · -- a plan without declared props is for a component that has no declaration
    rintro name hd _ hm rfl
    obtain ⟨p, hf, rfl⟩ := List.mem_map.mp hm
    obtain ⟨hp, hu⟩ := List.mem_filter.mp hf
    obtain ⟨d, hd, e⟩ := Extraction.mem_components.mp hd
    have declares : m.extraction.declares p.component = true :=
      (m.declares_iff _).mpr ⟨d, (m.mem_extraction d).mp hd, e⟩
    rw [(m.plan_of_mem config hp).2, declares] at hu
    cases hu

theorem Module.nodup_props : ((m.convertParts config).props.map Interface.name).Nodup := by
  rw [Module.map_name_props]
  exact (m.nodup_interfaced config).map config.interfaceName_injective

/-! ## All interfaces -/

/-- The interfaces of hooks that a conversion asks for. -/
def ConvertedParts.askedHooks (parts : ConvertedParts) (config : Config) : List Interface :=
  if config.withHooks then parts.hooks else []

theorem Module.interfaces_eq : (m.convertParts config).interfaces config
    = (m.convertParts config).props ++ ((m.convertParts config).askedHooks config).filter fun h =>
        (m.convertParts config).props.all fun i => h.name != i.name := by
  have once : firstPerKey Interface.name ((m.convertParts config).askedHooks config)
      = (m.convertParts config).askedHooks config := by
    have : (((m.convertParts config).askedHooks config).map Interface.name).Nodup := by
      unfold ConvertedParts.askedHooks
      split
      · exact (m.annotated config).nodup_hookInterfaces
      · exact .nil
    simpa [firstPerKey] using firstPerKey_append Interface.name this []
  rw [ConvertedParts.interfaces, mergeInterfaces, firstPerKey_append _ (m.nodup_props config)]
  rw [← ConvertedParts.askedHooks, once]

theorem Module.nodup_interfaces :
    (((m.convertParts config).interfaces config).map Interface.name).Nodup :=
  nodup_firstPerKey _ _

theorem Module.filter_interfaces {i : Interface} (h : i ∈ (m.convertParts config).props) :
    (((m.convertParts config).interfaces config).filter fun j => j.name == i.name) = [i] := by
  apply filter_key_eq_singleton Interface.name (m.nodup_interfaces config)
  rw [Module.interfaces_eq]
  exact List.mem_append_left _ h

/-- The interfaces that a conversion puts in front of the code have different names. A component with
declarations in any statement list has one interface, made from the entries of the declaration that starts
last; an annotated component without one has an empty interface. Then come the interfaces of hooks whose
names differ from all of these. -/
theorem interfaces_one_per_component :
    (((m.convertParts config).interfaces config).map Interface.name).Nodup
      ∧ (∀ name, (∃ d, m.Declares d ∧ d.component = name) →
        ∃ d, (m.Declares d ∧ d.component = name
            ∧ ∀ d', m.Declares d' → d'.component = name → d'.span.start ≤ d.span.start)
          ∧ (((m.convertParts config).interfaces config).filter fun i =>
              i.name == config.interfaceName name)
            = [{ name := config.interfaceName name, members := d.entries.map PropEntry.member }])
      ∧ (∀ p ∈ m.plans config, p.isDeclared = false →
        p.component ∈ annotatedNames (m.outcomes config) →
        (((m.convertParts config).interfaces config).filter fun i => i.name == p.interfaceName)
          = [{ name := p.interfaceName, members := [] }])
      ∧ ∃ hooks, (m.convertParts config).interfaces config = (m.convertParts config).props ++ hooks
        ∧ hooks.Sublist (m.convertParts config).hooks
        ∧ (config.withHooks = false → hooks = [])
        ∧ ∀ h ∈ hooks, ∀ i ∈ (m.convertParts config).props, h.name ≠ i.name := by
  refine ⟨m.nodup_interfaces config, fun name hn => ?_, fun p hp hu ha => ?_, ?_⟩
  · have hn : m.extraction.declares name = true := (m.declares_iff name).mpr hn
    obtain ⟨d, hd⟩ := Option.isSome_iff_exists.mp hn
    have last := Module.declarationFor?_isLast hd
    refine ⟨d, last, ?_⟩
    -- the interface is among those for props, and no other there has its name
    obtain rfl := last.2.1
    have kept : d.component ∈ m.extraction.components :=
      Extraction.mem_components.mpr ⟨d, (m.mem_extraction d).mpr last.1, rfl⟩
    have : d.interface config ∈ (m.convertParts config).props :=
      List.mem_append_left _ (List.mem_map_of_mem (List.mem_filterMap.mpr ⟨_, kept, hd⟩))
    exact m.filter_interfaces config this
  · -- without a declaration the interface is empty, and only there if the component was annotated
    have : ({ name := p.interfaceName } : Interface) ∈ (m.convertParts config).props := by
      refine List.mem_append_right _ (List.mem_map.mpr ⟨p, List.mem_filter.mpr ⟨hp, ?_⟩, rfl⟩)
      simpa [hu] using ha
    exact m.filter_interfaces config this
  · refine ⟨_, m.interfaces_eq config, ?_, ?_, ?_⟩
    · refine List.filter_sublist.trans ?_
      unfold ConvertedParts.askedHooks
      split
      · exact List.Sublist.refl _
      · exact List.nil_sublist _
    · intro h
      simp [ConvertedParts.askedHooks, h]
    · intro h hh i hi
      simpa using List.all_eq_true.mp (List.mem_filter.mp hh).2 i hi

/-! ## References

The signatures are written by plans and spans, the interfaces are collected from declarations and outcomes;
they agree because every outcome that may have written a name has an interface of that name. -/

/-- An outcome that may have written the name of its interface is for a component with an interface. -/
theorem Module.interfaced_of_mayWrite {o : Outcome}
    (h : o ∈ m.outcomes config) (hw : o.mayWrite = true) :
    o.plan.component ∈ m.interfaced config := by
  have hp := Node.plan_mem_of_mem_outcomes h
  have declares := (m.plan_of_mem config hp).2
  rw [Module.interfaced, List.mem_append]
  cases hd : o.plan.isDeclared with
  | true =>
    rw [hd] at declares
    obtain ⟨d, hd, e⟩ := (m.declares_iff _).mp declares.symm
    exact .inl (Extraction.mem_components.mpr ⟨d, (m.mem_extraction d).mpr hd, e⟩)
  | false =>
    have done : o.failure.isNone = true := by simpa [Outcome.mayWrite, hd] using hw
    have annotated : o.plan.component ∈ annotatedNames (m.outcomes config) :=
      List.mem_map.mpr ⟨o, List.mem_filter.mpr ⟨h, done⟩, rfl⟩
    refine .inr (List.mem_map.mpr ⟨o.plan, List.mem_filter.mpr ⟨hp, ?_⟩, rfl⟩)
    simpa [hd] using annotated

theorem Module.exists_interface_of_mayWrite {o : Outcome}
    (h : o ∈ m.outcomes config) (hw : o.mayWrite = true) :
    ∃ i ∈ (m.convertParts config).interfaces config, i.name = o.plan.interfaceName := by
  have named : o.plan.interfaceName ∈ (m.convertParts config).props.map Interface.name := by
    rw [Module.map_name_props, (m.plan_of_mem config (Node.plan_mem_of_mem_outcomes h)).1]
    exact List.mem_map_of_mem (m.interfaced_of_mayWrite config h hw)
  obtain ⟨i, hi, e⟩ := List.mem_map.mp named
  refine ⟨i, ?_, e⟩
  rw [Module.interfaces_eq]
  exact List.mem_append_left _ hi

/-- A name that stands in more types after annotation than before is the name of an interface of the
conversion; and interface names that are not can be replaced by any others in the plans without a change
to the annotated program, so none of them is written anywhere. -/
theorem written_interfaces_declared :
    (∀ name, m.tree.withoutProps.occurrences (Node.namesType name)
        < (m.annotated config).occurrences (Node.namesType name) →
      ∃ i ∈ (m.convertParts config).interfaces config, i.name = name)
    ∧ ∀ f : String → String,
      (∀ i ∈ (m.convertParts config).interfaces config, f i.name = i.name) →
      m.tree.withoutProps.annotate ((m.plans config).map (Plan.rename f))
        = m.annotated config := by
  refine ⟨fun name more => ?_, fun f fixed => ?_⟩
  · by_contra none
    refine Nat.not_le_of_lt more (Node.occurrences_namesType_le fun o ho hw e => none ?_)
    exact e ▸ m.exists_interface_of_mayWrite config ho hw
  · refine Node.annotate_rename fun o ho hw => ?_
    obtain ⟨i, hi, e⟩ := m.exists_interface_of_mayWrite config ho hw
    exact e ▸ fixed i hi

end TypedJsx
