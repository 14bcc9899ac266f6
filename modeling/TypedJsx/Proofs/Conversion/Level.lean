import TypedJsx.Proofs.Batch
import TypedJsx.Proofs.Conversion.Interfaces
/-!
What a conversion takes from its settings. They name the interfaces of components, and the level asks for
the interfaces of hooks; nothing else of them is looked at. So two settings that give the components of a
module the same names make the same parts of it (`Module.convertParts_congr`), and the level comes in when
the parts are put together (`Module.interfaces_eq_append`).

Main statement: two conversions of a text whose settings agree on the names have the same diagnostics, fail
alike, and else differ only in the interfaces of hooks that the advanced level adds.
-/
namespace TypedJsx

/-! ## What the reader makes of a text -/

namespace Toolchain

variable (t : Toolchain)

/-- The reader takes a text for a module. -/
def Reads (source : List Char) (m : Module) : Prop :=
  ∃ reading, t.read source = .ok reading ∧ reading.result source = .ok m

theorem reads_standard_iff {source : List Char} {m : Module} :
    standard.Reads source m ↔ Module.parse source = .ok m := by
  cases h : Module.parse source with
  | error issue => simp [Reads, standard, h, Reading.result]
  | ok parsed => simp [Reads, standard, h, Reading.result]

/-- What becomes of a module: its code if the printer gives its text, or else a failure. -/
def finish (source : List Char) (m : Module) (config : Config) : ConversionResult :=
  match t.print (m.annotated config) (m.placedComments config) with
  | .ok body =>
    let parts := m.convertParts config
    { code := String.ofList (assemble body parts.hasReactImport (parts.interfaces config))
      diagnostics := parts.diagnostics }
  | .error payload => .failed (.serialization payload.message) source

theorem convertSource_of_read {source : List Char} {reading : Reading}
    (h : t.read source = .ok reading) (config : Config) :
    t.convertSource source config
      = .ok (reading.result source >>= fun m => t.convertModule m config) := by
  rw [convertSource, h]
  rfl

/-- A text that the reader takes for no module has the same failure with all settings. Else the module
decides. -/
theorem convert_cases (source : List Char) :
    (∃ failure, ∀ config, t.convert source config = .failed failure source)
      ∨ ∃ m, t.Reads source m ∧ ∀ config, t.convert source config = t.finish source m config := by
  cases hr : t.read source with
  | error payload =>
    refine .inl ⟨.transform ("Conversion aborted: " ++ payload.message), fun config => ?_⟩
    rw [convert, convertSource, hr]
    rfl
  | ok reading =>
    have given := t.convertSource_of_read hr
    cases hm : reading.result source with
    | error failure =>
      refine .inl ⟨failure, fun config => ?_⟩
      rw [convert, given, hm]
      rfl
    | ok m =>
      refine .inr ⟨m, ⟨reading, hr, hm⟩, fun config => ?_⟩
      have printed : (Except.ok m >>= fun m => t.convertModule m config) = t.convertModule m config := rfl
      rw [convert, given, hm, printed, finish, convertModule, generate]
      cases t.print (m.annotated config) (m.placedComments config) <;> rfl

end Toolchain

/-! ## Settings that agree on names -/

/-- The name of a component of a module: one that is found in its tree, or that its declarations tell of. -/
def Module.Names (m : Module) (name : String) : Prop :=
  (∃ c ∈ m.tree.components, c.name = name) ∨ ∃ d, m.Declares d ∧ d.component = name

section
variable {m : Module} {c₁ c₂ : Config}
  (agree : ∀ name, m.Names name → c₁.interfaceName name = c₂.interfaceName name)
include agree

theorem Module.plans_congr : m.plans c₁ = m.plans c₂ := by
  refine List.map_congr_left fun c hc => ?_
  have named : m.Names c.name := .inl ⟨c, (List.mem_filter.mp hc).1, rfl⟩
  rw [Component.plan, agree _ named, Component.plan]

theorem Module.annotated_congr : m.annotated c₁ = m.annotated c₂ := by
  rw [Module.annotated, Module.plans_congr agree, Module.annotated]

theorem Module.outcomes_congr : m.outcomes c₁ = m.outcomes c₂ := by
  rw [Module.outcomes, Module.plans_congr agree, Module.outcomes]

theorem Module.placedComments_congr : m.placedComments c₁ = m.placedComments c₂ := by
  rw [Module.placedComments, Module.annotated_congr agree, Module.placedComments]

theorem Module.extractionInterfaces_congr :
    m.extraction.interfaces c₁ = m.extraction.interfaces c₂ := by
  refine List.map_congr_left fun d hd => ?_
  obtain ⟨name, -, found⟩ := List.mem_filterMap.mp hd
  have named : m.Names d.component := .inr ⟨d, (Module.declarationFor?_isLast found).1, rfl⟩
  rw [PropDeclaration.interface, agree _ named, PropDeclaration.interface]

theorem Module.convertParts_congr : m.convertParts c₁ = m.convertParts c₂ := by
  rw [Module.convertParts, Module.annotated_congr agree, Module.outcomes_congr agree,
    Module.placedComments_congr agree, Module.extractionInterfaces_congr agree,
    Module.plans_congr agree, Module.convertParts]

end

/-! ## The interfaces of a level -/

/-- The interfaces of hooks whose names no interface of props has. -/
def ConvertedParts.freeHooks (parts : ConvertedParts) : List Interface :=
  parts.hooks.filter fun h => parts.props.all fun i => h.name != i.name

theorem ConvertedParts.name_ne_of_mem_freeHooks {parts : ConvertedParts} {h i : Interface}
    (hh : h ∈ parts.freeHooks) (hi : i ∈ parts.props) : h.name ≠ i.name := by
  simpa using List.all_eq_true.mp (List.mem_filter.mp hh).2 i hi

/-- The advanced level adds the interfaces of hooks whose names are free, and the others add none. -/
theorem Module.interfaces_eq_append (m : Module) (config : Config) :
    (m.convertParts config).interfaces config
      = if config.level = .advanced then
          (m.convertParts config).props ++ (m.convertParts config).freeHooks
        else (m.convertParts config).props := by
  rw [Module.interfaces_eq, ConvertedParts.askedHooks, Config.withHooks]
  cases config.level <;> simp [ConvertedParts.freeHooks]

/-- Two settings with the same names for the interfaces of all components of a text differ in the
interfaces of hooks only. The diagnostics are the same. Either both conversions fail, with the same result;
or both have code, made from the same text of the annotated program, the same import and the same
interfaces of props, and the advanced level adds interfaces of hooks, none of which has the name of an
interface of props. -/
theorem level_only_adds_interfaces (t : Toolchain) (source : List Char) {c₁ c₂ : Config}
    (agree : ∀ m, t.Reads source m → ∀ name, m.Names name →
      c₁.interfaceName name = c₂.interfaceName name) :
    (t.convert source c₁).diagnostics = (t.convert source c₂).diagnostics
      ∧ ((t.convert source c₁).IsFailure ∧ t.convert source c₁ = t.convert source c₂
        ∨ (t.convert source c₁).OnlyWarns ∧ (t.convert source c₂).OnlyWarns
          ∧ ∃ m body P H, t.Reads source m
            ∧ t.print (m.annotated c₁) (m.placedComments c₁) = .ok body
            ∧ P = (m.convertParts c₁).props
            ∧ H.Sublist (m.annotated c₁).hookInterfaces
            ∧ (∀ h ∈ H, ∀ i ∈ P, h.name ≠ i.name)
            ∧ ∀ c ∈ [c₁, c₂], (t.convert source c).code
              = String.ofList (assemble body m.extraction.hasReactImport
                  (if c.level = .advanced then P ++ H else P))) := by
  rcases t.convert_cases source with ⟨failure, failed⟩ | ⟨m, reads, finished⟩
  · rw [failed c₁, failed c₂]
    exact ⟨rfl, .inl ⟨ConversionResult.isFailure_failed _ _, rfl⟩⟩
  have agree := agree m reads
  -- the trees and the comments are those of one run, since the settings agree on the names in them
  have text : ∀ c ∈ [c₁, c₂], t.print (m.annotated c) (m.placedComments c)
      = t.print (m.annotated c₁) (m.placedComments c₁) := by
    simp [Module.annotated_congr agree, Module.placedComments_congr agree]
  have parts : ∀ c ∈ [c₁, c₂], m.convertParts c = m.convertParts c₁ := by
    simp [Module.convertParts_congr agree]
  cases hp : t.print (m.annotated c₁) (m.placedComments c₁) with
  | error payload =>
    have failed : ∀ c ∈ [c₁, c₂],
        t.convert source c = .failed (.serialization payload.message) source := by
      intro c hc
      rw [finished, Toolchain.finish, text c hc, hp]
    rw [failed c₁ (by simp), failed c₂ (by simp)]
    exact ⟨rfl, .inl ⟨ConversionResult.isFailure_failed _ _, rfl⟩⟩
  | ok body =>
    -- both results are one expression in the level
    have converted : ∀ c ∈ [c₁, c₂], t.convert source c
        = { code := String.ofList (assemble body m.extraction.hasReactImport
              (if c.level = .advanced then
                (m.convertParts c₁).props ++ (m.convertParts c₁).freeHooks
              else (m.convertParts c₁).props))
            diagnostics := (m.convertParts c₁).diagnostics } := by
      intro c hc
      rw [← parts c hc, ← Module.interfaces_eq_append, finished, Toolchain.finish, text c hc, hp]
      rfl
    have warns : ∀ c ∈ [c₁, c₂], (t.convert source c).OnlyWarns := by
      intro c hc d hd
      rw [converted c hc] at hd
      exact Module.severity_of_mem_diagnostics hd
    refine ⟨?_, .inr ⟨warns c₁ (by simp), warns c₂ (by simp), m, body, _, (m.convertParts c₁).freeHooks,
      reads, hp, rfl, List.filter_sublist, ?_, ?_⟩⟩
    · rw [converted c₁ (by simp), converted c₂ (by simp)]
    · exact fun h hh i hi => ConvertedParts.name_ne_of_mem_freeHooks hh hi
    · intro c hc
      rw [converted c hc]

/-- A component with state, whose name can stand for a part of what surrounds it. -/
def statefulSource : List Char :=
  ("function A(props) \x7b\n  const [n, setN] = useState(0);\n  return <b>\x7bn\x7d</b>;\n\x7d\n").toList

def longStart : Config :=
  { level := .advanced, usesAffixes := true, nameStart := "AA", nameEnd := "Props", includesDocs := true }

def longEnd : Config :=
  { usesAffixes := true, nameStart := "A", nameEnd := "AProps", keepsFormatting := true }

/-- Both settings name the interface `AAAProps`; only the advanced level adds the interface of the state. -/
theorem state_only_at_advanced_level : ∃ body P H, H ≠ []
    ∧ (Toolchain.standard.convert statefulSource longStart).code
      = String.ofList (assemble body false (P ++ H))
    ∧ (Toolchain.standard.convert statefulSource longEnd).code
      = String.ofList (assemble body false P) := by
  have run : ∃ m, Module.parse statefulSource = .ok m ∧ (∀ c ∈ m.tree.components, c.name = "A")
      ∧ m.extraction.declarations = [] ∧ m.extraction.hasReactImport = false := by decide +kernel
  obtain ⟨m, hm, found, undeclared, unimported⟩ := run
  have only : ∀ m', Toolchain.standard.Reads statefulSource m' → m = m' := by
    intro m' reads
    rw [Toolchain.reads_standard_iff, hm] at reads
    exact Except.ok.inj reads
  have agree : ∀ m', Toolchain.standard.Reads statefulSource m' → ∀ name, m'.Names name →
      longStart.interfaceName name = longEnd.interfaceName name := by
    intro m' reads name named
    obtain rfl := only m' reads
    have : name = "A" := by
      rcases named with ⟨c, hc, rfl⟩ | ⟨d, hd, rfl⟩
      · exact found c hc
      · rw [← Module.mem_extraction, undeclared] at hd
        cases hd
    subst this
    decide +kernel
  have differ : (convert statefulSource longStart).hasErrors = false
      ∧ (convert statefulSource longStart).code ≠ (convert statefulSource longEnd).code := by
    decide +kernel
  rw [← Toolchain.convert_standard, ← Toolchain.convert_standard] at differ
  obtain ⟨-, ⟨failed, -⟩ | ⟨-, -, m', body, P, H, reads, -, -, -, -, codes⟩⟩ :=
    level_only_adds_interfaces Toolchain.standard statefulSource agree
  · rw [failed.hasErrors] at differ
    cases differ.1
  · obtain rfl := only m' reads
    rw [unimported] at codes
    have advanced := codes longStart (by simp)
    have standard := codes longEnd (by simp)
    refine ⟨body, P, H, ?_, advanced, standard⟩
    rintro rfl
    refine differ.2 (advanced.trans ?_)
    rw [standard]
    simp [longStart, longEnd]

end TypedJsx
