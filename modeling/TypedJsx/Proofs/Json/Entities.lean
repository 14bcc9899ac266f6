import TypedJsx.Batch
import TypedJsx.Proofs.Json.Restoring
/-!
The values that are handed over as JSON: settings, interfaces, diagnostics, and the results of conversions
and batches. Each is a record; what its encoding leaves out, an empty list of comments or a snippet that
there is not, its decoder fills in.

Main statement: decoding gives back every value that was encoded. Lines and columns are words of 32 bits.
-/
namespace TypedJsx

theorem Level.restores (l : Level) : Restores Level.ofJson l.toJson l :=
  restores_asVariant (by cases l <;> decide)

theorem Severity.restores (s : Severity) : Restores Severity.ofJson s.toJson s :=
  restores_asVariant (by cases s <;> decide)

theorem Config.restores (c : Config) : Restores Config.ofJson c.toJson c := by
  intro j same
  have fills : Fills Config.fields _ := .given c.level.restores <| .given (restores_asBool c.usesAffixes) <|
    .given (restores_asString c.nameStart) <| .given (restores_asString c.nameEnd) <|
    .given (restores_asBool c.includesDocs) <| .given (restores_asBool c.keepsFormatting) .nil
  obtain ⟨r, read, gives⟩ := JsonRecord.read_restores "ConversionConfig" (by decide) fills same
  have level : ∀ d, r.getD "conversionLevel" Level.ofJson d = .ok c.level :=
    gives.getD (by simp) c.level.restores
  have affixes : ∀ d, r.getD "customInterfaceNaming" Json.asBool d = .ok c.usesAffixes :=
    gives.getD (by simp) (restores_asBool _)
  have nameStart : ∀ d, r.getD "interfacePrefix" Json.asString d = .ok c.nameStart :=
    gives.getD (by simp) (restores_asString _)
  have nameEnd : ∀ d, r.getD "interfaceSuffix" Json.asString d = .ok c.nameEnd :=
    gives.getD (by simp) (restores_asString _)
  have docs : ∀ d, r.getD "includeJSDoc" Json.asBool d = .ok c.includesDocs :=
    gives.getD (by simp) (restores_asBool _)
  have formatting : ∀ d, r.getD "preserveFormatting" Json.asBool d = .ok c.keepsFormatting :=
    gives.getD (by simp) (restores_asBool _)
  simp only [Config.ofJson, read, ok_bind, level, affixes, nameStart, nameEnd, docs, formatting]
  rfl

/-! ## Interfaces -/

theorem InterfaceMember.restores (m : InterfaceMember) : Restores InterfaceMember.ofJson m.toJson m := by
  intro j same
  obtain ⟨extra, omits, eq⟩ : ∃ extra,
      MayOmit "comments" (Json.asList Json.asString) [] m.comments extra
      ∧ m.toJson = .ofMembers ([("name", Json.string m.name), ("tsType", .string m.type),
        ("optional", .bool m.isOptional)] ++ (extra ++ [])) := by
    cases none : m.comments.isEmpty with
    | true => exact ⟨[], List.isEmpty_iff.mp none ▸ .omitted, by simp [InterfaceMember.toJson, none]⟩
    | false => exact ⟨_, .given (restores_asStrings m.comments), by simp [InterfaceMember.toJson, none]⟩
  have fills : Fills InterfaceMember.fields _ := .given (restores_asString m.name) <|
    .given (restores_asString m.type) <| .given (restores_asBool m.isOptional) <| omits.fills .nil
  obtain ⟨r, read, gives⟩ := JsonRecord.read_restores "InterfaceMember" (by decide) fills (eq ▸ same)
  have name : r.get "name" Json.asString = .ok m.name := gives.get (by simp) (restores_asString _)
  have type : r.get "tsType" Json.asString = .ok m.type := gives.get (by simp) (restores_asString _)
  have optional : r.get "optional" Json.asBool = .ok m.isOptional :=
    gives.get (by simp) (restores_asBool _)
  have comments := omits.getD [_, _, _] [] gives (by simp)
  simp only [InterfaceMember.ofJson, read, ok_bind, name, type, optional, comments]
  rfl

theorem Interface.restores (i : Interface) : Restores Interface.ofJson i.toJson i := by
  intro j same
  have members := restores_asList fun m (_ : m ∈ i.members) => m.restores
  have fills : Fills Interface.fields _ := .given (restores_asString i.name) <| .given members .nil
  obtain ⟨r, read, gives⟩ := JsonRecord.read_restores "SynthesizedInterface" (by decide) fills same
  have name : r.get "name" Json.asString = .ok i.name := gives.get (by simp) (restores_asString _)
  have members : r.get "members" (Json.asList InterfaceMember.ofJson) = .ok i.members :=
    gives.get (by simp) members
  simp only [Interface.ofJson, read, ok_bind, name, members]
  rfl

/-! ## Diagnostics and results -/

/-- The line and the column of a diagnostic are words of 32 bits. -/
def Diagnostic.FitsWords (d : Diagnostic) : Prop :=
  d.line < Nat.pow 2 32 ∧ d.column < Nat.pow 2 32

instance (d : Diagnostic) : Decidable d.FitsWords := inferInstanceAs (Decidable (_ ∧ _))

theorem Diagnostic.restores {d : Diagnostic} (fits : d.FitsWords) :
    Restores Diagnostic.ofJson d.toJson d := by
  intro j same
  -- the snippet is left out where there is none, so the members are not the same for all
  obtain ⟨extra, omits, eq⟩ : ∃ extra,
      MayOmit "snippet" (Json.asOption Json.asString) none d.snippet extra
      ∧ d.toJson = .ofMembers ([("message", Json.string d.message), ("line", .ofNat d.line),
        ("column", .ofNat d.column), ("severity", d.severity.toJson), ("code", .string d.code)]
        ++ (extra ++ [("suggestions", .ofStrings d.suggestions)])) := by
    cases h : d.snippet with
    | none => exact ⟨[], .omitted, by simp [Diagnostic.toJson, h]⟩
    | some s =>
      exact ⟨_, .given (restores_asOption (restores_asString s)), by simp [Diagnostic.toJson, h]⟩
  have suggestions := restores_asStrings d.suggestions
  have fills : Fills Diagnostic.fields _ := .given (restores_asString d.message) <|
    .given (restores_asWord32 fits.1) <| .given (restores_asWord32 fits.2) <| .given d.severity.restores <|
    .given (restores_asString d.code) <| omits.fills <| .given suggestions .nil
  obtain ⟨r, read, gives⟩ := JsonRecord.read_restores "ErrorDetail" (by decide) fills (eq ▸ same)
  -- the fields, as they are asked for one after the other
  have message : r.get "message" Json.asString = .ok d.message :=
    gives.get (by simp) (restores_asString _)
  have line : r.get "line" Json.asWord32 = .ok d.line := gives.get (by simp) (restores_asWord32 fits.1)
  have column : r.get "column" Json.asWord32 = .ok d.column :=
    gives.get (by simp) (restores_asWord32 fits.2)
  have severity : r.get "severity" Severity.ofJson = .ok d.severity :=
    gives.get (by simp) d.severity.restores
  have code : r.get "code" Json.asString = .ok d.code := gives.get (by simp) (restores_asString _)
  have snippet := omits.getD [_, _, _, _, _] [_] gives (by simp)
  have suggestions : r.getD "suggestions" (Json.asList Json.asString) [] = .ok d.suggestions :=
    gives.getD (by simp) suggestions []
  simp only [Diagnostic.ofJson, read, ok_bind, message, line, column, severity, code, snippet, suggestions]
  rfl

theorem restores_diagnostics {ds : List Diagnostic} (fits : ∀ d ∈ ds, d.FitsWords) :
    Restores (Json.asList Diagnostic.ofJson) (.array (ds.map Diagnostic.toJson)) ds :=
  restores_asList fun d hd => Diagnostic.restores (fits d hd)

theorem ConversionResult.restores {c : ConversionResult} (fits : ∀ d ∈ c.diagnostics, d.FitsWords) :
    Restores ConversionResult.ofJson c.toJson c := by
  intro j same
  have fills : Fills ConversionResult.fields _ :=
    .given (restores_asString c.code) <| .given (restores_diagnostics fits) .nil
  obtain ⟨r, read, gives⟩ := JsonRecord.read_restores "ConversionResult" (by decide) fills same
  have code : r.get "code" Json.asString = .ok c.code := gives.get (by simp) (restores_asString _)
  have diagnostics : r.get "errors" (Json.asList Diagnostic.ofJson) = .ok c.diagnostics :=
    gives.get (by simp) (restores_diagnostics fits)
  simp only [ConversionResult.ofJson, read, ok_bind, code, diagnostics]
  rfl

/-! ## Batches -/

theorem SourceFile.restores (f : SourceFile) : Restores SourceFile.ofJson f.toJson f := by
  intro j same
  have fills : Fills SourceFile.fields _ :=
    .given (restores_asString f.name) <| .given (restores_asString f.content) .nil
  obtain ⟨r, read, gives⟩ := JsonRecord.read_restores "SourceFile" (by decide) fills same
  have name : r.get "name" Json.asString = .ok f.name := gives.get (by simp) (restores_asString _)
  have content : r.get "content" Json.asString = .ok f.content := gives.get (by simp) (restores_asString _)
  simp only [SourceFile.ofJson, read, ok_bind, name, content]
  rfl

theorem FileDiagnostics.restores {f : FileDiagnostics} (fits : ∀ d ∈ f.diagnostics, d.FitsWords) :
    Restores FileDiagnostics.ofJson f.toJson f := by
  intro j same
  have fills : Fills FileDiagnostics.fields _ :=
    .given (restores_asString f.fileName) <| .given (restores_diagnostics fits) .nil
  obtain ⟨r, read, gives⟩ := JsonRecord.read_restores "FileDiagnostics" (by decide) fills same
  have fileName : r.get "fileName" Json.asString = .ok f.fileName :=
    gives.get (by simp) (restores_asString _)
  have diagnostics : r.get "errors" (Json.asList Diagnostic.ofJson) = .ok f.diagnostics :=
    gives.get (by simp) (restores_diagnostics fits)
  simp only [FileDiagnostics.ofJson, read, ok_bind, fileName, diagnostics]
  rfl

theorem BatchResult.restores {b : BatchResult}
    (fits : ∀ f ∈ b.errors ++ b.warnings, ∀ d ∈ f.diagnostics, d.FitsWords) :
    Restores BatchResult.ofJson b.toJson b := by
  intro j same
  rw [List.forall_mem_append] at fits
  have converted := restores_asList fun f (_ : f ∈ b.converted) => f.restores
  have errors := restores_asList fun f (hf : f ∈ b.errors) => FileDiagnostics.restores (fits.1 f hf)
  have warnings := restores_asList fun f (hf : f ∈ b.warnings) => FileDiagnostics.restores (fits.2 f hf)
  have fills : Fills BatchResult.fields _ := .given converted <| .given errors <| .given warnings .nil
  obtain ⟨r, read, gives⟩ := JsonRecord.read_restores "BatchResult" (by decide) fills same
  have converted : r.get "convertedFiles" (Json.asList SourceFile.ofJson) = .ok b.converted :=
    gives.get (by simp) converted
  have errors : r.get "errors" (Json.asList FileDiagnostics.ofJson) = .ok b.errors :=
    gives.get (by simp) errors
  have warnings : r.getD "warnings" (Json.asList FileDiagnostics.ofJson) [] = .ok b.warnings :=
    gives.getD (by simp) warnings []
  simp only [BatchResult.ofJson, read, ok_bind, converted, errors, warnings]
  rfl

/-- Decoding undoes the encoding of diagnostics, results of conversions, source files, diagnostics of files,
results of batches, interfaces with their members, and settings; also if the text that they were written as
gives them other places and another order of members. -/
theorem decoding_undoes_encoding :
    (∀ d : Diagnostic, d.FitsWords → Undoes Diagnostic.ofJson Diagnostic.toJson d)
      ∧ (∀ c : ConversionResult, (∀ d ∈ c.diagnostics, d.FitsWords) →
          Undoes ConversionResult.ofJson ConversionResult.toJson c)
      ∧ (∀ f : SourceFile, Undoes SourceFile.ofJson SourceFile.toJson f)
      ∧ (∀ f : FileDiagnostics, (∀ d ∈ f.diagnostics, d.FitsWords) →
          Undoes FileDiagnostics.ofJson FileDiagnostics.toJson f)
      ∧ (∀ b : BatchResult, (∀ f ∈ b.errors ++ b.warnings, ∀ d ∈ f.diagnostics, d.FitsWords) →
          Undoes BatchResult.ofJson BatchResult.toJson b)
      ∧ (∀ m : InterfaceMember, Undoes InterfaceMember.ofJson InterfaceMember.toJson m)
      ∧ (∀ i : Interface, Undoes Interface.ofJson Interface.toJson i)
      ∧ ∀ c : Config, Undoes Config.ofJson Config.toJson c :=
  ⟨fun _ fits => (Diagnostic.restores fits).undoes, fun _ fits => (ConversionResult.restores fits).undoes,
    fun f => f.restores.undoes, fun _ fits => (FileDiagnostics.restores fits).undoes,
    fun _ fits => (BatchResult.restores fits).undoes, fun m => m.restores.undoes,
    fun i => i.restores.undoes, fun c => c.restores.undoes⟩

/-- A batch with a file that failed, with a snippet, and one that was converted with a warning, without
one. -/
def mixedBatch : BatchResult where
  converted := [⟨"a.tsx", "const a = 1;\n"⟩]
  errors := [⟨"b.jsx",
    [⟨"Unexpected token", 2, 7, .error, "SYNTAX_ERROR", some "2 | let = ;", ["Check it."]⟩]⟩]
  warnings := [⟨"a.jsx", [⟨"Ambiguous", 4294967295, 1, .warning, "AMBIGUOUS_COMPONENT", none, []⟩]⟩]

theorem mixedBatch_undone : Undoes BatchResult.ofJson BatchResult.toJson mixedBatch
    ∧ (∀ f ∈ mixedBatch.errors ++ mixedBatch.warnings,
        Undoes FileDiagnostics.ofJson FileDiagnostics.toJson f
        ∧ Undoes ConversionResult.ofJson ConversionResult.toJson ⟨"", f.diagnostics⟩
        ∧ ∀ d ∈ f.diagnostics, Undoes Diagnostic.ofJson Diagnostic.toJson d) := by
  have fits : ∀ f ∈ mixedBatch.errors ++ mixedBatch.warnings, ∀ d ∈ f.diagnostics, d.FitsWords := by
    decide
  obtain ⟨diagnostic, result, -, file, batch, -⟩ := decoding_undoes_encoding
  exact ⟨batch _ fits, fun f hf =>
    ⟨file f (fits f hf), result _ (fits f hf), fun d hd => diagnostic d (fits f hf d hd)⟩⟩

end TypedJsx
