import TypedJsx.Conversion
/-!
Batches: many files converted one by one. A file that fails does not affect the others.
-/
namespace TypedJsx

structure SourceFile where
  name : String
  content : String
deriving DecidableEq, Repr, Inhabited

/-- What is to be said about a file. -/
structure FileDiagnostics where
  fileName : String
  diagnostics : List Diagnostic
deriving DecidableEq, Repr, Inhabited

structure BatchResult where
  /-- The files that were converted, under their new names. -/
  converted : List SourceFile := []
  /-- One entry for each file that failed. -/
  errors : List FileDiagnostics := []
  /-- What is to be said about files that were converted. -/
  warnings : List FileDiagnostics := []
deriving DecidableEq, Repr, Inhabited

/-- A name without an ending, if it has that ending. -/
def withoutEnding? (ending name : List Char) : Option (List Char) :=
  if ending.isSuffixOf name then some (name.take (name.length - ending.length)) else none

/-- The name of the typed file: `.jsx` and `.js` become `.tsx`, which is kept, and any other name gets
it added. -/
def tsxFileName (name : List Char) : List Char :=
  if ".tsx".toList.isSuffixOf name then name
  else match withoutEnding? ".jsx".toList name with
    | some stem => stem ++ ".tsx".toList
    | none =>
      match withoutEnding? ".js".toList name with
      | some stem => stem ++ ".tsx".toList
      | none => name ++ ".tsx".toList

namespace BatchResult

def isClean (r : BatchResult) : Bool := r.errors.isEmpty

/-- Two results one after the other. -/
def append (a b : BatchResult) : BatchResult :=
  { converted := a.converted ++ b.converted
    errors := a.errors ++ b.errors
    warnings := a.warnings ++ b.warnings }

end BatchResult

/-- The results so far with those of one more file, which failed or was converted. -/
def Toolchain.addTo (t : Toolchain) (config : Config) (r : BatchResult) (f : SourceFile) : BatchResult :=
  let converted := t.convert f.content.toList config
  let said : FileDiagnostics := { fileName := f.name, diagnostics := converted.diagnostics }
  if converted.hasErrors then { r with errors := r.errors ++ [said] }
  else
    let file : SourceFile := ⟨String.ofList (tsxFileName f.name.toList), converted.code⟩
    { r with
      converted := r.converted ++ [file]
      warnings := if converted.diagnostics.isEmpty then r.warnings else r.warnings ++ [said] }

/-- Converts files in order. -/
def Toolchain.convertBatch (t : Toolchain) (config : Config) (files : List SourceFile) : BatchResult :=
  files.foldl (t.addTo config) {}

/-- Converts files in order with the reader and the printer of this library. -/
def convertBatch (config : Config) (files : List SourceFile) : BatchResult :=
  Toolchain.standard.convertBatch config files

/-! ## As JSON -/

namespace SourceFile

def toJson (f : SourceFile) : Json :=
  .ofMembers [("name", .string f.name), ("content", .string f.content)]

def fields : List JsonField :=
  [.required "name" Json.asString, .required "content" Json.asString]

def ofJson : Decode SourceFile := fun j => do
  let r ← JsonRecord.read "SourceFile" fields j
  return { name := ← r.get "name" Json.asString, content := ← r.get "content" Json.asString }

end SourceFile

namespace FileDiagnostics

def toJson (f : FileDiagnostics) : Json :=
  .ofMembers [("fileName", .string f.fileName), ("errors", .array (f.diagnostics.map Diagnostic.toJson))]

def fields : List JsonField :=
  [.required "fileName" Json.asString, .required "errors" (Json.asList Diagnostic.ofJson)]

def ofJson : Decode FileDiagnostics := fun j => do
  let r ← JsonRecord.read "FileDiagnostics" fields j
  return {
    fileName := ← r.get "fileName" Json.asString
    diagnostics := ← r.get "errors" (Json.asList Diagnostic.ofJson) }

end FileDiagnostics

namespace BatchResult

def toJson (r : BatchResult) : Json :=
  .ofMembers [("convertedFiles", .array (r.converted.map SourceFile.toJson)),
    ("errors", .array (r.errors.map FileDiagnostics.toJson)),
    ("warnings", .array (r.warnings.map FileDiagnostics.toJson))]

def fields : List JsonField :=
  [.required "convertedFiles" (Json.asList SourceFile.ofJson),
    .required "errors" (Json.asList FileDiagnostics.ofJson),
    .optional "warnings" (Json.asList FileDiagnostics.ofJson)]

def ofJson : Decode BatchResult := fun j => do
  let r ← JsonRecord.read "BatchResult" fields j
  return {
    converted := ← r.get "convertedFiles" (Json.asList SourceFile.ofJson)
    errors := ← r.get "errors" (Json.asList FileDiagnostics.ofJson)
    warnings := ← r.getD "warnings" (Json.asList FileDiagnostics.ofJson) [] }

end BatchResult

end TypedJsx
