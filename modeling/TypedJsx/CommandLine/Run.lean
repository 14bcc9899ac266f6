import TypedJsx.FileSystem
import TypedJsx.Archive
import TypedJsx.CommandLine.Arguments
import TypedJsx.Json.Value
/-!
Runs of the command line: from a file system and arguments to the output, the exit code and the file
system afterwards. A run is one action after the other, and everything is read before anything is written.
-/
namespace TypedJsx

/-! ## Actions

An action asks the file system as it is at that moment, changes it, or prints. When an action fails the run is
over, and what was done before remains. -/

/-- A failure that ends a run, by the texts of its causes, the outermost first. -/
structure FatalError where
  causes : List String
deriving DecidableEq, Repr, Inhabited

def FatalError.message (e : FatalError) : String := "error: " ++ ": ".intercalate e.causes ++ "\n"

/-- The file system as it is now, and what was printed so far. -/
structure Session where
  fileSystem : FileSystem
  stdout : String := ""
  stderr : String := ""

/-- A part of a run with a result, unless it fails. -/
abbrev Action (α : Type) := ExceptT FatalError (StateM Session) α

namespace Action

/-- What comes of an action in a session, and the session after it. -/
def perform {α : Type} (x : Action α) (s : Session) : Except FatalError α × Session := x.run s

/-- Asks the file system. -/
def ask {α : Type} (question : FileSystem → Except FatalError α) : Action α :=
  ExceptT.mk fun s => (question s.fileSystem, s)

/-- Changes the file system. A change that fails may have been made in part. -/
def change (step : FileSystem → FileSystem × Option FatalError) : Action Unit :=
  ExceptT.mk fun s =>
    let (fs, failure) := step s.fileSystem
    (match failure with
      | some e => .error e
      | none => .ok (), { s with fileSystem := fs })

/-- Prints on the output. -/
def print (text : String) : Action Unit := modify fun s => { s with stdout := s.stdout ++ text }

/-- Prints on the error output. -/
def report (text : String) : Action Unit := modify fun s => { s with stderr := s.stderr ++ text }

end Action

structure RunOutcome where
  exitCode : Nat
  stdout : String := ""
  stderr : String := ""
  fileSystem : FileSystem

namespace Run

/-- An operation on files in a context. -/
def inContext {α : Type} (context : String) (result : Except FileError α) : Except FatalError α :=
  match result with
  | .ok a => .ok a
  | .error e => .error ⟨[context, e.message]⟩

/-! ## Reading -/

/-- The config file, or the default settings. -/
def baseConfig (fs : FileSystem) (path : Option String) : Except FatalError Config :=
  match path with
  | none => .ok {}
  | some path => do
    let text ← inContext ("reading config " ++ path) (fs.readText path.toList)
    match Config.ofText text.toList with
    | .ok config => .ok config
    | .error e => .error ⟨["parsing config " ++ path, e.message text.toList]⟩

/-- The settings of a run: arguments take precedence over the config file. -/
def config (fs : FileSystem) (a : Arguments) : Except FatalError Config := do
  let c ← baseConfig fs a.config
  let c := match a.level with
    | some level => { c with level := level }
    | none => c
  let c := match a.nameStart with
    | some text => { c with usesAffixes := true, nameStart := text }
    | none => c
  return match a.nameEnd with
    | some text => { c with usesAffixes := true, nameEnd := text }
    | none => c

/-- The name of a source: backslashes count as slashes. -/
def sourceName (name : List Char) : String :=
  String.ofList (name.map fun c => if c == '\\' then '/' else c)

def readSource (fs : FileSystem) (path name : List Char) : Except FatalError SourceFile := do
  let content ← inContext ("reading " ++ String.ofList path) (fs.readText path)
  return { name := sourceName name, content := content }

/-- Names of sources in a directory. -/
def isSourceName (name : List Char) : Bool :=
  match Path.extension? name with
  | some e => e == "jsx".toList || e == "js".toList
  | none => false

def isSource (parts : List (List Char)) : Bool :=
  match parts.getLast? with
  | some name => isSourceName name
  | none => false

/-- The sources below a directory, named from there. -/
def sourcesBelow (fs : FileSystem) (path : List Char) : Except FatalError (List SourceFile) :=
  ((fs.filesBelow path).filter isSource).mapM fun parts =>
    let name := joinWith ['/'] parts
    readSource fs (Path.join path name) name

/-- The sources of an input: a file, whatever its name, or the sources below a directory. -/
def sourcesOf (fs : FileSystem) (input : String) : Except FatalError (List SourceFile) :=
  let path := input.toList
  if fs.isDirectory path then sourcesBelow fs path
  else do
    let f ← readSource fs path ((Path.fileName? path).getD path)
    return [f]

def sources (fs : FileSystem) (inputs : List String) : Except FatalError (List SourceFile) := do
  let found ← inputs.mapM (sourcesOf fs)
  if found.flatten.isEmpty then .error ⟨["no .jsx or .js files found"]⟩
  else return found.flatten

/-! ## Output -/

def diagnosticText (fileName : String) (d : Diagnostic) : String :=
  let snippet := match d.snippet with
    | some s => (lines s.toList).map fun l => "   " ++ String.ofList l ++ "\n"
    | none => []
  d.severity.name ++ "[" ++ d.code ++ "]: " ++ d.message ++ "\n  --> " ++ fileName ++ ":"
    ++ toString d.line ++ ":" ++ toString d.column ++ "\n" ++ String.join snippet
    ++ String.join (d.suggestions.map fun s => "  help: " ++ s ++ "\n")

/-- What is said about the files of a batch, failures first. -/
def diagnosticsText (r : BatchResult) : String :=
  String.join ((r.errors ++ r.warnings).map fun f =>
    String.join (f.diagnostics.map (diagnosticText f.fileName)))

/-- Converted files on the output: one as it is, several under their names. -/
def filesText : List SourceFile → String
  | [f] => f.content
  | files => String.join (files.map fun f => "// ── " ++ f.name ++ " ──\n" ++ f.content ++ "\n")

def jsonText (r : BatchResult) : String := String.ofList (r.toJson.pretty 0) ++ "\n"

/-! ## Writing -/

/-- Makes the directory of a path and writes a file there. A failure leaves the directories that were made;
what is said about it may depend on whether it was met while they were made. -/
def save (path : List Char) (content : FileContent) (failed : Bool → FileError → FatalError)
    (fs : FileSystem) : FileSystem × Option FatalError :=
  match fs.createDirectories (Path.parent path) with
  | (fs, some e) => (fs, some (failed true e))
  | (fs, none) =>
    match fs.write path content with
    | .ok fs => (fs, none)
    | .error e => (fs, some (failed false e))

/-- Writes a file into a directory, which is made if it is not there. -/
def writeFile (directory : String) (fs : FileSystem) (f : SourceFile) : FileSystem × Option FatalError :=
  let path := Path.join directory.toList f.name.toList
  let failed (isMaking : Bool) (e : FileError) : FatalError :=
    if isMaking then ⟨["creating " ++ String.ofList (Path.parent path), e.message]⟩
    else ⟨["writing " ++ String.ofList path, e.message]⟩
  save path (.text f.content) failed fs

/-- Writes files in order. A failure leaves what was written before. -/
def writeFiles (directory : String) (fs : FileSystem) :
    List SourceFile → FileSystem × Option FatalError
  | [] => (fs, none)
  | f :: rest =>
    match writeFile directory fs f with
    | (fs, none) => writeFiles directory fs rest
    | (fs, some e) => (fs, some e)

/-- A failure to write an archive names its cause twice: in its own text, and as its cause. -/
def archiveError (path : String) (e : ArchiveError) : FatalError :=
  ⟨["writing archive " ++ path, e.message, e.cause]⟩

/-- Packs files and writes the archive. Nothing is written before all files are packed. -/
def writeArchive (p : Packer) (path : String) (fs : FileSystem) (files : List SourceFile) :
    FileSystem × Option FatalError :=
  match p.pack files with
  | .error e => (fs, some (archiveError path e))
  | .ok archive =>
    save path.toList (.archive archive) (fun _ e => archiveError path (.unwritten e.message)) fs

/-- Writes what the arguments ask for, the directory before the archive. -/
def writeAll (a : Arguments) (fs : FileSystem) (files : List SourceFile) :
    FileSystem × Option FatalError :=
  let (fs, failure) := match a.outDir with
    | some directory => writeFiles directory fs files
    | none => (fs, none)
  match failure, a.archive with
  | none, some path =>
    writeArchive .standard path fs files
  | failure, _ => (fs, failure)

/-! ## Runs -/

/-- Everything that is read in a run. -/
def load (fs : FileSystem) (a : Arguments) : Except FatalError (Config × List SourceFile) := do
  let c ← config fs a
  let files ← sources fs a.inputs
  return (c, files)

/-- What a run prints on the output before it writes files. -/
def earlyOutput (a : Arguments) (r : BatchResult) : String :=
  if a.printsJson then jsonText r else ""

/-- What a run prints on the output if it writes no files. -/
def lateOutput (a : Arguments) (r : BatchResult) : String :=
  if a.printsJson || a.outDir.isSome || a.archive.isSome then "" else filesText r.converted

/-- What is done with arguments that are well formed. The result tells whether all files were converted. -/
def program (a : Arguments) : Action Bool := do
  let c ← Action.ask fun fs => config fs a
  let files ← Action.ask fun fs => sources fs a.inputs
  let r := convertBatch c files
  Action.report (diagnosticsText r)
  Action.print (earlyOutput a r)
  Action.change fun fs => writeAll a fs r.converted
  Action.print (lateOutput a r)
  return r.isClean

/-- A run with arguments that are well formed. -/
def convertFiles (fs : FileSystem) (a : Arguments) : RunOutcome :=
  match (program a).perform { fileSystem := fs } with
  | (.ok isClean, s) =>
    { exitCode := if isClean then 0 else 1, stdout := s.stdout, stderr := s.stderr,
      fileSystem := s.fileSystem }
  | (.error e, s) =>
    { exitCode := 1, stdout := s.stdout, stderr := s.stderr ++ e.message, fileSystem := s.fileSystem }

def versionText : String := "jsx-to-tsx 0.1.0\n"

def helpText : String :=
  "Convert React JSX components to typed TSX\n\nUsage: jsx-to-tsx [OPTIONS] <INPUTS>...\n\n"
    ++ "Arguments:\n"
    ++ "  <INPUTS>...  Files or directories to convert. "
    ++ "Directories are searched for .jsx and .js files\n\n"
    ++ "Options:\n"
    ++ "      --level <LEVEL>    Conversion level: basic, standard or advanced\n"
    ++ "      --prefix <PREFIX>  Prefix for generated props interface names\n"
    ++ "      --suffix <SUFFIX>  Suffix for generated props interface names\n"
    ++ "      --config <FILE>    JSON conversion config. "
    ++ "Flags on the command line take precedence\n"
    ++ "      --out-dir <DIR>    Write converted files into this directory\n"
    ++ "      --archive <FILE>   Write converted files into a ZIP archive\n"
    ++ "      --json             Print the batch result as JSON on stdout\n"
    ++ "  -h, --help             Print help\n"
    ++ "  -V, --version          Print version\n"

end Run

/-- Runs a command line. Arguments that are not well formed end it before anything is read. -/
def run (fs : FileSystem) (arguments : List String) : RunOutcome :=
  match Request.parse arguments with
  | .error e => { exitCode := 2, stderr := e.message, fileSystem := fs }
  | .ok .version => { exitCode := 0, stdout := Run.versionText, fileSystem := fs }
  | .ok .help => { exitCode := 0, stdout := Run.helpText, fileSystem := fs }
  | .ok (.run a) => Run.convertFiles fs a

end TypedJsx
