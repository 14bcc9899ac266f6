import TypedJsx.Config
/-!
Arguments of the command line. Options take their value behind a blank or an equals sign, `--` ends
the options, and everything else is an input.
-/
namespace TypedJsx

/-- Options with a value. -/
inductive ValueOption where
  | level | nameStart | nameEnd | config | outDir | archive
deriving DecidableEq, Repr, Inhabited

namespace ValueOption

def all : List ValueOption := [level, nameStart, nameEnd, config, outDir, archive]

/-- The text of an option. -/
def flag : ValueOption → String
  | level => "--level"
  | nameStart => "--prefix"
  | nameEnd => "--suffix"
  | config => "--config"
  | outDir => "--out-dir"
  | archive => "--archive"

/-- What an option takes. -/
def valueName : ValueOption → String
  | level => "LEVEL"
  | nameStart => "PREFIX"
  | nameEnd => "SUFFIX"
  | config => "FILE"
  | outDir => "DIR"
  | archive => "FILE"

/-- How messages call an option. -/
def describe (o : ValueOption) : String := o.flag ++ " <" ++ o.valueName ++ ">"

/-- Options whose value is a path, which is not empty. -/
def isPath : ValueOption → Bool
  | config | outDir | archive => true
  | _ => false

end ValueOption

/-- What is wrong with the arguments. -/
inductive UsageError where
  | missingInputs
  | unexpected (argument : String)
  | missingValue (what : String)
  | unneededValue (value flag : String)
  | repeated (what : String)
  | invalidLevel (value : String) (reason : String)
deriving DecidableEq, Repr, Inhabited

def UsageError.message : UsageError → String
  | missingInputs => "error: the following required arguments were not provided:"
  | unexpected argument => "error: unexpected argument '" ++ argument ++ "' found"
  | missingValue what => "error: a value is required for '" ++ what ++ "' but none was supplied"
  | unneededValue value flag =>
    "error: unexpected value '" ++ value ++ "' for '" ++ flag ++ "' found; no more were expected"
  | repeated what => "error: the argument '" ++ what ++ "' cannot be used multiple times"
  | invalidLevel value reason =>
    "error: invalid value '" ++ value ++ "' for '" ++ ValueOption.level.describe ++ "': " ++ reason

structure Arguments where
  inputs : List String := []
  level : Option Level := none
  nameStart : Option String := none
  nameEnd : Option String := none
  config : Option String := none
  outDir : Option String := none
  archive : Option String := none
  printsJson : Bool := false
deriving DecidableEq, Repr, Inhabited

/-- What a command line asks for. -/
inductive Request where
  | run (arguments : Arguments)
  | version
  | help
deriving DecidableEq, Repr, Inhabited

namespace Arguments

/-- Whether an option is given already. -/
def has (a : Arguments) : ValueOption → Bool
  | .level => a.level.isSome
  | .nameStart => a.nameStart.isSome
  | .nameEnd => a.nameEnd.isSome
  | .config => a.config.isSome
  | .outDir => a.outDir.isSome
  | .archive => a.archive.isSome

/-- The arguments with a value for an option. -/
def set (a : Arguments) (o : ValueOption) (value : String) : Except UsageError Arguments :=
  if a.has o then .error (.repeated o.describe)
  else if o.isPath && value.isEmpty then .error (.missingValue o.describe)
  else match o with
    | .level =>
      match Level.parse value.toList with
      | .ok level => .ok { a with level := some level }
      | .error text => .error (.invalidLevel value (Level.unknownMessage text))
    | .nameStart => .ok { a with nameStart := some value }
    | .nameEnd => .ok { a with nameEnd := some value }
    | .config => .ok { a with config := some value }
    | .outDir => .ok { a with outDir := some value }
    | .archive => .ok { a with archive := some value }

def addInput (a : Arguments) (input : String) : Except UsageError Arguments :=
  if input.isEmpty then .error (.missingValue "<INPUTS>...")
  else .ok { a with inputs := a.inputs ++ [input] }

end Arguments

/-! ## Reading -/

/-- An option that was read and is not yet settled: its value may still follow. -/
structure PendingOption where
  option : ValueOption
  value : Option String
deriving DecidableEq, Repr, Inhabited

structure ArgumentState where
  found : Arguments := {}
  pending : Option PendingOption := none
  onlyInputs : Bool := false
deriving DecidableEq, Repr, Inhabited

namespace ArgumentState

/-- Settles the option that was read last. -/
def settle (s : ArgumentState) : Except UsageError ArgumentState :=
  match s.pending with
  | none => .ok s
  | some ⟨o, none⟩ => .error (.missingValue o.describe)
  | some ⟨o, some value⟩ => do
    return { s with found := ← s.found.set o value, pending := none }

/-- An argument that is no option: the value of the one before, or an input. -/
def plain (s : ArgumentState) (argument : String) : Except UsageError ArgumentState :=
  match s.pending with
  | some ⟨o, none⟩ => .ok { s with pending := some ⟨o, some argument⟩ }
  | _ => do
    let s ← s.settle
    return { s with found := ← s.found.addInput argument }

/-- The name and the value of `--name=value`. -/
def splitValue (cs : List Char) : String × Option String :=
  let name := cs.takeWhile (· != '=')
  match cs.drop name.length with
  | [] => (String.ofList name, none)
  | _ :: value => (String.ofList name, some (String.ofList value))

/-- What an argument asks for at once, or the state after it. -/
abbrev Step := Except UsageError (ArgumentState ⊕ Request)

/-- A flag without a value. -/
def flag (s : ArgumentState) (name : String) (value : Option String)
    (effect : ArgumentState → Step) : Step :=
  match value with
  | some v => .error (.unneededValue v name)
  | none => do effect (← s.settle)

def setJson (s : ArgumentState) : Step :=
  if s.found.printsJson then .error (.repeated "--json")
  else .ok (.inl { s with found := { s.found with printsJson := true } })

/-- An argument that begins with two dashes. -/
def long (s : ArgumentState) (cs : List Char) : Step :=
  let (name, value) := splitValue cs
  match ValueOption.all.find? fun o => o.flag == name with
  | some o => do
    let s ← s.settle
    match value with
    | some v => return .inl { s with found := ← s.found.set o v }
    | none => return .inl { s with pending := some ⟨o, none⟩ }
  | none =>
    if name == "--json" then s.flag name value setJson
    else if name == "--version" then s.flag name value fun _ => .ok (.inr .version)
    else if name == "--help" then s.flag name value fun _ => .ok (.inr .help)
    else .error (.unexpected name)

/-- An argument that begins with one dash. -/
def short (s : ArgumentState) (c : Char) : Step :=
  if c == 'V' then do
    let _ ← s.settle
    return .inr .version
  else if c == 'h' then do
    let _ ← s.settle
    return .inr .help
  else .error (.unexpected (String.ofList ['-', c]))

def step (s : ArgumentState) (argument : String) : Step :=
  if s.onlyInputs then do
    let s ← s.settle
    return .inl { s with found := ← s.found.addInput argument }
  else match argument.toList with
    | ['-', '-'] => .ok (.inl { s with onlyInputs := true })
    | '-' :: '-' :: cs => s.long ('-' :: '-' :: cs)
    | '-' :: c :: _ => s.short c
    | _ => return .inl (← s.plain argument)

/-- Reads the arguments that are left. -/
def read (s : ArgumentState) : List String → Except UsageError Request
  | [] => do
    let s ← s.settle
    if s.found.inputs.isEmpty then .error .missingInputs
    else return .run s.found
  | a :: rest => do
    match ← s.step a with
    | .inl s => s.read rest
    | .inr request => return request

end ArgumentState

/-- Reads a command line. -/
def Request.parse (arguments : List String) : Except UsageError Request :=
  ArgumentState.read {} arguments

end TypedJsx
