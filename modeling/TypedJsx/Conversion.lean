import TypedJsx.Component
import TypedJsx.Interface
import TypedJsx.Comment
import TypedJsx.Diagnostic
import TypedJsx.Hook
import TypedJsx.PropTypes
import TypedJsx.Printer.Program
import TypedJsx.Signature
/-!
Conversion of a module to a typed one. The components are found first; then what the program says about
props is taken out of it and becomes interfaces, the signatures of the components get types, and the
comments that would be lost get new places. The typed module is an import of the framework if there is none,
the interfaces, and the code.
-/
namespace TypedJsx

/-! ## Assembly -/

def reactImport : List Char := "import React from 'react';".toList

/-- Interfaces of props, then those of hooks whose names are still free. -/
def mergeInterfaces (props hooks : List Interface) : List Interface :=
  firstPerKey Interface.name (props ++ hooks)

def blankLine : List Char := ['\n', '\n']

/-- The declarations of interfaces, a blank line behind each. -/
def interfaceText (interfaces : List Interface) : List Char :=
  if interfaces.isEmpty then []
  else joinWith blankLine (interfaces.map Interface.render) ++ blankLine

/-- Puts a typed module together. -/
def assemble (code : List Char) (hasReactImport : Bool) (interfaces : List Interface) : List Char :=
  (if hasReactImport then [] else reactImport ++ blankLine) ++ interfaceText interfaces ++ code

/-! ## Results -/

/-- The code that a conversion gives, and what it has to say. Code is empty if the conversion failed. -/
structure ConversionResult where
  code : String
  diagnostics : List Diagnostic
deriving DecidableEq, Repr, Inhabited

namespace ConversionResult

def hasErrors (r : ConversionResult) : Bool := r.diagnostics.any Diagnostic.isError

def toJson (r : ConversionResult) : Json :=
  .ofMembers [("code", .string r.code), ("errors", .array (r.diagnostics.map Diagnostic.toJson))]

def fields : List JsonField :=
  [.required "code" Json.asString, .required "errors" (Json.asList Diagnostic.ofJson)]

def ofJson : Decode ConversionResult := fun j => do
  let r ← JsonRecord.read "ConversionResult" fields j
  return {
    code := ← r.get "code" Json.asString
    diagnostics := ← r.get "errors" (Json.asList Diagnostic.ofJson) }

end ConversionResult

/-- The failure that a fault in the source is. -/
def Issue.failure (source : List Char) (issue : Issue) : Failure :=
  .parse issue.fault.message (Position.ofOffset source issue.offset)

/-! ## Plans -/

/-- A component that may merely make another one, and whose props are not declared, is left alone. -/
def Component.isLeftAlone (c : Component) (e : Extraction) : Bool :=
  c.detection == .ambiguous && !e.declares c.name

def ambiguityCode : String := "AMBIGUOUS_COMPONENT"

/-- The warning for a component that is left alone. -/
def Component.ambiguityWarning (c : Component) (source : List Char) : Diagnostic :=
  let p := Position.ofOffset source c.span.start
  let message := Failure.located
    ("`" ++ c.name ++ "` only renders JSX from nested functions and was not annotated") p
  Diagnostic.warning ambiguityCode message source p
    ["Add a propTypes declaration for `" ++ c.name ++ "` to convert it as a component.",
      "Return JSX directly from `" ++ c.name ++ "` if it is a component."]

/-- The plan for a component. -/
def Component.plan (c : Component) (isDeclared : Bool) (config : Config) : Plan :=
  { component := c.name, interfaceName := config.interfaceName c.name, isDeclared := isDeclared,
    span := c.span }

/-! ## Interfaces -/

/-- The names of the components whose plans were carried out, in order. -/
def annotatedNames (outcomes : List Outcome) : List String :=
  (outcomes.filter fun o => o.failure.isNone).map fun o => o.plan.component

/-- The failure that an outcome is. -/
def Outcome.failure? (source : List Char) (o : Outcome) : Option Failure :=
  o.failure.map fun reason =>
    Failure.atOffset ("Cannot annotate component `" ++ o.plan.component ++ "`: " ++ reason) source
      o.plan.span.start

/-- The interfaces of declared props, by the declaration that counts. -/
def Extraction.interfaces (e : Extraction) (config : Config) : List Interface :=
  (e.components.filterMap e.declarationFor?).map fun d => d.interface config

/-- Empty interfaces for the components whose props are not declared. -/
def undeclaredInterfaces (plans : List Plan) (annotated : List String) : List Interface :=
  (plans.filter fun p => !p.isDeclared && annotated.contains p.component).map fun p =>
    { name := p.interfaceName }

/-! ## Conversion -/

/-- What a conversion makes of a module, before it is put together. -/
structure ConvertedParts where
  body : List Char
  hasReactImport : Bool
  props : List Interface
  hooks : List Interface
  diagnostics : List Diagnostic
deriving Inhabited

/-- The plans for the components of a module. -/
def Module.plans (m : Module) (config : Config) : List Plan :=
  let e := m.extraction
  (m.tree.components.filter fun c => !c.isLeftAlone e).map fun c => c.plan (e.declares c.name) config

/-- The components of a module that are left alone. -/
def Module.leftAlone (m : Module) : List Component :=
  m.tree.components.filter fun c => c.isLeftAlone m.extraction

/-- The tree of a module with the plans carried out. -/
def Module.annotated (m : Module) (config : Config) : Node :=
  m.tree.withoutProps.annotate (m.plans config)

/-- What became of the plans for a module. -/
def Module.outcomes (m : Module) (config : Config) : List Outcome :=
  m.tree.withoutProps.outcomes (m.plans config)

/-- The comments of a module at their new places. -/
def Module.placedComments (m : Module) (config : Config) : List Comment :=
  let extraction := m.extraction
  let anchors := (m.annotated config).anchors m.source
  m.comments.map (anchors.place extraction.removed extraction.absorbed)

/-- Converts the parts of a module. -/
def Module.convertParts (m : Module) (config : Config) : ConvertedParts :=
  let extraction := m.extraction
  let tree := m.annotated config
  let outcomes := m.outcomes config
  { body := tree.print (m.placedComments config)
    hasReactImport := extraction.hasReactImport
    props := extraction.interfaces config
      ++ undeclaredInterfaces (m.plans config) (annotatedNames outcomes)
    hooks := tree.hookInterfaces
    diagnostics := m.leftAlone.map (·.ambiguityWarning m.source)
      ++ (outcomes.filterMap (·.failure? m.source)).map (Diagnostic.reportContained · m.source) }

/-- The interfaces of a conversion; those of hooks only at the level that asks for them. -/
def ConvertedParts.interfaces (parts : ConvertedParts) (config : Config) : List Interface :=
  mergeInterfaces parts.props (if config.withHooks then parts.hooks else [])

/-- Converts a source text. -/
def convert (source : List Char) (config : Config) : ConversionResult :=
  match Module.parse source with
  | .error issue => { code := "", diagnostics := [Diagnostic.report (issue.failure source) source] }
  | .ok m =>
    let parts := m.convertParts config
    { code := String.ofList (assemble parts.body parts.hasReactImport (parts.interfaces config))
      diagnostics := parts.diagnostics }

/-! ## Conversions that can break off -/

/-- What a reader of modules hands over: the faults it found, each with the offset that it points at if
there is one, whether it stopped before the end of the text, and the module. -/
structure Reading where
  faults : List (String × Option Nat) := []
  stopped : Bool := false
  module : Module

/-- The module that was read. The first fault is the one that counts. -/
def Reading.result (r : Reading) (source : List Char) : Except Failure Module :=
  match r.faults with
  | (message, offset) :: _ =>
    .error (.parse message ((offset.map (Position.ofOffset source)).getD ⟨0, 0⟩))
  | [] =>
    if r.stopped then .error (.parse "Parser stopped before the end of the input" ⟨0, 0⟩)
    else .ok r.module

/-- A reader and a printer of modules. Either may be given up. -/
structure Toolchain where
  read : List Char → Except Payload Reading
  print : Node → List Comment → Except Payload (List Char)

/-- The result of a conversion that failed. -/
def ConversionResult.failed (failure : Failure) (source : List Char) : ConversionResult :=
  { code := "", diagnostics := [Diagnostic.report failure source] }

namespace Toolchain

/-- The text of a program with its leading comments. A printer that is given up is a failure. -/
def generate (t : Toolchain) (tree : Node) (comments : List Comment) : Except Failure (List Char) :=
  match t.print tree comments with
  | .ok text => .ok text
  | .error payload => .error (.serialization payload.message)

/-- The typed module of what was read. -/
def convertModule (t : Toolchain) (m : Module) (config : Config) : Except Failure ConversionResult := do
  let body ← t.generate (m.annotated config) (m.placedComments config)
  let parts := m.convertParts config
  return { code := String.ofList (assemble body parts.hasReactImport (parts.interfaces config))
           diagnostics := parts.diagnostics }

/-- Reads a source text and converts it. -/
def convertSource (t : Toolchain) (source : List Char) (config : Config) :
    Except Payload (Except Failure ConversionResult) := do
  let reading ← t.read source
  return do t.convertModule (← reading.result source) config

/-- Converts a source text. A failure, and a conversion that was given up, is a diagnostic. -/
def convert (t : Toolchain) (source : List Char) (config : Config) : ConversionResult :=
  match t.convertSource source config with
  | .ok (.ok r) => r
  | .ok (.error failure) => .failed failure source
  | .error payload => .failed (.transform ("Conversion aborted: " ++ payload.message)) source

/-- The reader and the printer of this library, which always end. -/
def standard : Toolchain where
  read source :=
    match Module.parse source with
    | .error issue =>
      .ok { faults := [(issue.fault.message, some issue.offset)], module := ⟨source, .absent, []⟩ }
    | .ok m => .ok { module := m }
  print tree comments := .ok (tree.print comments)

theorem convert_standard (source : List Char) (config : Config) :
    standard.convert source config = TypedJsx.convert source config := by
  simp only [Toolchain.convert, convertSource, standard, TypedJsx.convert]
  cases Module.parse source <;> rfl

end Toolchain

/-! ## Repetition -/

/-- Converts a source text, then the code that comes out, and so on, at most as often as asked. A
conversion that fails is the last one. -/
def convertRepeatedly (config : Config) : Nat → List Char → List ConversionResult
  | 0, _ => []
  | times + 1, source =>
    let r := convert source config
    r :: if r.hasErrors then [] else convertRepeatedly config times r.code.toList

end TypedJsx
