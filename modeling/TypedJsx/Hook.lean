import TypedJsx.Component
import TypedJsx.Interface
import TypedJsx.Text.Uppercase
/-!
Hooks: calls of functions whose name begins with `use`. Some of them tell of a type that deserves an
interface: the state of `useState`, the state and action of `useReducer`, the value of `useContext`.
They are found on one walk through the program, which keeps a stack of the declarators that it stands in.
-/
namespace TypedJsx

/-- The type of an initial value, as far as it can be read off the expression. -/
def initialType? (e : Node) : Option String :=
  match e.withoutParentheses with
  | .mk (.stringLiteral _ _) _ _ => some "string"
  | .mk (.numberLiteral _ _) _ _ => some "number"
  | .mk (.booleanLiteral _) _ _ => some "boolean"
  | .mk .nullLiteral _ _ => some "null"
  | .mk .object _ _ => some "Record<string, any>"
  | .mk .array _ _ => some "any[]"
  | .mk (.reference name) _ _ => if name == "undefined" then some "undefined" else none
  | .mk (.call _ _) _ (.mk (.reference callee) _ _ :: _) =>
    [("Array", "any[]"), ("Object", "Record<string, any>"), ("String", "string"), ("Number", "number"),
      ("Boolean", "boolean")].lookup callee
  | _ => none

/-- A call of a plain name. -/
structure HookCall where
  name : String
  /-- The first argument, unless it is a spread. -/
  argument : Option Node
  /-- The innermost declarator that the call stands in, if any: the name that the first element of its
  pattern binds, if it is such a pattern. -/
  declarator : Option (Option String)

/-- The name that the first element of a declarator's array pattern binds. -/
def firstElementName? : Node → Option String
  | .mk .arrayPattern _ (.mk (.binding name) _ _ :: _) => some name
  | _ => none

/-- The first of some arguments, unless it is a spread. -/
def firstArgument? : List Node → Option Node
  | .mk .spread _ _ :: _ | [] => none
  | first :: _ => some first

/-- The call that a node is. -/
def hookCall? (declarator : Option (Option String)) : Node → Option HookCall
  | .mk (.call _ _) _ (.mk (.reference name) _ _ :: _ :: args) =>
    some ⟨name, firstArgument? args, declarator⟩
  | _ => none

namespace HookCall

/-- A name that makes a call a hook. -/
def isHook (c : HookCall) : Bool := "use".toList.isPrefixOf c.name.toList

/-- The name that the first argument is. -/
def argumentName? (c : HookCall) : Option String :=
  match c.argument with
  | some (.mk (.reference name) _ _) => some name
  | _ => none

def stateInterfaces (c : HookCall) : List Interface :=
  match c.argument.bind initialType?, c.declarator with
  | some type, some (some name) =>
    [{ name := capitalize name ++ "State"
       members := [{ name := "value", type := type, isOptional := false }] }]
  | _, _ => []

def reducerInterfaces (c : HookCall) : List Interface :=
  match c.argumentName?, c.declarator with
  | some reducer, some _ =>
    [{ name := reducer ++ "State" },
      { name := reducer ++ "Action"
        members := [{ name := "type", type := "string", isOptional := false },
          { name := "payload", type := "any", isOptional := true }] }]
  | _, _ => []

def contextInterfaces (c : HookCall) : List Interface :=
  match c.argumentName? with
  | some context => [{ name := context ++ "Value" }]
  | none => []

/-- The interfaces that a call tells of. -/
def interfaces (c : HookCall) : List Interface :=
  if c.name == "useState" then c.stateInterfaces
  else if c.name == "useReducer" then c.reducerInterfaces
  else if c.name == "useContext" then c.contextInterfaces
  else []

end HookCall

/-! ## The walk -/

def Kind.isDeclarator : Kind → Bool
  | .declarator _ => true
  | _ => false

/-- Adds an item behind a list, unless one with its key is there. -/
def addNew {α : Type} (key : α → String) (found : List α) (a : α) : List α :=
  if found.any fun b => key b == key a then found else found ++ [a]

/-- A walk through a program: what it has found, and in which declarators it stands. -/
structure HookScan where
  /-- The interfaces that hooks tell of; of one name the first. -/
  interfaces : List Interface := []
  /-- The hooks that are called, each once. -/
  used : List String := []
  /-- For every declarator around, the innermost first: the name that the first element of its pattern
  binds, if it is such a pattern. -/
  declarators : List (Option String) := []
deriving DecidableEq, Repr, Inhabited

namespace HookScan

/-- Takes note of a call. -/
def call (scan : HookScan) (c : HookCall) : HookScan :=
  if c.isHook then
    { scan with
      interfaces := c.interfaces.foldl (addNew Interface.name) scan.interfaces
      used := addNew id scan.used c.name }
  else scan

/-- Takes note of a node, if it is a call. -/
def meet (scan : HookScan) (n : Node) : HookScan :=
  match hookCall? scan.declarators.head? n with
  | some c => scan.call c
  | none => scan

/-- Goes into the parts of a node. -/
def enter (scan : HookScan) (n : Node) : HookScan :=
  if n.kind.isDeclarator then
    { scan with declarators := firstElementName? (n.child 0) :: scan.declarators }
  else scan

/-- Comes back from the parts of a node. -/
def leave (scan : HookScan) (n : Node) : HookScan :=
  if n.kind.isDeclarator then { scan with declarators := scan.declarators.tail } else scan

mutual

/-- Walks through a node, outer before inner. -/
def visit (scan : HookScan) : Node → HookScan
  | .mk k s cs => (visitList ((scan.meet (.mk k s cs)).enter (.mk k s cs)) cs).leave (.mk k s cs)

def visitList (scan : HookScan) : List Node → HookScan
  | [] => scan
  | c :: cs => visitList (scan.visit c) cs

end

end HookScan

/-- What the hooks of a program tell. -/
def Node.hookScan (program : Node) : HookScan := HookScan.visit {} program

/-- The hooks that a program calls, each once. -/
def Node.hooksUsed (program : Node) : List String := program.hookScan.used

/-- The interfaces that the hooks of a program tell of; of one name the first. -/
def Node.hookInterfaces (program : Node) : List Interface := program.hookScan.interfaces

end TypedJsx
