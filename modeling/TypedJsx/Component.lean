import TypedJsx.Tree.Node
/-!
Components: the named functions and classes of a program that render markup.

A function is a component if markup stands in its own body, outside every function nested in it. If
markup stands only in nested functions, it may be a component or merely make one: it is ambiguous. A
class is a component by the class it extends.
-/
namespace TypedJsx

/-- Keeps the first of all items with the same key. -/
def firstPerKey {α : Type} (key : α → String) : List α → List α
  | [] => []
  | a :: as => a :: (firstPerKey key as).filter fun b => key b != key a

/-! ## Markup in a tree -/

/-- An element or a fragment. -/
def Kind.isMarkup : Kind → Bool
  | .jsxElement | .jsxFragment => true
  | _ => false

/-- A function of any form; methods hold one. -/
def Kind.isFunction : Kind → Bool
  | .function _ | .arrow _ => true
  | _ => false

/-- A walk through a body: in how many functions it stands, and where it has met markup. -/
structure MarkupScan where
  depth : Nat := 0
  /-- Markup stands outside every function that the walk went into. -/
  own : Bool := false
  /-- Markup stands in a function that the walk went into. -/
  nested : Bool := false
deriving DecidableEq, Repr, Inhabited

namespace MarkupScan

/-- Notes markup where the walk stands. -/
def hit (scan : MarkupScan) : MarkupScan :=
  if scan.depth == 0 then { scan with own := true } else { scan with nested := true }

def enter (scan : MarkupScan) : MarkupScan := { scan with depth := scan.depth + 1 }

def leave (scan : MarkupScan) : MarkupScan := { scan with depth := scan.depth - 1 }

mutual

/-- Walks through a node, outer before inner. -/
def visit (scan : MarkupScan) : Node → MarkupScan
  | .mk k _ cs =>
    if k.isFunction then (visitList scan.enter cs).leave
    else if k.isMarkup then visitList scan.hit cs
    else visitList scan cs

def visitList (scan : MarkupScan) : List Node → MarkupScan
  | [] => scan
  | c :: cs => visitList (scan.visit c) cs

end

end MarkupScan

/-! ## Components -/

inductive ComponentForm where
  | functionDeclaration | functionExpression | arrow | classForm
deriving DecidableEq, Repr, Inhabited

inductive Detection where
  | component | ambiguous | notComponent
deriving DecidableEq, Repr, Inhabited

structure Component where
  name : String
  form : ComponentForm
  detection : Detection
  /-- The span of the function, arrow or class. -/
  span : Span
deriving DecidableEq, Repr, Inhabited

/-- What the body of a function says of it. -/
def Detection.ofBody (body : Node) : Detection :=
  let scan := MarkupScan.visit {} body
  match scan.own, scan.nested with
  | true, _ => .component
  | false, true => .ambiguous
  | false, false => .notComponent

def componentBases : List String := ["Component", "PureComponent"]

/-- Whether a class that extends the expression is a component. -/
def isComponentBase (e : Node) : Bool :=
  match e.withoutParentheses with
  | .mk (.reference name) _ _ => componentBases.contains name
  | .mk (.member _) _ [.mk (.reference space) _ _, .mk (.name name) _ _] =>
    space == "React" && componentBases.contains name
  | _ => false

/-- A named function with a body, or a named class. -/
structure Candidate where
  name : String
  form : ComponentForm
  /-- The span of the function, arrow or class. -/
  span : Span
  /-- What tells whether it is a component: the body of a function, the base of a class. -/
  evidence : Node

/-- What a candidate is found to be. -/
def Candidate.detection (c : Candidate) : Detection :=
  match c.form with
  | .classForm => if isComponentBase c.evidence then .component else .notComponent
  | _ => .ofBody c.evidence

/-- The record of a candidate. -/
def Candidate.component (c : Candidate) : Component := ⟨c.name, c.form, c.detection, c.span⟩

/-- A function under a name, if it has a body. -/
def candidateFunction (name : String) (form : ComponentForm) (span : Span) (body : Node) :
    Option Candidate :=
  if body.isAbsent then none else some ⟨name, form, span, body⟩

/-- The named function or class that a node is or declares. -/
def Node.candidate? : Node → Option Candidate
  | .mk (.function form) span [.mk (.binding name) _ _, _, _, _, _, body] =>
    if form.isExpression || form.isDeclare then none
    else candidateFunction name .functionDeclaration span body
  | .mk (.classNode form) span (_ :: .mk (.binding name) _ _ :: _ :: base :: _) =>
    if form.isExpression then none else some ⟨name, .classForm, span, base⟩
  | .mk (.declarator _) _ [.mk (.binding name) _ _, _, value] =>
    match value with
    | .mk (.arrow _) span [_, _, _, body] => candidateFunction name .arrow span body
    | .mk (.function form) span [_, _, _, _, _, body] =>
      if form.isExpression then candidateFunction name .functionExpression span body else none
    | .mk (.classNode form) span (_ :: _ :: _ :: base :: _) =>
      if form.isExpression then some ⟨name, .classForm, span, base⟩ else none
    | _ => none
  | _ => none

/-- A walk through a program: the components that it has found, and their names. -/
structure Collector where
  found : List Component := []
  seen : List String := []

namespace Collector

/-- Records a candidate that is a component, unless its name has been seen. -/
def record (collector : Collector) (c : Candidate) : Collector :=
  if collector.seen.contains c.name || c.detection == .notComponent then collector
  else { found := collector.found ++ [c.component], seen := c.name :: collector.seen }

/-- Records what a node is or declares. -/
def meet (collector : Collector) (n : Node) : Collector :=
  match n.candidate? with
  | some c => collector.record c
  | none => collector

mutual

/-- Walks through a node, outer before inner. -/
def visit (collector : Collector) : Node → Collector
  | .mk k s cs => visitList (collector.meet (.mk k s cs)) cs

def visitList (collector : Collector) : List Node → Collector
  | [] => collector
  | c :: cs => visitList (collector.visit c) cs

end

end Collector

/-- The components of a program, ambiguous ones included; of one name the first. -/
def Node.components (program : Node) : List Component := (Collector.visit {} program).found

end TypedJsx
