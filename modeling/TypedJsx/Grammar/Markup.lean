import TypedJsx.Grammar.Type
/-!
Markup: elements, fragments, attributes and the text between tags.
-/
namespace TypedJsx.Grammar

open Parse

/-- Takes a mark after which a child of an element is read. -/
def expectBeforeChild (p : Punctuator) : Parse Unit := do
  if ← isAt p then moveTo Reader.nextChild else expectedInstead p.text

/-- Takes the mark that ends a tag or expression; inside an element a child follows. -/
def expectClose (p : Punctuator) (nested : Bool) : Parse Unit :=
  if nested then expectBeforeChild p else expect p

/-! ## Names -/

/-- A name of markup, in which dashes may stand. -/
def markupName : Parse Node := do
  let s ← get
  let t := s.token
  if !t.isIdentifierName then unexpected
  let (tail, rest) := Reader.markupNameTail s.reader.rest
  let stop := t.stop + byteLength tail
  let written := String.ofList (takeBytes (stop - t.start) s.text)
  set { s with token := { t with stop := stop },
               reader := { s.reader with rest := rest, offset := stop } }
  advance
  return .mk (.jsxName written) ⟨t.start, stop⟩ []

/-- A name that starts with a lowercase letter or holds a dash is an element of the page; any other
refers to something in scope. -/
def isReferenceName (text : String) : Bool :=
  match text.toList with
  | c :: cs => !(('a' ≤ c && c ≤ 'z') || (c :: cs).contains '-')
  | [] => false

/-- A name as the object of a member: always something in scope. -/
def asReference : Node → Node
  | .mk (.jsxName "this") span _ => .mk .thisExpression span []
  | .mk (.jsxName text) span _ => .mk (.reference text) span []
  | n => n

/-- The name of an element without the blanks in it. -/
def nameText : Node → String
  | .mk (.jsxName text) _ _ => text
  | .mk (.reference text) _ _ => text
  | .mk .thisExpression _ _ => "this"
  | .mk .jsxMember _ [object, .mk (.jsxName text) _ _] => nameText object ++ "." ++ text
  | .mk .jsxNamespaced _ [.mk (.jsxName left) _ _, .mk (.jsxName right) _ _] => left ++ ":" ++ right
  | _ => ""

def elementName : Parse Node := do
  let start ← position
  let first ← markupName
  if ← eat .colon then
    let inner ← markupName
    return ← finish start .jsxNamespaced [first, inner]
  if ← isAt .dot then
    return ← repeatFrom (asReference first) fun left => do
      if ← eat .dot then
        let name ← markupName
        if nameText name |>.contains '-' then fail .markupHyphen name.span.start
        return some (← finish start .jsxMember [left, name])
      else return none
  match first with
  | .mk (.jsxName "this") _ _ => return asReference first
  | .mk (.jsxName text) _ _ => return if isReferenceName text then asReference first else first
  | n => return n

/-! ## Expressions in braces -/

/-- The expression of a container whose brace is read. It has no commas outside parentheses. -/
def containerRest (rules : Rules) (start : Nat) (nested : Bool) : Parse Node := do
  if ← isAt .closeBrace then
    let close ← position
    expectClose .closeBrace nested
    finish start .jsxContainer [.mk .jsxEmpty ⟨start + 1, close⟩ []]
  else
    let e ← enclosed (rules .expression)
    if e.kind == .sequence then fail .markupComma e.span.start
    expectClose .closeBrace nested
    finish start .jsxContainer [e]

/-! ## Attributes -/

def attributeValue (rules : Rules) : Parse Node := do
  let t ← token
  match t.kind with
  | .string =>
    let raw := String.ofList ((takeBytes (t.stop - t.start) (← get).text).drop 1).dropLast
    advance
    return .mk (.jsxString raw) t.span []
  | .punctuator .openBrace =>
    advance
    let container ← containerRest rules t.start false
    match container with
    | .mk _ _ [.mk .jsxEmpty _ _] => record .emptyAttribute t.start
    | _ => pure ()
    return container
  | .punctuator .less =>
    advance
    rules (.markup t.start false)
  | _ => unexpected

def markupAttribute (rules : Rules) : Parse Node := do
  let start ← position
  if ← eat .openBrace then
    expect .ellipsis
    let e ← enclosed (rules .expression)
    expect .closeBrace
    return ← finish start .jsxSpreadAttribute [e]
  let first ← markupName
  let name ←
    if ← eat .colon then do
      let inner ← markupName
      finish start .jsxNamespaced [first, inner]
    else pure first
  let value ←
    if ← isAt .assign then do
      moveTo Reader.nextAttributeValue
      attributeValue rules
    else pure Node.absent
  finish start .jsxAttribute [name, value]

/-! ## Elements -/

/-- The `<` of a child is the start of a longer operator. -/
def isLongAngle : Parse Bool := do
  match (← get).text with
  | _ :: c :: _ => return c == '<' || c == '='
  | _ => return false

/-- The child that begins at the current token; none before a closing tag. -/
def child? (rules : Rules) : Parse (Option Node) := do
  let t ← token
  match t.kind with
  | .punctuator .less =>
    if ← nextToken fun t => t.isPunctuator .slash then return none
    if ← isLongAngle then unexpected
    advance
    return some (← rules (.markup t.start true))
  | .punctuator .openBrace =>
    advance
    if ← eat .ellipsis then
      let e ← enclosed (rules .expression)
      expectBeforeChild .closeBrace
      return some (← finish t.start .jsxSpreadChild [e])
    return some (← containerRest rules t.start true)
  | .jsxText =>
    moveTo Reader.nextChild
    return some (.mk (.jsxText t.value) t.span [])
  | _ => unexpected

/-- The children of an element up to its closing tag, which begins at the current token. -/
def children (rules : Rules) : Parse Node := do
  let start ← position
  let found ← many (child? rules)
  finish start .jsxChildren found

/-- An element or fragment after its first `<`. -/
def markup (rules : Rules) (start : Nat) (nested : Bool) : Parse Node := enclosed do
  if ← isAt .greater then
    expectBeforeChild .greater
    let inner ← children rules
    expect .less
    expect .slash
    expectClose .greater nested
    return ← finish start .jsxFragment [inner]
  let text := (← get).text
  let name ← elementName
  let types ← typeArguments? rules
  let attributes ← many do
    let t ← token
    if t.isPunctuator .less || t.isPunctuator .greater || t.isPunctuator .slash then return none
    return some (← markupAttribute rules)
  let isSelfClosing ← eat .slash
  if isSelfClosing then
    expectClose .greater nested
    let opening ← finish start (.jsxOpening true) (name :: types :: attributes)
    return ← finish start .jsxElement [opening, .mk .jsxChildren Span.none [], .absent]
  expectBeforeChild .greater
  let opening ← finish start (.jsxOpening false) (name :: types :: attributes)
  let inner ← children rules
  let here ← position
  expect .less
  expect .slash
  let closeName ← elementName
  expectClose .greater nested
  let closing ← finish here .jsxClosing [closeName]
  if nameText name != nameText closeName then
    let written := takeBytes (name.span.stop - name.span.start) text
    record (.closingTag (String.ofList written)) closeName.span.start
  finish start .jsxElement [opening, inner, closing]

end TypedJsx.Grammar
