import TypedJsx.Tree.Node
/-!
Signatures of components. A plan names a component by its span and says which interface its props
have. A function or arrow gets a typed first parameter and a return type, a class the interface as
the type argument of its base.

How the first parameter is treated depends on what it is. Without one, `props` is added. A parameter
with a type is left alone. If the component's props were declared, a plain name becomes `props`, and a
pattern moves into the body, where it is bound from `props`; if not, a plain name gets the type and a
pattern is left alone. A rest parameter cannot carry the interface.
-/
namespace TypedJsx

/-- What to do with one component. -/
structure Plan where
  component : String
  /-- The name of the interface of its props. -/
  interfaceName : String
  /-- Whether the program declared its props. -/
  isDeclared : Bool
  span : Span
deriving DecidableEq, Repr, Inhabited

/-- The plan for a span; of several the last. -/
def planFor? (plans : List Plan) (span : Span) : Option Plan :=
  plans.reverse.find? fun p => p.span == span

/-! ## New parts of the tree -/

/-- A node that no source text stands for. -/
def Node.fresh (kind : Kind) (children : List Node) : Node := .mk kind Span.none children

def propsName : String := "props"

/-- The type that is a reference to an interface. -/
def Plan.interfaceType (p : Plan) : Node :=
  .fresh .typeReference [.fresh (.reference p.interfaceName) [], .absent]

/-- The parameter `props` with its interface. -/
def Plan.propsParameter (p : Plan) : Node :=
  .fresh (.parameter {})
    [.fresh .decorators [], .fresh (.binding propsName) [], p.interfaceType, .absent]

/-- The type of markup. -/
def elementType : Node :=
  .fresh .typeReference
    [.fresh .qualifiedName [.fresh (.reference "JSX") [], .fresh (.name "Element") []], .absent]

/-- The statement that binds a pattern from `props`. -/
def propsBinding (pattern : Node) : Node :=
  .fresh (.variableDeclaration .constWord false)
    [.fresh (.declarator false) [pattern, .absent, .fresh (.reference propsName) []]]

/-! ## The first parameter -/

/-- What is done to the parameters of a component. -/
inductive ParameterChange where
  | add | keep | replace | setType | moveToBody
  | unsupported (reason : String)
deriving DecidableEq, Repr, Inhabited

def restReason : String := "a rest parameter cannot carry the props interface"

def shapeReason : String := "arrow body has an unexpected shape"

/-- What is done to a list of parameters. -/
def ParameterChange.of (isDeclared : Bool) (params : List Node) : ParameterChange :=
  match params with
  | [] => .add
  | .mk (.parameter _) _ [_, pattern, type, _] :: _ =>
    if type.isPresent then .keep
    else match pattern.kind with
      | .objectPattern | .arrayPattern => if isDeclared then .moveToBody else .keep
      | .binding _ => if isDeclared then .replace else .setType
      | .defaultPattern => .unsupported "unexpected parameter pattern"
      | _ => .keep
  | _ :: _ => .unsupported restReason

/-- The pattern of a parameter. -/
def Node.parameterPattern : Node → Node
  | .mk (.parameter _) _ [_, pattern, _, _] => pattern
  | n => n

/-- A parameter with a type. -/
def Node.withParameterType : Node → Node → Node
  | .mk (.parameter m) s [ds, pattern, _, value], type =>
    .mk (.parameter m) s [ds, pattern, type, value]
  | n, _ => n

/-- The parameters after a change. -/
def Plan.parameters (p : Plan) (change : ParameterChange) (params : List Node) : List Node :=
  match change, params with
  | .add, params => params ++ [p.propsParameter]
  | .replace, _ :: rest | .moveToBody, _ :: rest => p.propsParameter :: rest
  | .setType, first :: rest => first.withParameterType p.interfaceType :: rest
  | _, params => params

/-! ## Bodies -/

/-- Puts a statement in front of others, behind directives. -/
def prependStatement (statement : Node) (parts : List Node) : List Node :=
  parts.takeWhile Node.isDirective ++ statement :: parts.dropWhile Node.isDirective

/-- The value of the first statement, behind directives, if it is an expression. -/
def firstValue? : List Node → Option Node
  | .mk (.directive _) _ _ :: rest => firstValue? rest
  | .mk .expressionStatement _ [e] :: _ => some e
  | _ => none

/-- The body with a pattern bound in front of it; none if there is no value to return. A body that is
one expression becomes a list of statements. -/
def Node.bindInBody? (body pattern : Node) (isExpression : Bool) : Option Node :=
  match body with
  | .mk .functionBody s parts =>
    if isExpression then
      (firstValue? parts).map fun e =>
        .mk .functionBody s [propsBinding pattern, .fresh .returnStatement [e]]
    else some (.mk .functionBody s (prependStatement (propsBinding pattern) parts))
  | _ => none

/-! ## Components -/

/-- The parts of a function or arrow that a plan changes. -/
structure SignatureParts where
  params : List Node
  result : Node
  body : Node
  isExpression : Bool
deriving Inhabited

/-- Carries out a plan; with a reason when it fails. A failure leaves the return type alone, and an
unexpected body also all but the parameters. -/
def Plan.apply (p : Plan) (parts : SignatureParts) : SignatureParts × Option String :=
  let change := ParameterChange.of p.isDeclared parts.params
  let params := p.parameters change parts.params
  let result := if parts.result.isPresent then parts.result else elementType
  match change with
  | .unsupported reason => (parts, some reason)
  | .moveToBody =>
    let pattern := (parts.params.headD .absent).parameterPattern
    match parts.body.bindInBody? pattern parts.isExpression with
    | some body => ({ params := params, result := result, body := body, isExpression := false }, none)
    | none => ({ parts with params := params }, some shapeReason)
  | _ => ({ parts with params := params, result := result }, none)

/-- Carries out a plan on the node it is for. A function without a body is left alone. -/
def Plan.applyTo (p : Plan) : Node → Node × Option String
  | .mk (.function form) s [name, types, this, .mk .parameters ps params, result, body] =>
    if body.isAbsent then
      (.mk (.function form) s [name, types, this, .mk .parameters ps params, result, body], none)
    else
      let (parts, reason) := p.apply ⟨params, result, body, false⟩
      (.mk (.function form) s
        [name, types, this, .mk .parameters ps parts.params, parts.result, parts.body], reason)
  | .mk (.arrow form) s [types, .mk .parameters ps params, result, body] =>
    let (parts, reason) := p.apply ⟨params, result, body, form.isExpression⟩
    (.mk (.arrow { form with isExpression := parts.isExpression }) s
      [types, .mk .parameters ps parts.params, parts.result, parts.body], reason)
  | .mk (.classNode form) s [ds, name, types, base, baseTypes, implemented, body] =>
    let baseTypes := if baseTypes.isPresent then baseTypes else .fresh .typeArguments [p.interfaceType]
    (.mk (.classNode form) s [ds, name, types, base, baseTypes, implemented, body], none)
  | n => (n, none)

/-- Nodes that a plan can be for. -/
def Kind.isPlannable : Kind → Bool
  | .function _ | .arrow _ | .classNode _ => true
  | _ => false

/-- The plan for a node. -/
def Node.plan? (plans : List Plan) (n : Node) : Option Plan :=
  if n.kind.isPlannable then planFor? plans n.span else none

/-- Carries out the plan for a node, if there is one. -/
def Node.annotateHere (plans : List Plan) (n : Node) : Node :=
  match n.plan? plans with
  | some p => (p.applyTo n).1
  | none => n

mutual

/-- The tree with all plans carried out, inner components first. -/
def Node.annotate (plans : List Plan) : Node → Node
  | .mk k s cs => (Node.mk k s (annotateList plans cs)).annotateHere plans

def annotateList (plans : List Plan) : List Node → List Node
  | [] => []
  | c :: cs => c.annotate plans :: annotateList plans cs

end

/-! ## Outcomes -/

/-- What became of a plan: carried out, or failed for a reason. -/
structure Outcome where
  plan : Plan
  failure : Option String
deriving DecidableEq, Repr, Inhabited

/-- The outcome of the plan for a node, if there is one. -/
def Node.ownOutcome (plans : List Plan) (n : Node) : List Outcome :=
  ((n.plan? plans).map fun p => ⟨p, (p.applyTo n).2⟩).toList

/-- What a change leaves of the first parameter. -/
inductive Remainder where
  | whole | onlyPattern | nothing
deriving DecidableEq, Repr, Inhabited

/-- What carrying out a plan leaves of the first parameter. -/
def Plan.remainder (p : Plan) (isExpression : Bool) (params : List Node) (body : Node) : Remainder :=
  match ParameterChange.of p.isDeclared params with
  | .replace => .nothing
  | .moveToBody => if (body.bindInBody? .absent isExpression).isSome then .onlyPattern else .nothing
  | _ => .whole

/-- What the plan for a function or arrow, if there is one, leaves of the first parameter. -/
def remainderUnder (plan : Option Plan) (isExpression : Bool) (params : List Node) (body : Node) :
    Remainder :=
  match plan with
  | some p => p.remainder isExpression params body
  | none => .whole

mutual

/-- The outcomes of all plans for nodes of a tree, outer components first. A component that stands in
a part that was dropped has none; one that stands in a pattern that moves has its own in the body. -/
def Node.outcomes (plans : List Plan) : Node → List Outcome
  | .mk (.function form) s [name, types, this, .mk .parameters ps params, result, .mk k b parts] =>
    let body := Node.mk k b parts
    let n := Node.mk (.function form) s [name, types, this, .mk .parameters ps params, result, body]
    let remainder :=
      if body.isAbsent then .whole else remainderUnder (n.plan? plans) false params body
    n.ownOutcome plans ++ name.outcomes plans ++ types.outcomes plans ++ this.outcomes plans
      ++ outcomesOfParameters plans remainder params ++ result.outcomes plans
      ++ if remainder == .onlyPattern then
          outcomesOfStatements plans (outcomesOfPattern plans params) parts
        else Node.outcomes plans (.mk k b parts)
  | .mk (.arrow form) s [types, .mk .parameters ps params, result, .mk k b parts] =>
    let n := Node.mk (.arrow form) s [types, .mk .parameters ps params, result, .mk k b parts]
    let remainder := remainderUnder (n.plan? plans) form.isExpression params (.mk k b parts)
    n.ownOutcome plans ++ types.outcomes plans ++ outcomesOfParameters plans remainder params
      ++ result.outcomes plans
      ++ if remainder == .onlyPattern then
          if form.isExpression then outcomesOfPattern plans params ++ outcomesOfValue plans parts
          else outcomesOfStatements plans (outcomesOfPattern plans params) parts
        else Node.outcomes plans (.mk k b parts)
  | .mk k s cs => (Node.mk k s cs).ownOutcome plans ++ outcomesOfList plans cs

/-- The outcomes in what stays of the parameters. -/
def outcomesOfParameters (plans : List Plan) (remainder : Remainder) : List Node → List Outcome
  | [] => []
  | .mk k s [ds, pattern, type, value] :: rest =>
    match remainder with
    | .whole => Node.outcomes plans (.mk k s [ds, pattern, type, value]) ++ outcomesOfList plans rest
    | .onlyPattern | .nothing => outcomesOfList plans rest
  | first :: rest => first.outcomes plans ++ outcomesOfList plans rest

/-- The outcomes in the pattern of the first parameter. -/
def outcomesOfPattern (plans : List Plan) : List Node → List Outcome
  | .mk _ _ [_, pattern, _, _] :: _ => pattern.outcomes plans
  | _ => []

/-- The outcomes in a body of which only the value is left. -/
def outcomesOfValue (plans : List Plan) : List Node → List Outcome
  | .mk (.directive _) _ _ :: rest => outcomesOfValue plans rest
  | .mk .expressionStatement _ [e] :: _ => e.outcomes plans
  | _ => []

/-- The outcomes in statements, behind those in a pattern that is bound in front of them. -/
def outcomesOfStatements (plans : List Plan) (moved : List Outcome) : List Node → List Outcome
  | [] => moved
  | .mk (.directive raw) s cs :: rest =>
    Node.outcomes plans (.mk (.directive raw) s cs) ++ outcomesOfStatements plans moved rest
  | part :: rest => moved ++ part.outcomes plans ++ outcomesOfList plans rest

def outcomesOfList (plans : List Plan) : List Node → List Outcome
  | [] => []
  | c :: cs => c.outcomes plans ++ outcomesOfList plans cs

end

end TypedJsx
