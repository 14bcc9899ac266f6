/-!
Operators of expressions, with the text each is written with. A compound assignment is named by the
binary or logical operator it applies, so `a += b` carries `compound add`.
-/
namespace TypedJsx

inductive UnaryOp where
  | plus | minus | not | bitNot | typeof | void | delete
deriving DecidableEq, Repr, Inhabited

inductive UpdateOp where
  | increment | decrement
deriving DecidableEq, Repr, Inhabited

inductive BinaryOp where
  | equal | notEqual | strictEqual | strictNotEqual
  | less | lessEqual | greater | greaterEqual
  | shiftLeft | shiftRight | shiftRightZero
  | add | subtract | multiply | divide | remainder | power
  | bitOr | bitXor | bitAnd
  | memberOf | instanceOf
deriving DecidableEq, Repr, Inhabited

inductive LogicalOp where
  | and | or | coalesce
deriving DecidableEq, Repr, Inhabited

inductive AssignOp where
  | assign
  | compound (op : BinaryOp)
  | logical (op : LogicalOp)
deriving DecidableEq, Repr, Inhabited

def UnaryOp.text : UnaryOp → String
  | .plus => "+"
  | .minus => "-"
  | .not => "!"
  | .bitNot => "~"
  | .typeof => "typeof"
  | .void => "void"
  | .delete => "delete"

/-- A unary operator that is a word needs a blank before a following name. -/
def UnaryOp.isWord : UnaryOp → Bool
  | .typeof | .void | .delete => true
  | _ => false

def UpdateOp.text : UpdateOp → String
  | .increment => "++"
  | .decrement => "--"

def BinaryOp.text : BinaryOp → String
  | .equal => "=="
  | .notEqual => "!="
  | .strictEqual => "==="
  | .strictNotEqual => "!=="
  | .less => "<"
  | .lessEqual => "<="
  | .greater => ">"
  | .greaterEqual => ">="
  | .shiftLeft => "<<"
  | .shiftRight => ">>"
  | .shiftRightZero => ">>>"
  | .add => "+"
  | .subtract => "-"
  | .multiply => "*"
  | .divide => "/"
  | .remainder => "%"
  | .power => "**"
  | .bitOr => "|"
  | .bitXor => "^"
  | .bitAnd => "&"
  | .memberOf => "in"
  | .instanceOf => "instanceof"

def LogicalOp.text : LogicalOp → String
  | .and => "&&"
  | .or => "||"
  | .coalesce => "??"

def AssignOp.text : AssignOp → String
  | .assign => "="
  | .compound op => op.text ++ "="
  | .logical op => op.text ++ "="

/-- How tightly an expression form binds, from the loosest to the tightest. -/
inductive Precedence where
  | lowest | comma | spread | yield | assign | conditional | coalesce
  | logicalOr | logicalAnd | bitOr | bitXor | bitAnd | equals | compare | shift
  | add | multiply | power | unary | postfixed | new | call | member
deriving DecidableEq, Repr, Inhabited

/-- The place of a precedence in the order. -/
def Precedence.rank (p : Precedence) : Nat := p.ctorIdx

def BinaryOp.precedence : BinaryOp → Precedence
  | .equal | .notEqual | .strictEqual | .strictNotEqual => .equals
  | .less | .lessEqual | .greater | .greaterEqual | .memberOf | .instanceOf => .compare
  | .shiftLeft | .shiftRight | .shiftRightZero => .shift
  | .add | .subtract => .add
  | .multiply | .divide | .remainder => .multiply
  | .power => .power
  | .bitOr => .bitOr
  | .bitXor => .bitXor
  | .bitAnd => .bitAnd

def LogicalOp.precedence : LogicalOp → Precedence
  | .and => .logicalAnd
  | .or => .logicalOr
  | .coalesce => .coalesce

/-- The next looser precedence; nothing is looser than `lowest`. -/
def Precedence.looser : Precedence → Precedence
  | .lowest | .comma => .lowest
  | .spread => .comma
  | .yield => .spread
  | .assign => .yield
  | .conditional => .assign
  | .coalesce => .conditional
  | .logicalOr => .coalesce
  | .logicalAnd => .logicalOr
  | .bitOr => .logicalAnd
  | .bitXor => .bitOr
  | .bitAnd => .bitXor
  | .equals => .bitAnd
  | .compare => .equals
  | .shift => .compare
  | .add => .shift
  | .multiply => .add
  | .power => .multiply
  | .unary => .power
  | .postfixed => .unary
  | .new => .postfixed
  | .call => .new
  | .member => .call

/-- `p` binds at least as tightly as `q`. -/
def Precedence.atLeast (p q : Precedence) : Bool := q.rank ≤ p.rank

end TypedJsx
