/-! # Operators

The operators of the formula language, how they are written and how tightly they bind. A lower rank
binds tighter. The two halves of the conditional `c ? a : b` are operators of their own.
-/
namespace Gauge

inductive UnaryOp where
  | plus
  | minus
  | not
  | complement
  deriving DecidableEq, Repr

inductive BinaryOp where
  | add
  | subtract
  | multiply
  | divide
  | modulo
  | and
  | or
  | bitAnd
  | bitOr
  | bitXor
  | shiftLeft
  | shiftRight
  | greater
  | greaterEqual
  | less
  | lessEqual
  | equal
  | notEqual
  deriving DecidableEq, Repr

/-- An operator; `choose` is the `?` of a conditional and `otherwise` its `:`. -/
inductive Operator where
  | unary (op : UnaryOp)
  | binary (op : BinaryOp)
  | choose
  | otherwise
  deriving DecidableEq, Repr

inductive Side where
  | left
  | right
  deriving DecidableEq, Repr

def UnaryOp.all : List UnaryOp := [.plus, .minus, .not, .complement]

def BinaryOp.all : List BinaryOp :=
  [.add, .subtract, .multiply, .divide, .modulo, .and, .or, .bitAnd, .bitOr, .bitXor, .shiftLeft,
    .shiftRight, .greater, .greaterEqual, .less, .lessEqual, .equal, .notEqual]

theorem UnaryOp.mem_all (op : UnaryOp) : op ∈ UnaryOp.all := by cases op <;> decide

theorem BinaryOp.mem_all (op : BinaryOp) : op ∈ BinaryOp.all := by cases op <;> decide

def UnaryOp.symbol : UnaryOp → String
  | .plus => "+"
  | .minus => "-"
  | .not => "!"
  | .complement => "~"

def BinaryOp.symbol : BinaryOp → String
  | .add => "+"
  | .subtract => "-"
  | .multiply => "*"
  | .divide => "/"
  | .modulo => "%"
  | .and => "&&"
  | .or => "||"
  | .bitAnd => "&"
  | .bitOr => "|"
  | .bitXor => "^"
  | .shiftLeft => "<<"
  | .shiftRight => ">>"
  | .greater => ">"
  | .greaterEqual => ">="
  | .less => "<"
  | .lessEqual => "<="
  | .equal => "=="
  | .notEqual => "!="

def BinaryOp.rank : BinaryOp → Nat
  | .multiply | .divide | .modulo => 2
  | .add | .subtract => 3
  | .shiftLeft | .shiftRight => 4
  | .greater | .greaterEqual | .less | .lessEqual => 5
  | .equal | .notEqual => 6
  | .bitAnd => 7
  | .bitXor => 8
  | .bitOr => 9
  | .and => 10
  | .or => 11

namespace Operator

def symbol : Operator → String
  | .unary op => op.symbol
  | .binary op => op.symbol
  | .choose => "?"
  | .otherwise => ":"

def rank : Operator → Nat
  | .unary _ => 1
  | .binary op => op.rank
  | .choose | .otherwise => 12

/-- Binary operators group to the left, all others to the right. -/
def side : Operator → Side
  | .binary _ => .left
  | _ => .right

def arity : Operator → Nat
  | .unary _ => 1
  | .binary _ => 2
  | .choose => 2
  | .otherwise => 1

def display : Operator → String
  | .unary .plus => "u+"
  | .unary .minus => "u-"
  | op => op.symbol

def all : List Operator :=
  UnaryOp.all.map .unary ++ BinaryOp.all.map .binary ++ [.choose, .otherwise]

/-- The operator with a symbol. A sign is a unary operator when it is `leading`, and else binary. -/
def ofSymbol? (symbol : String) (leading : Bool) : Option Operator :=
  if symbol = "+" && leading then some (.unary .plus)
  else if symbol = "-" && leading then some (.unary .minus)
  else if symbol = "!" then some (.unary .not)
  else if symbol = "~" then some (.unary .complement)
  else if symbol = "?" then some .choose
  else if symbol = ":" then some .otherwise
  else (BinaryOp.all.find? fun op => op.symbol == symbol).map .binary

/-- An operator on the stack gives way to one that follows it: it binds tighter, or as tightly and
to the left. -/
def yieldsTo (waiting next : Operator) : Bool :=
  waiting.rank < next.rank || (waiting.rank == next.rank && waiting.side == .left)

end Operator
end Gauge
