import Gauge.Decimal.Shortest
import Gauge.Operator

/-! # Tokens

A token is a unit of a formula's text and also an instruction of a compiled formula. There an opening
parenthesis marks where the arguments of a call begin, and a call comes after its arguments.
-/
namespace Gauge

/-- Units of text and instructions; only the assembler makes calls. -/
inductive Token where
  | number (value : Float)
  | identifier (name : String)
  | call (name : String)
  | operator (op : Operator)
  | openParen
  | closeParen
  | comma
  deriving DecidableEq

structure Located where
  token : Token
  offset : Nat
  deriving DecidableEq

namespace Token

/-- A sign after such a token is a binary operator. -/
def endsOperand : Token → Bool
  | .number _ | .identifier _ | .closeParen => true
  | _ => false

def display : Token → String
  | .number v => Decimal.text v
  | .identifier name => name
  | .call name => name ++ "()"
  | .operator op => op.display
  | .openParen => "("
  | .closeParen => ")"
  | .comma => ","

/-- Equality with numbers compared as signals: a missing one differs from itself, the two zeros
agree. -/
def agrees : Token → Token → Bool
  | .number v, .number w => v == w
  | a, b => a = b

def punctuation? (symbol : String) : Option Token :=
  if symbol = "(" then some .openParen
  else if symbol = ")" then some .closeParen
  else if symbol = "," then some .comma
  else none

/-- The punctuation or operator with a symbol, where `leading` tells how to read a sign. -/
def ofSymbol? (symbol : String) (leading : Bool) : Option Token :=
  (punctuation? symbol).or ((Operator.ofSymbol? symbol leading).map .operator)

end Token
end Gauge
