/-! # Syntax errors

What can be wrong with the text of a formula, where, and how it is said.
-/
namespace Gauge

inductive SyntaxError where
  | empty
  | strayCharacter (character : Char) (offset : Nat)
  | unknownOperator (symbol : String) (offset : Nat)
  | malformedNumber (text : String) (offset : Nat)
  | unbalancedParen (offset : Nat)
  | chooseAlone (offset : Nat)
  | otherwiseAlone (offset : Nat)
  | misplaced (token : String) (offset : Nat)
  | incomplete
  deriving DecidableEq, Repr

namespace SyntaxError

def offset? : SyntaxError → Option Nat
  | .empty | .incomplete => none
  | .strayCharacter _ offset | .unknownOperator _ offset | .malformedNumber _ offset
  | .unbalancedParen offset | .chooseAlone offset | .otherwiseAlone offset
  | .misplaced _ offset => some offset

def message : SyntaxError → String
  | .empty => "Empty expression"
  | .strayCharacter character offset => s!"Unexpected character '{character}' at {offset}"
  | .unknownOperator symbol offset => s!"Unknown operator '{symbol}' at {offset}"
  | .malformedNumber text offset => s!"Malformed number '{text}' at {offset}"
  | .unbalancedParen offset => s!"Mismatched parenthesis at {offset}"
  | .chooseAlone offset => s!"Ternary '?' without matching ':' at {offset}"
  | .otherwiseAlone offset => s!"Ternary ':' without matching '?' at {offset}"
  | .misplaced token offset => s!"Unexpected '{token}' at {offset}"
  | .incomplete => "Unexpected end of expression"

end SyntaxError
end Gauge
