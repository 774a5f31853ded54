import Gauge.Token

/-! # Formulas

A compiled formula is a list of instructions in postfix order, with the text that it was made from.
-/
namespace Gauge

structure Formula where
  instructions : List Token
  source : String

namespace Formula

def ofInstructions (instructions : List Token) : Formula := ⟨instructions, ""⟩

def variableRead? : Token → Option String
  | .identifier name => some name
  | _ => none

def functionCalled? : Token → Option String
  | .call name => some name
  | _ => none

/-- The list without repetitions: each element stays where it comes first. -/
def firstUses (names : List String) : List String :=
  names.foldl (fun seen name => if name ∈ seen then seen else seen ++ [name]) []

def variableNames (f : Formula) : List String := firstUses (f.instructions.filterMap variableRead?)

def functionNames (f : Formula) : List String := firstUses (f.instructions.filterMap functionCalled?)

def listing (f : Formula) : String := String.intercalate " " (f.instructions.map Token.display)

/-- The same text and the same instructions, numbers compared as signals. -/
def agrees (f g : Formula) : Bool :=
  f.source == g.source && f.instructions.length == g.instructions.length &&
    (f.instructions.zip g.instructions).all fun p => p.1.agrees p.2

end Formula
end Gauge
