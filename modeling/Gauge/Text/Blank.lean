import Gauge.Text.Span

/-! # Blanks

The `White_Space` property of Unicode, and texts without the blanks at their ends.
-/
namespace Gauge.Text

def blankSpans : List (Nat × Nat) := [
  (0x9, 0xD), (0x20, 0x20), (0x85, 0x85), (0xA0, 0xA0), (0x1680, 0x1680), (0x2000, 0x200A),
  (0x2028, 0x2029), (0x202F, 0x202F), (0x205F, 0x205F), (0x3000, 0x3000)]

def isBlank (c : Char) : Bool := covers c.toNat blankSpans

def stripChars (drop : Char → Bool) (cs : List Char) : List Char :=
  ((cs.dropWhile drop).reverse.dropWhile drop).reverse

def trim (s : String) : String := String.ofList (stripChars isBlank s.toList)

def isAllBlank (s : String) : Bool := s.toList.all isBlank

end Gauge.Text
