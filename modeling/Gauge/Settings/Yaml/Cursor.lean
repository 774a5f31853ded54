import Gauge.Text.Lexical

/-! # Places in a YAML text

What is left of a text with the line and the column of its front, and the characters that YAML takes for
blanks and line breaks.
-/
namespace Gauge.Yaml

open Lexical (isSpace)

/-- The rest of a text and the place where it begins: how many characters lie before it, its line, and
its column. -/
structure Cursor where
  rest : List Char
  index : Nat := 0
  line : Nat := 0
  column : Nat := 0

def isBreak (c : Char) : Bool :=
  c = '\n' || c = '\r' || c.toNat = 0x85 || c.toNat = 0x2028 || c.toNat = 0x2029

def endsLine : Option Char → Bool
  | none => true
  | some c => isBreak c

def endsWord : Option Char → Bool
  | none => true
  | some c => isSpace c || isBreak c

def isNameCharacter (c : Char) : Bool := c.isAlphanum || c = '_' || c = '-'

def isAllowed (c : Char) : Bool :=
  c = '\t' || c = '\n' || c = '\r' || (0x20 ≤ c.toNat && c.toNat ≤ 0x7E) || c.toNat = 0x85 ||
    (0xA0 ≤ c.toNat && c.toNat ≤ 0xFFFD) || 0x10000 ≤ c.toNat

namespace Cursor

def head? (c : Cursor) : Option Char := c.rest.head?

def peek? (c : Cursor) (n : Nat) : Option Char := c.rest[n]?

def starts (c : Cursor) (ch : Char) : Bool := c.head? = some ch

def skip (c : Cursor) (n : Nat) : Cursor :=
  { c with rest := c.rest.drop n, index := c.index + n, column := c.column + n }

def skipWhile (c : Cursor) (p : Char → Bool) : Cursor := c.skip (c.rest.takeWhile p).length

def span (c : Cursor) (p : Char → Bool) : List Char × Cursor := (c.rest.takeWhile p, c.skipWhile p)

/-- The line break at the front as it counts in a scalar, and the place after it. A carriage return and a
line feed are one break. Only the separators of lines and paragraphs stand for themselves. -/
def break? (c : Cursor) : Option (Char × Cursor) :=
  let next (n : Nat) : Cursor :=
    ⟨c.rest.drop n, c.index + n, c.line + 1, 0⟩
  match c.rest with
  | '\r' :: '\n' :: _ => some ('\n', next 2)
  | ch :: _ =>
    if ch.toNat = 0x2028 || ch.toNat = 0x2029 then some (ch, next 1)
    else if isBreak ch then some ('\n', next 1)
    else none
  | [] => none

def skipBreak (c : Cursor) : Cursor :=
  match c.break? with
  | some (_, next) => next
  | none => c

def skipComment (c : Cursor) : Cursor :=
  let c := c.skipWhile isSpace
  if c.starts '#' then c.skipWhile fun ch => !isBreak ch else c

/-- Three times this character stands at the front of a line, and nothing more directly after. -/
def marks (c : Cursor) (ch : Char) : Bool :=
  c.column = 0 && [ch, ch, ch].isPrefixOf c.rest && endsWord (c.peek? 3)

def atDocumentMark (c : Cursor) : Bool := c.marks '-' || c.marks '.'

end Cursor
end Gauge.Yaml
