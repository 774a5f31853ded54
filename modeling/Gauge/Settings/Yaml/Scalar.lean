import Gauge.Decimal.Reader
import Gauge.Settings.Yaml.Cursor

/-! # Scalars of YAML texts

The three ways to write a text: plain, between quotes, and as a block of lines. Within a plain or quoted
scalar a line break is a blank, and each further one is a line break.
-/
namespace Gauge.Yaml

open Lexical (isSpace)

/-- What has been met since the last character of a scalar that is not blank: blanks before the first
line break, that break, and the ones after it, each nearest last. -/
structure Gap where
  blanks : List Char := []
  first : Option Char := none
  more : List Char := []
  broken : Bool := false

namespace Gap

def text (g : Gap) : List Char :=
  if g.broken then
    match g.first with
    | some '\n' => if g.more.isEmpty then [' '] else g.more
    | some c => c :: g.more
    | none => g.more
  else g.blanks

def extend (indent : Nat) : (fuel : Nat) → Gap → Cursor → Option (Gap × Cursor)
  | 0, g, c => some (g, c)
  | fuel + 1, g, c =>
    match c.head?, c.break? with
    | _, some (b, next) =>
      if g.broken then extend indent fuel { g with more := g.more ++ [b] } next
      else extend indent fuel { first := some b, broken := true } next
    | some ch, none =>
      if isSpace ch then
        if g.broken then
          if ch = '\t' && c.column < indent then none else extend indent fuel g (c.skip 1)
        else extend indent fuel { g with blanks := g.blanks ++ [ch] } (c.skip 1)
      else some (g, c)
    | none, none => some (g, c)

end Gap

structure Partial where
  text : List Char := []
  gap : Gap := {}
  cursor : Cursor

namespace Partial

def push (p : Partial) (ch : Char) (n : Nat) : Partial :=
  ⟨ch :: (p.gap.text.reverse ++ p.text), {}, p.cursor.skip n⟩

def extendGap (indent fuel : Nat) (p : Partial) : Option Partial := do
  let (gap, cursor) ← p.gap.extend indent fuel p.cursor
  pure { p with gap, cursor }

/-- The plain word at the front of a place. It ends before a blank, before a colon that ends a word, and
within brackets before a comma and a bracket. -/
def word (flow : Bool) : (fuel : Nat) → Partial → Option Partial
  | 0, p => some p
  | fuel + 1, p =>
    match p.cursor.head? with
    | none => some p
    | some ch =>
      let next := p.cursor.peek? 1
      if isSpace ch || isBreak ch then some p
      else if flow && ch = ':' && next.any (· ∈ [',', '?', '[', ']', '\x7b', '\x7d']) then none
      else if ch = ':' && endsWord next then some p
      else if flow && ch ∈ [',', '[', ']', '\x7b', '\x7d'] then some p
      else word flow fuel (p.push ch 1)

/-- The words of a plain scalar with the gaps between them. It ends at a comment, at a mark between
documents, and in block context at a line that begins before the column `indent`. -/
def plain (flow : Bool) (indent : Nat) : (fuel : Nat) → Partial → Option Partial
  | 0, p => some p
  | fuel + 1, p =>
    if p.cursor.atDocumentMark || p.cursor.starts '#' then some p
    else do
      let p ← word flow fuel p
      match p.cursor.head? with
      | none => pure p
      | some ch =>
        if isSpace ch || isBreak ch then
          let p ← extendGap indent fuel p
          if !flow && p.cursor.column < indent then pure p else plain flow indent fuel p
        else pure p

def escape? (c : Char) : Option Char :=
  (List.lookup c [('0', 0), ('a', 7), ('b', 8), ('t', 9), ('\t', 9), ('n', 10), ('v', 11), ('f', 12),
    ('r', 13), ('e', 27), (' ', 32), ('"', 34), ('/', 47), ('\\', 92), ('N', 0x85), ('_', 0xA0),
    ('L', 0x2028), ('P', 0x2029)]).map Char.ofNat

def escapeLength? (c : Char) : Option Nat := List.lookup c [('x', 2), ('u', 4), ('U', 8)]

def pushEscape (p : Partial) : Option Partial := do
  let letter ← p.cursor.peek? 1
  match escapeLength? letter with
  | some n =>
    let digits := (p.cursor.rest.drop 2).take n
    let code ← if digits.length = n then Lexical.radix? 16 digits else none
    pure (p.push (← Lexical.char? code) (n + 2))
  | none => pure (p.push (← escape? letter) 2)

/-- The characters between two gaps of a quoted scalar. Between single quotes a quote is written twice;
between double ones a backslash begins an escape, which may stand for a line break without any text. -/
def quotedWord (single : Bool) : (fuel : Nat) → Partial → Option Partial
  | 0, p => some p
  | fuel + 1, p =>
    match p.cursor.head? with
    | none => some p
    | some ch =>
      let next := p.cursor.peek? 1
      if isSpace ch || isBreak ch then some p
      else if single && ch = '\'' && next = some '\'' then quotedWord single fuel (p.push '\'' 2)
      else if ch = (if single then '\'' else '"') then some p
      else if !single && ch = '\\' then
        if next.any isBreak then
          some { p with gap := { broken := true }, cursor := (p.cursor.skip 1).skipBreak }
        else do quotedWord single fuel (← p.pushEscape)
      else quotedWord single fuel (p.push ch 1)

def quoted (single : Bool) : (fuel : Nat) → Partial → Option Partial
  | 0, _ => none
  | fuel + 1, p => do
    if p.cursor.atDocumentMark || p.cursor.rest.isEmpty then failure
    let p ← quotedWord single fuel p
    if p.cursor.starts (if single then '\'' else '"') then pure { p with cursor := p.cursor.skip 1 }
    else
      let p ← extendGap 0 fuel p
      quoted single fuel { p with text := p.gap.text.reverse ++ p.text, gap := {} }

end Partial

inductive Chomp where
  | strip
  | clip
  | keep
  deriving DecidableEq, Repr

def Chomp.ofSign? : Char → Option Chomp
  | '-' => some .strip
  | '+' => some .keep
  | _ => none

/-- A block scalar so far: its text up to the last line with something on it, the break of that line,
the breaks of the blank lines after it, whether it begins with a blank, and the place after all that. -/
structure Block where
  text : List Char := []
  last : Option Char := none
  breaks : List Char := []
  blank : Bool := false
  cursor : Cursor

namespace Block

/-- The breaks of the blank lines at a place and the blanks of the next line up to the column `indent`,
or all of them where that is zero, with the farthest column met. No tabulator may stand among them. -/
def blankLines (indent : Nat) : (fuel : Nat) → (farthest : Nat) → (breaks : List Char) → Cursor →
    Option (Nat × List Char × Cursor)
  | 0, farthest, breaks, c => some (farthest, breaks, c)
  | fuel + 1, farthest, breaks, c =>
    let blanks := (c.rest.takeWhile (· = ' ')).length
    let c := c.skip (if indent = 0 then blanks else min blanks (indent - c.column))
    let farthest := max farthest c.column
    if (indent = 0 || c.column < indent) && c.starts '\t' then none
    else
      match c.break? with
      | some (b, next) => blankLines indent fuel farthest (breaks ++ [b]) next
      | none => some (farthest, breaks, c)

/-- The block with one more line. Where lines are folded, the break between two lines that do not begin
with a blank is a blank, and nothing if blank lines are between them. -/
def addLine (folded : Bool) (indent fuel : Nat) (b : Block) : Option Block := do
  let blank := b.cursor.head?.any isSpace
  let joint :=
    if folded && b.last = some '\n' && !b.blank && !blank then
      if b.breaks.isEmpty then [' '] else []
    else b.last.toList
  let (line, c) := b.cursor.span fun ch => !isBreak ch
  let (_, breaks, next) ← blankLines indent fuel 0 [] c.skipBreak
  pure ⟨b.text ++ joint ++ b.breaks ++ line, c.break?.map Prod.fst, breaks, blank, next⟩

def addLines (folded : Bool) (indent : Nat) : (fuel : Nat) → Block → Option Block
  | 0, b => some b
  | fuel + 1, b =>
    if b.cursor.column != indent || b.cursor.rest.isEmpty then some b
    else do addLines folded indent fuel (← addLine folded indent fuel b)

def chomped (b : Block) : Chomp → List Char
  | .strip => b.text
  | .clip => b.text ++ b.last.toList
  | .keep => b.text ++ b.last.toList ++ b.breaks

def header (c : Cursor) : Option (Chomp × Nat × Cursor) := do
  let sign (c : Cursor) : Option Chomp × Cursor :=
    match c.head?.bind Chomp.ofSign? with
    | some chomp => (some chomp, c.skip 1)
    | none => (none, c)
  let (before, c) := sign c
  let (depth, c) ← match c.head? with
    | some ch =>
      if ch = '0' then none
      else if ch.isDigit then some (Decimal.digitValue ch, c.skip 1)
      else some (0, c)
    | none => some (0, c)
  let (behind, c) := if before.isSome then (none, c) else sign c
  let c := c.skipComment
  if endsLine c.head? then pure ((before.or behind).getD .clip, depth, c.skipBreak) else none

def read (folded : Bool) (margin : Nat) (c : Cursor) : Option (List Char × Cursor) := do
  let (chomp, depth, c) ← header c
  let given := if depth = 0 then 0 else margin - 1 + depth
  let (farthest, breaks, c) ← blankLines given (c.rest.length + 1) 0 [] c
  let indent := if given = 0 then max farthest (max margin 1) else given
  let b ← addLines folded indent (c.rest.length + 1) { breaks, cursor := c }
  pure (b.chomped chomp, b.cursor)

end Block
end Gauge.Yaml
