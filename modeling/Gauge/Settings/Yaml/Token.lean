import Gauge.Settings.Yaml.Scalar
import Gauge.Settings.Yaml.Tag

/-! # Tokens of YAML texts

A text as marks, properties and scalars, where the columns of its lines have become the beginnings and
ends of block collections. A key without a mark of its own is known by the colon after it: its mark is put
where it began. Such a key ends on the line where it begins, within 1024 characters.
-/
namespace Gauge.Yaml

open Lexical (isSpace)

inductive Token where
  | directive (d : Directive)
  | documentStart
  | documentEnd
  | blockSequence
  | blockMapping
  | blockEnd
  | blockEntry
  | flowSequence
  | flowSequenceEnd
  | flowMapping
  | flowMappingEnd
  | flowEntry
  | key
  | value
  | alias (name : String)
  | anchor (name : String)
  | tag (t : Tag)
  | scalar (text : String) (isPlain : Bool)
  deriving DecidableEq, Repr

/-- Where a key may have begun: its place among the tokens and in the text. It is required where nothing
else could stand in its block mapping. -/
structure KeyPlace where
  required : Bool
  position : Nat
  cursor : Cursor

/-- A text read up to a place. The margin of a block collection is the first column of what its entries
hold; innermost margins come first. `keys` has a place for the text outside of all flow collections and
one for each flow collection that is open, innermost first. -/
structure Reading where
  cursor : Cursor
  tokens : Array Token := #[]
  margins : List Nat := []
  keyAllowed : Bool := true
  keys : List (Option KeyPlace) := [none]

namespace Reading

def inFlow (r : Reading) : Bool := 1 < r.keys.length

def margin (r : Reading) : Nat := r.margins.headD 0

def push (r : Reading) (t : Token) (next : Cursor) : Reading :=
  { r with tokens := r.tokens.push t, cursor := next }

def dropKey (r : Reading) : Option Reading :=
  match r.keys with
  | some k :: rest => if k.required then none else some { r with keys := none :: rest }
  | _ => some r

def noteKey (r : Reading) : Option Reading :=
  if r.keyAllowed then do
    let r ← r.dropKey
    let required := !r.inFlow && r.margin = r.cursor.column + 1
    pure { r with keys := some ⟨required, r.tokens.size, r.cursor⟩ :: r.keys.drop 1 }
  else some r

def dropOldKeys (r : Reading) : Option Reading := do
  let keys ← r.keys.mapM fun
    | some k =>
      if k.cursor.line < r.cursor.line || k.cursor.index + 1024 < r.cursor.index then
        if k.required then none else some none
      else some (some k)
    | none => some none
  pure { r with keys }

def enter (r : Reading) (column position : Nat) (t : Token) : Reading :=
  if r.inFlow || column < r.margin then r
  else
    { r with
      margins := (column + 1) :: r.margins
      tokens := r.tokens.insertIdxIfInBounds position t }

def leave (r : Reading) (margin : Nat) : Reading :=
  if r.inFlow then r
  else
    let ended := (r.margins.takeWhile (margin < ·)).length
    { r with
      margins := r.margins.drop ended
      tokens := r.tokens ++ Array.replicate ended .blockEnd }

/-- Go to the next token, past blanks, comments and line ends. A tabulator is a blank only where no key
may begin or within a flow collection. -/
def toToken : (fuel : Nat) → Reading → Reading
  | 0, r => r
  | fuel + 1, r =>
    let c := r.cursor
    let c := if c.column = 0 && c.starts '\uFEFF' then c.skip 1 else c
    let c := c.skipWhile fun ch => ch = ' ' || ((r.inFlow || !r.keyAllowed) && ch = '\t')
    let c := if c.starts '#' then c.skipWhile fun ch => !isBreak ch else c
    match c.break? with
    | some (_, next) => toToken fuel { r with cursor := next, keyAllowed := r.keyAllowed || !r.inFlow }
    | none => { r with cursor := c }

def boundary (r : Reading) (t : Token) (next : Cursor) : Option Reading := do
  let r ← (r.leave 0).dropKey
  pure ({ r with keyAllowed := false }.push t next)

def openFlow (r : Reading) (t : Token) : Option Reading := do
  let r ← r.noteKey
  pure ({ r with keyAllowed := true, keys := none :: r.keys }.push t (r.cursor.skip 1))

def closeFlow (r : Reading) (t : Token) : Option Reading := do
  let r ← r.dropKey
  let keys := if r.inFlow then r.keys.drop 1 else r.keys
  pure ({ r with keyAllowed := false, keys }.push t (r.cursor.skip 1))

def flowEntry (r : Reading) : Option Reading := do
  let r ← r.dropKey
  pure ({ r with keyAllowed := true }.push .flowEntry (r.cursor.skip 1))

def entryMark (r : Reading) (collection : Token) : Option Reading :=
  if r.inFlow then some r
  else if r.keyAllowed then some (r.enter r.cursor.column r.tokens.size collection)
  else none

def blockEntry (r : Reading) : Option Reading := do
  let r ← (← r.entryMark .blockSequence).dropKey
  pure ({ r with keyAllowed := true }.push .blockEntry (r.cursor.skip 1))

def key (r : Reading) : Option Reading := do
  let r ← (← r.entryMark .blockMapping).dropKey
  pure ({ r with keyAllowed := !r.inFlow }.push .key (r.cursor.skip 1))

def value (r : Reading) : Option Reading := do
  let r ← match r.keys with
    | some k :: rest =>
      let r := { r with tokens := r.tokens.insertIdxIfInBounds k.position .key }
      let r := r.enter k.cursor.column k.position .blockMapping
      some { r with keyAllowed := false, keys := none :: rest }
    | _ => do
      let r ← r.entryMark .blockMapping
      some { r with keyAllowed := !r.inFlow }
  pure (r.push .value (r.cursor.skip 1))

def content (r : Reading) (t : Token) (next : Cursor) (again : Bool) : Option Reading := do
  let r ← r.noteKey
  pure ({ r with keyAllowed := again }.push t next)

def name? (c : Cursor) : Option (String × Cursor) :=
  let (name, next) := c.span isNameCharacter
  if !name.isEmpty && (endsWord next.head? ||
      next.head?.any (· ∈ ['?', ':', ',', ']', '\x7d', '%', '@', Char.ofNat 0x60])) then
    some (String.ofList name, next)
  else none

def startsPlain (flow : Bool) (ch : Char) (next : Option Char) : Bool :=
  if ch = '-' then !endsWord next
  else if ch = '?' || ch = ':' then !flow && !endsWord next
  else !(isSpace ch || ch ∈ ",[]\x7b\x7d#&*!|>'\"%@".toList || ch.toNat = 0x60)

def quoted (r : Reading) (single : Bool) : Option Reading := do
  let p ← Partial.quoted single (r.cursor.rest.length + 1) { cursor := r.cursor.skip 1 }
  r.content (.scalar (String.ofList p.text.reverse) false) p.cursor false

def block (r : Reading) (folded : Bool) : Option Reading := do
  let r ← r.dropKey
  let (text, next) ← Block.read folded r.margin (r.cursor.skip 1)
  pure ({ r with keyAllowed := true }.push (.scalar (String.ofList text) false) next)

def plain (r : Reading) : Option Reading := do
  let p ← Partial.plain r.inFlow r.margin (r.cursor.rest.length + 1) { cursor := r.cursor }
  r.content (.scalar (String.ofList p.text.reverse) true) p.cursor p.gap.broken

def token (r : Reading) (ch : Char) : Option Reading :=
  let c := r.cursor
  let next := c.peek? 1
  let marks := r.inFlow || endsWord next
  if c.column = 0 && ch = '%' then do
    let (d, next) ← Directive.read? (c.skip 1)
    r.boundary (.directive d) next
  else if c.marks '-' then r.boundary .documentStart (c.skip 3)
  else if c.marks '.' then r.boundary .documentEnd (c.skip 3)
  else if ch = '[' then r.openFlow .flowSequence
  else if ch = '\x7b' then r.openFlow .flowMapping
  else if ch = ']' then r.closeFlow .flowSequenceEnd
  else if ch = '\x7d' then r.closeFlow .flowMappingEnd
  else if ch = ',' then r.flowEntry
  else if ch = '-' && endsWord next then r.blockEntry
  else if ch = '?' && marks then r.key
  else if ch = ':' && marks then r.value
  else if ch = '*' then do
    let (name, next) ← name? (c.skip 1)
    r.content (.alias name) next false
  else if ch = '&' then do
    let (name, next) ← name? (c.skip 1)
    r.content (.anchor name) next false
  else if ch = '!' then do
    let (t, next) ← tag? r.inFlow (c.skip 1)
    r.content (.tag t) next false
  else if ch = '|' && !r.inFlow then r.block false
  else if ch = '>' && !r.inFlow then r.block true
  else if ch = '\'' then r.quoted true
  else if ch = '"' then r.quoted false
  else if startsPlain r.inFlow ch next then r.plain
  else none

def tokens? : (fuel : Nat) → Reading → Option (List Token)
  | 0, _ => none
  | fuel + 1, r => do
    let r ← (r.toToken (r.cursor.rest.length + 1)).dropOldKeys
    let r := r.leave (r.cursor.column + 1)
    match r.cursor.head? with
    | none => pure (← (r.leave 0).dropKey).tokens.toList
    | some ch => tokens? fuel (← r.token ch)

end Reading

def Token.ofText? (s : String) : Option (List Token) :=
  if s.toList.all isAllowed then Reading.tokens? (s.length + 1) { cursor := ⟨s.toList, 0, 0, 0⟩ }
  else none

end Gauge.Yaml
