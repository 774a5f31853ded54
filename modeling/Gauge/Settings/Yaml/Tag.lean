import Gauge.Settings.Yaml.Cursor

/-! # Tags and directives of YAML texts

A tag says of what type a value is. It is written in full, or as a handle for its beginning with the rest
after it. Directives at the front of a document name the version of YAML and give handles their meaning.
-/
namespace Gauge.Yaml

open Lexical (isSpace)

structure Tag where
  handle : String
  suffix : String
  deriving DecidableEq, Repr

def isTagCharacter (verbatim : Bool) (c : Char) : Bool :=
  isNameCharacter c || c ∈ ";/?:@&=+$.!~*'()".toList || (verbatim && c ∈ [',', '[', ']'])

def octetLength? (octet : Nat) : Option Nat :=
  if octet < 0x80 then some 1
  else if 0xC0 ≤ octet && octet < 0xE0 then some 2
  else if 0xE0 ≤ octet && octet < 0xF0 then some 3
  else if 0xF0 ≤ octet && octet < 0xF8 then some 4
  else none

def octet? (c : Cursor) : Option Nat :=
  match c.rest with
  | '%' :: a :: b :: _ => Lexical.radix? 16 [a, b]
  | _ => none

def octets? : (count : Nat) → (code : Nat) → Cursor → Option (Nat × Cursor)
  | 0, code, c => some (code, c)
  | count + 1, code, c => do
    let octet ← octet? c
    if 0x80 ≤ octet && octet < 0xC0 then octets? count (code * 64 + octet % 64) (c.skip 3) else none

/-- The character whose octets are escaped at a place. Octets that are no character stand for the
replacement character. -/
def escaped? (c : Cursor) : Option (Char × Cursor) := do
  let octet ← octet? c
  let length ← octetLength? octet
  let front := if length = 1 then octet else octet % Nat.pow 2 (7 - length)
  let (code, c) ← octets? (length - 1) front (c.skip 3)
  pure ((Lexical.char? code).getD '\uFFFD', c)

def tagCharacters? (verbatim : Bool) : (fuel : Nat) → Cursor → Option (List Char × Cursor)
  | 0, c => some ([], c)
  | fuel + 1, c =>
    match c.head? with
    | none => some ([], c)
    | some ch =>
      if ch = '%' then do
        let (ch, c) ← escaped? c
        let (more, c) ← tagCharacters? verbatim fuel c
        pure (ch :: more, c)
      else if isTagCharacter verbatim ch then do
        let (more, c) ← tagCharacters? verbatim fuel (c.skip 1)
        pure (ch :: more, c)
      else some ([], c)

def tagText? (verbatim precedes : Bool) (c : Cursor) : Option (List Char × Cursor) := do
  let (text, next) ← tagCharacters? verbatim (c.rest.length + 1) c
  if text.isEmpty && !precedes then none else pure (text.takeWhile (·.toNat != 0), next)

def handle (c : Cursor) : List Char × Bool × Cursor :=
  let (name, c) := c.span isNameCharacter
  if c.starts '!' then (name, true, c.skip 1) else (name, false, c)

/-- The tag at a place after its exclamation mark. What is no handle begins the rest of the tag, and a
mark alone is a tag by itself. -/
def tag? (flow : Bool) (c : Cursor) : Option (Tag × Cursor) := do
  let (tag, c) ←
    if c.starts '<' then do
      let (suffix, c) ← tagText? true false (c.skip 1)
      if c.starts '>' then pure (⟨"", String.ofList suffix⟩, c.skip 1) else none
    else do
      let (name, closed, c) := handle c
      let (more, c) ← tagText? false (!closed) c
      if closed then pure (⟨"!" ++ String.ofList name ++ "!", String.ofList more⟩, c)
      else if name.isEmpty && more.isEmpty then pure (⟨"", "!"⟩, c)
      else pure (⟨"!", String.ofList (name ++ more)⟩, c)
  if endsWord c.head? || (flow && c.starts ',') then pure (tag, c) else none

inductive Directive where
  | version (major minor : Nat)
  | handle (handle beginning : String)
  deriving DecidableEq, Repr

def versionNumber? (c : Cursor) : Option (Nat × Cursor) := do
  let (digits, c) := c.span Char.isDigit
  if 9 < digits.length then none else pure (← Lexical.radix? 10 digits, c)

namespace Directive

def content? (name : List Char) (c : Cursor) : Option (Directive × Cursor) := do
  let c := c.skipWhile isSpace
  if name = "YAML".toList then
    let (major, c) ← versionNumber? c
    if !c.starts '.' then failure
    let (minor, c) ← versionNumber? (c.skip 1)
    pure (.version major minor, c)
  else if name = "TAG".toList then
    if !c.starts '!' then failure
    let (name, closed, c) := Yaml.handle (c.skip 1)
    if !closed && !name.isEmpty then failure
    if !c.head?.any isSpace then failure
    let (beginning, c) ← tagText? true false (c.skipWhile isSpace)
    if !endsWord c.head? then failure
    let handle := "!" ++ String.ofList name ++ (if closed then "!" else "")
    pure (.handle handle (String.ofList beginning), c)
  else none

def read? (c : Cursor) : Option (Directive × Cursor) := do
  let (name, c) := c.span isNameCharacter
  if name.isEmpty || !endsWord c.head? then failure
  let (directive, c) ← content? name c
  let c := c.skipComment
  if endsLine c.head? then pure (directive, c.skipBreak) else none

end Directive
end Gauge.Yaml
