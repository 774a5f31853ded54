import Gauge.Text.Lexical
import Gauge.Text.Numeral

/-! # Patterns

Which texts are regular expressions, as filters give them for the values of fields. What needs tables of
characters is refused: classes by property, the classes of digits, words and blanks, the bounds of words,
and letters in any case.
-/
namespace Gauge.Pattern

open Lexical (radix? char?)

def escapedLetter? (c : Char) : Option Char :=
  (List.lookup c [('n', 10), ('t', 9), ('r', 13), ('f', 12), ('v', 11), ('a', 7)]).map Char.ofNat

def escapeLength? (c : Char) : Option Nat := List.lookup c [('x', 2), ('u', 4), ('U', 8)]

def escape? : List Char → Option (Option Char × List Char)
  | [] => none
  | c :: rest =>
    match escapeLength? c with
    | some n => do
      let digits := rest.take n
      let code ← if digits.length = n then radix? 16 digits else none
      pure (some (← char? code), rest.drop n)
    | none =>
      if c = 'A' || c = 'z' then some (none, rest)
      else if c.isAlphanum then (escapedLetter? c).map fun ch => (some ch, rest)
      else if c.toNat < 128 && c != '<' && c != '>' then some (some c, rest)
      else none

def member? : List Char → Option (Char × List Char)
  | '\\' :: rest => do
    let (c, rest) ← escape? rest
    pure (← c, rest)
  | c :: rest => some (c, rest)
  | [] => none

def classNames : List String :=
  ["alnum", "alpha", "ascii", "blank", "cntrl", "digit", "graph", "lower", "print", "punct", "space",
    "upper", "word", "xdigit"]

def named? (cs : List Char) : Option (List Char) := do
  let cs ← Lexical.after? ":" cs
  let cs := (Lexical.after? "^" cs).getD cs
  let name := cs.takeWhile Char.isAlpha
  if String.ofList name ∈ classNames then Lexical.after? ":]" (cs.drop name.length) else none

def opened (cs : List Char) : List Char :=
  let cs := (Lexical.after? "^" cs).getD cs
  match cs with
  | '-' :: rest => rest.dropWhile (· = '-')
  | ']' :: rest => rest
  | cs => cs

def classRest : (fuel depth : Nat) → List Char → Option (List Char)
  | 0, _, _ => none
  | _ + 1, _, [] => none
  | _ + 1, 0, ']' :: rest => some rest
  | fuel + 1, depth + 1, ']' :: rest => classRest fuel depth rest
  | fuel + 1, depth, '[' :: rest =>
    match named? rest with
    | some rest => classRest fuel depth rest
    | none => classRest fuel (depth + 1) (opened rest)
  | fuel + 1, depth, '&' :: '&' :: rest => classRest fuel depth rest
  | fuel + 1, depth, '-' :: '-' :: rest => classRest fuel depth rest
  | fuel + 1, depth, '~' :: '~' :: rest => classRest fuel depth rest
  | fuel + 1, depth, cs =>
    match member? cs with
    | none => none
    | some (low, '-' :: c :: rest) =>
      if c = ']' || c = '-' then classRest fuel depth ('-' :: c :: rest)
      else match member? (c :: rest) with
        | some (high, rest) => if low ≤ high then classRest fuel depth rest else none
        | none => none
    | some (_, rest) => classRest fuel depth rest

def groupName? (cs : List Char) : Option (List Char) := do
  let name := cs.takeWhile (· != '>')
  let first ← name.head?
  let starts := first = '_' || (Text.isAlphanumeric first && !first.isDigit)
  if starts && name.all fun c => Text.isAlphanumeric c || c ∈ ['_', '.', '[', ']'] then
    Lexical.after? ">" (cs.drop name.length)
  else none

/-- The flags are known, none occurs twice, at most one dash is among them, and not at the end. -/
def areFlags (flags : List Char) : Bool :=
  flags.all (· ∈ "msUuRx-".toList) && flags.Nodup && flags.getLast? != some '-'

def group? : List Char → Option (Bool × List Char)
  | '?' :: 'P' :: '<' :: rest => (groupName? rest).map fun rest => (false, rest)
  | '?' :: '<' :: rest => (groupName? rest).map fun rest => (false, rest)
  | '?' :: rest =>
    let flags := rest.takeWhile fun c => c != ':' && c != ')'
    if areFlags flags then
      match rest.drop flags.length with
      | ':' :: rest => some (false, rest)
      | ')' :: rest => if flags.isEmpty then none else some (true, rest)
      | _ => none
    else none
  | cs => some (false, cs)

/-- The rest of a pattern with `depth` groups open is well formed; `operand` tells whether something to be
repeated is before it. A brace begins a count, which no filter can end. -/
def isRest : (fuel depth : Nat) → (operand : Bool) → List Char → Bool
  | 0, _, _, _ => false
  | _ + 1, depth, _, [] => depth = 0
  | fuel + 1, depth, operand, c :: rest =>
    if c = '(' then
      match group? rest with
      | some (whole, rest) => isRest fuel (if whole then depth else depth + 1) false rest
      | none => false
    else if c = ')' then 0 < depth && isRest fuel (depth - 1) true rest
    else if c = '|' then isRest fuel depth false rest
    else if c = '*' || c = '+' || c = '?' then operand && isRest fuel depth true rest
    else if c = '\x7b' then false
    else if c = '[' then
      match classRest fuel 0 (opened rest) with
      | some rest => isRest fuel depth true rest
      | none => false
    else if c = '\\' then
      match escape? rest with
      | some (_, rest) => isRest fuel depth true rest
      | none => false
    else isRest fuel depth true rest

def isWellFormed (s : String) : Bool := isRest (s.length + 1) 0 false s.toList

end Gauge.Pattern
