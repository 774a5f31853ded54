import Gauge.Settings.Document
import Gauge.Text.Lexical

/-! # JSON documents

A number without fraction and exponent is whole if it fits 64 bits. Any other number is its digits as a
double, multiplied or divided by a power of ten; digits that do not fit 64 bits are not looked at.
-/
namespace Gauge.Json

open Lexical

def skip (cs : List Char) : List Char :=
  cs.dropWhile fun c => c = ' ' || c = '\t' || c = '\n' || c = '\r'

def unit? (a b c d : Char) : Option Nat := radix? 16 [a, b, c, d]

def escape? (c : Char) : Option Char :=
  if c = '"' then some '"'
  else if c = '\\' then some '\\'
  else if c = '/' then some '/'
  else if c = 'b' then some (Char.ofNat 8)
  else if c = 'f' then some (Char.ofNat 12)
  else if c = 'n' then some '\n'
  else if c = 'r' then some '\r'
  else if c = 't' then some '\t'
  else none

/-- The rest of a string after its opening quote. Two halves of a surrogate pair make one character, and
a half alone is refused. -/
def stringRest : List Char → Option (List Char × List Char)
  | [] => none
  | '"' :: rest => some ([], rest)
  | '\\' :: 'u' :: a :: b :: c :: d :: '\\' :: 'u' :: e :: f :: g :: h :: rest => do
    let high ← unit? a b c d
    if 0xD800 ≤ high && high < 0xDC00 then
      let low ← unit? e f g h
      if 0xDC00 ≤ low && low < 0xE000 then
        let (s, rest) ← stringRest rest
        pure (Char.ofNat (0x10000 + (high - 0xD800) * 0x400 + (low - 0xDC00)) :: s, rest)
      else none
    else
      let ch ← char? high
      let (s, rest) ← stringRest ('\\' :: 'u' :: e :: f :: g :: h :: rest)
      pure (ch :: s, rest)
  | '\\' :: 'u' :: a :: b :: c :: d :: rest => do
    let ch ← char? (← unit? a b c d)
    let (s, rest) ← stringRest rest
    pure (ch :: s, rest)
  | '\\' :: c :: rest => do
    let ch ← escape? c
    let (s, rest) ← stringRest rest
    pure (ch :: s, rest)
  | c :: rest =>
    if c.toNat < 32 || c = '\\' then none
    else do
      let (s, rest) ← stringRest rest
      pure (c :: s, rest)

/-- As many leading digits as 64 bits hold, as a number, and how many digits are left over. -/
def significand (n : Nat) : List Char → Nat × Nat
  | [] => (n, 0)
  | c :: rest =>
    let next := 10 * n + Decimal.digitValue c
    if next < Nat.pow 2 64 then significand next rest else (n, rest.length + 1)

/-- `n · 10ᵉ` with one rounding for `n` and one for each multiplication or division; `none` when the
result is infinite. -/
def scaled (n : Nat) (e : Int) : Option Float :=
  let v := n.toUInt64.toFloat
  if 308 < e then (if n = 0 then some v else none)
  else
    let w :=
      if 0 ≤ e then v * Decimal.nearest 1 e
      else if -308 ≤ e then v / Decimal.nearest 1 (-e)
      else if -616 ≤ e then v / Decimal.nearest 1 308 / Decimal.nearest 1 (-e - 308)
      else 0
    if w.isInf then none else some w

def number (cs : List Char) : Option (Document × List Char) := do
  let (negative, cs) := match cs with
    | '-' :: rest => (true, rest)
    | cs => (false, cs)
  let digits := cs.takeWhile Char.isDigit
  let rest := cs.dropWhile Char.isDigit
  if digits.isEmpty || (digits.head? == some '0' && digits.length != 1) then none
  let (fraction, rest, plain) ← match rest with
    | '.' :: after =>
      let fraction := after.takeWhile Char.isDigit
      if fraction.isEmpty then none else some (fraction, after.dropWhile Char.isDigit, false)
    | rest => some ([], rest, true)
  let (exponent, rest, plain) ← match rest with
    | c :: after =>
      if c = 'e' || c = 'E' then
        let (down, after) := match after with
          | '-' :: more => (true, more)
          | '+' :: more => (false, more)
          | more => (false, more)
        let ds := after.takeWhile Char.isDigit
        let n : Int := Decimal.digitsValue 0 ds
        if ds.isEmpty then none
        else some ((if down then -n else n), after.dropWhile Char.isDigit, false)
      else some ((0 : Int), c :: after, plain)
    | [] => some ((0 : Int), [], plain)
  let value := Decimal.digitsValue 0 digits
  if plain && !negative && value < Nat.pow 2 64 then pure (.whole value, rest)
  else if plain && negative && 0 < value && value ≤ Nat.pow 2 63 then pure (.whole (-value), rest)
  else
    let (n, excess) := significand 0 digits
    let (n, left) := significand n fraction
    let v ← scaled n (exponent + excess - (fraction.length - left : Nat))
    pure (.real (if negative then -v else v), rest)

def items (value? : List Char → Option (Document × List Char)) :
    (fuel : Nat) → List Char → Option (List Document × List Char)
  | 0, _ => none
  | fuel + 1, cs => do
    let (v, rest) ← value? cs
    match skip rest with
    | ',' :: rest =>
      let (vs, rest) ← items value? fuel rest
      pure (v :: vs, rest)
    | ']' :: rest => pure ([v], rest)
    | _ => failure

def members (value? : List Char → Option (Document × List Char)) :
    (fuel : Nat) → List Char → Option (List (String × Document) × List Char)
  | 0, _ => none
  | fuel + 1, cs => do
    let (name, rest) ← stringRest (← after? "\"" (skip cs))
    let (v, rest) ← value? (← after? ":" (skip rest))
    let e := (String.ofList name, v)
    match skip rest with
    | ',' :: rest =>
      let (es, rest) ← members value? fuel rest
      pure (e :: es, rest)
    | '\x7d' :: rest => pure ([e], rest)
    | _ => failure

def word (cs : List Char) : Option (Document × List Char) :=
  match after? "true" cs, after? "false" cs, after? "null" cs with
  | some rest, _, _ => some (.bool true, rest)
  | _, some rest, _ => some (.bool false, rest)
  | _, _, some rest => some (.null, rest)
  | _, _, _ => number cs

def value (depth : Nat) (cs : List Char) : Option (Document × List Char) :=
  match depth, skip cs with
  | _, '"' :: rest => (stringRest rest).map fun (s, rest) => (.text (String.ofList s), rest)
  | depth + 1, '[' :: rest =>
    match skip rest with
    | ']' :: rest => some (.list [], rest)
    | rest => (items (value depth) (rest.length + 1) rest).map fun (vs, rest) => (.list vs, rest)
  | depth + 1, '\x7b' :: rest =>
    match skip rest with
    | '\x7d' :: rest => some (.mapping [], rest)
    | rest => (members (value depth) (rest.length + 1) rest).map fun (es, rest) => (.ofEntries es, rest)
  | _, cs => word cs

def depthLimit : Nat := 127

def read? (s : String) : Option Document :=
  match value depthLimit s.toList with
  | some (d, rest) => if (skip rest).isEmpty then some d else none
  | none => none

end Gauge.Json
