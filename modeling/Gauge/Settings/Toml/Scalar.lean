import Gauge.Decimal.Reader
import Gauge.Settings.Document
import Gauge.Text.Lexical

/-! # Scalars of TOML texts

Strings, numbers, booleans and moments at the front of a text. A string of several lines is between
three quotes, and one or two more of them may stand directly before its end.
-/
namespace Gauge.Toml

open Lexical

def isLineCharacter (c : Char) : Bool := c = '\t' || (0x20 ≤ c.toNat && c.toNat != 0x7F)

def newline? : List Char → Option (List Char)
  | '\n' :: rest => some rest
  | '\r' :: '\n' :: rest => some rest
  | _ => none

def dropNewline (cs : List Char) : List Char := (newline? cs).getD cs

def before (c : Char) (r : Option (List Char × List Char)) : Option (List Char × List Char) :=
  r.map fun (s, rest) => (c :: s, rest)

def escape? (c : Char) : Option Char :=
  (List.lookup c [('b', 8), ('t', 9), ('n', 10), ('f', 12), ('r', 13), ('"', 34), ('\\', 92)]).map
    Char.ofNat

def basicRest : List Char → Option (List Char × List Char)
  | [] => none
  | '"' :: rest => some ([], rest)
  | '\\' :: 'u' :: a :: b :: c :: d :: rest => do
    before (← char? (← radix? 16 [a, b, c, d])) (basicRest rest)
  | '\\' :: 'U' :: a :: b :: c :: d :: e :: f :: g :: h :: rest => do
    before (← char? (← radix? 16 [a, b, c, d, e, f, g, h])) (basicRest rest)
  | '\\' :: c :: rest => do before (← escape? c) (basicRest rest)
  | c :: rest => if isLineCharacter c then before c (basicRest rest) else none

/-- The rest of a string of several lines. After a backslash at the end of a line, the blanks and line
ends up to the next other character are no text (`trimming`). -/
def basicLines : (trimming : Bool) → List Char → Option (List Char × List Char)
  | _, [] => none
  | _, '"' :: '"' :: '"' :: rest =>
    match rest with
    | '"' :: '"' :: rest => some (['"', '"'], rest)
    | '"' :: rest => some (['"'], rest)
    | rest => some ([], rest)
  | _, '\\' :: 'u' :: a :: b :: c :: d :: rest => do
    before (← char? (← radix? 16 [a, b, c, d])) (basicLines false rest)
  | _, '\\' :: 'U' :: a :: b :: c :: d :: e :: f :: g :: h :: rest => do
    before (← char? (← radix? 16 [a, b, c, d, e, f, g, h])) (basicLines false rest)
  | _, '\\' :: c :: rest =>
    if (newline? ((c :: rest).dropWhile isSpace)).isSome then basicLines true (c :: rest)
    else do before (← escape? c) (basicLines false rest)
  | trimming, '\r' :: '\n' :: rest =>
    if trimming then basicLines true rest else before '\n' (basicLines false rest)
  | trimming, c :: rest =>
    if trimming && (isSpace c || c = '\n') then basicLines true rest
    else if c = '\n' || isLineCharacter c then before c (basicLines false rest)
    else none

def literalRest : List Char → Option (List Char × List Char)
  | [] => none
  | '\'' :: rest => some ([], rest)
  | c :: rest => if isLineCharacter c then before c (literalRest rest) else none

def literalLines : List Char → Option (List Char × List Char)
  | [] => none
  | '\'' :: '\'' :: '\'' :: rest =>
    match rest with
    | '\'' :: '\'' :: rest => some (['\'', '\''], rest)
    | '\'' :: rest => some (['\''], rest)
    | rest => some ([], rest)
  | '\r' :: '\n' :: rest => before '\n' (literalLines rest)
  | c :: rest => if c = '\n' || isLineCharacter c then before c (literalLines rest) else none

def lineString? : List Char → Option (List Char × List Char)
  | '"' :: rest => basicRest rest
  | '\'' :: rest => literalRest rest
  | _ => none

def string? : List Char → Option (List Char × List Char)
  | '"' :: '"' :: '"' :: rest => basicLines false (dropNewline rest)
  | '\'' :: '\'' :: '\'' :: rest => literalLines (dropNewline rest)
  | cs => lineString? cs

def scoredDigits (isDigit : Char → Bool) : List Char → List Char × List Char
  | [] => ([], [])
  | '_' :: c :: rest =>
    if isDigit c then
      let (ds, rest) := scoredDigits isDigit rest
      (c :: ds, rest)
    else ([], '_' :: c :: rest)
  | c :: rest =>
    if isDigit c then
      let (ds, rest) := scoredDigits isDigit rest
      (c :: ds, rest)
    else ([], c :: rest)

/-- The digits at the front, at least one, where an underscore may stand between two. -/
def digits? (isDigit : Char → Bool) (cs : List Char) : Option (List Char × List Char) :=
  if cs.head?.any isDigit then some (scoredDigits isDigit cs) else none

def wholeDigits? : List Char → Option (List Char × List Char)
  | '0' :: rest => some (['0'], rest)
  | cs => digits? Char.isDigit cs

def sign : List Char → Option Char × List Char
  | '+' :: rest => (some '+', rest)
  | '-' :: rest => (some '-', rest)
  | cs => (none, cs)

def isDigitOf (base : Nat) (c : Char) : Bool := (hexValue? c).any (· < base)

/-- A whole number that fits 64 bits, with a sign only in base ten. -/
def integer? (cs : List Char) : Option (Int × List Char) := do
  let inBase (base : Nat) (cs : List Char) : Option (Int × List Char) := do
    let (ds, rest) ← digits? (isDigitOf base) cs
    pure ((← radix? base ds : Nat), rest)
  let (n, rest) ← match cs with
    | '0' :: 'x' :: rest => inBase 16 rest
    | '0' :: 'o' :: rest => inBase 8 rest
    | '0' :: 'b' :: rest => inBase 2 rest
    | cs => do
      let (s, body) := sign cs
      let (ds, rest) ← wholeDigits? body
      let n : Int := Decimal.digitsValue 0 ds
      pure (if s = some '-' then -n else n, rest)
  if -Nat.pow 2 63 ≤ n && n < Nat.pow 2 63 then pure (n, rest) else none

def exponent? : List Char → Option (List Char × List Char)
  | c :: rest => do
    if c != 'e' && c != 'E' then failure
    let (s, body) := sign rest
    let (ds, rest) ← digits? Char.isDigit body
    pure ('e' :: s.toList ++ ds, rest)
  | [] => none

def real? (cs : List Char) : Option (Float × List Char) :=
  let (s, body) := sign cs
  match after? "inf" body, after? "nan" body with
  | some rest, _ => some (if s = some '-' then -1 / 0 else 1 / 0, rest)
  | _, some rest => some (Signal.missing, rest)
  | _, _ => do
    let (whole, rest) ← wholeDigits? body
    let (tail, rest) ← match rest with
      | '.' :: rest => do
        let (fraction, rest) ← digits? Char.isDigit rest
        let (exponent, rest) := (exponent? rest).getD ([], rest)
        pure ('.' :: fraction ++ exponent, rest)
      | rest => exponent? rest
    let v ← Decimal.number? (String.ofList (s.toList ++ whole ++ tail))
    if v.isInf && 0 < v then none else pure (v, rest)

def field? (count least most : Nat) (cs : List Char) : Option (Nat × List Char) :=
  let ds := cs.take count
  let n := Decimal.digitsValue 0 ds
  if ds.length = count && ds.all Char.isDigit && least ≤ n && n ≤ most then some (n, cs.drop count)
  else none

def daysIn (year month : Nat) : Nat :=
  if month = 2 then (if year % 4 = 0 && (year % 100 != 0 || year % 400 = 0) then 29 else 28)
  else if month ∈ [4, 6, 9, 11] then 30
  else 31

def date? (cs : List Char) : Option (List Char) := do
  let (year, rest) ← field? 4 0 9999 cs
  let (month, rest) ← field? 2 1 12 (← after? "-" rest)
  let (_, rest) ← field? 2 1 (daysIn year month) (← after? "-" rest)
  pure rest

def time? (cs : List Char) : Option (List Char) := do
  let (_, rest) ← field? 2 0 23 cs
  let (_, rest) ← field? 2 0 59 (← after? ":" rest)
  let (_, rest) ← field? 2 0 60 (← after? ":" rest)
  match rest with
  | '.' :: c :: more =>
    pure (if c.isDigit then more.dropWhile Char.isDigit else rest)
  | rest => pure rest

def skipOffset (cs : List Char) : List Char :=
  match cs with
  | 'Z' :: rest | 'z' :: rest => rest
  | '+' :: rest | '-' :: rest =>
    (do
      let (_, rest) ← field? 2 0 23 rest
      let (_, rest) ← field? 2 0 59 (← after? ":" rest)
      pure rest : Option (List Char)).getD cs
  | cs => cs

def moment? (cs : List Char) : Option (List Char) :=
  match date? cs with
  | none => time? cs
  | some [] => some []
  | some (c :: rest) =>
    if c ∈ ['T', 't', ' '] then
      match time? rest with
      | some rest => some (skipOffset rest)
      | none => some (c :: rest)
    else some (c :: rest)

/-- The scalar at the front. A moment stands for a mapping, so that it is no value of any setting. -/
def scalar? (cs : List Char) : Option (Document × List Char) :=
  match cs with
  | [] => none
  | c :: _ =>
    if c = '"' || c = '\'' then (string? cs).map fun (s, rest) => (.text (String.ofList s), rest)
    else if c = 't' then (after? "true" cs).map fun rest => (.bool true, rest)
    else if c = 'f' then (after? "false" cs).map fun rest => (.bool false, rest)
    else
      match moment? cs with
      | some rest =>
        let written := String.ofList (cs.take (cs.length - rest.length))
        some (.mapping [("moment", .text written)], rest)
      | none =>
        match real? cs with
        | some (v, rest) => some (.real v, rest)
        | none => (integer? cs).map fun (n, rest) => (.whole n, rest)

end Gauge.Toml
