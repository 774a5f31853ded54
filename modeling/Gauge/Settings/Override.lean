import Gauge.Settings.Toml
import Gauge.Text.Blank

/-! # Overrides

Settings that variables of the environment give. The name of such a variable begins with `GAUGE_`, and
the rest is a path of names with `__` between. Its value is a boolean, a number, a text between quotes,
a list between brackets or a mapping between braces; any other text stands for itself.
-/
namespace Gauge.Override

open Lexical

def stem : String := "GAUGE_"

def dotted : List Char → List Char
  | '_' :: '_' :: rest => '.' :: dotted rest
  | c :: rest => c :: dotted rest
  | [] => []

/-- The path that a variable's name gives, without regard to the case of its letters and to blanks at
its ends and at those of the path. No name in a path is empty. -/
def path? (name : String) : Option (List String) := do
  let letters := (Text.stripChars Text.isBlank name.toList).map Char.toLower
  let rest ← after? (stem.map Char.toLower) letters
  let path := (String.ofList (Text.stripChars Text.isBlank (dotted rest))).splitOn "."
  if path.any (· = "") then none else pure path

def nest (value : Document) : List String → Document
  | [] => value
  | name :: path => .mapping [(name, nest value path)]

def isSeparator (c : Char) : Bool := c ∈ [',', '\x7b', '\x7d', '[', ']']

def whole? : List Char → Option Int
  | '-' :: digits => do
    let n ← radix? 10 digits
    if n ≤ Nat.pow 2 63 then pure (-n) else none
  | '+' :: digits => do
    let n ← radix? 10 digits
    if n < Nat.pow 2 64 then pure n else none
  | digits => do
    let n ← radix? 10 digits
    if n < Nat.pow 2 64 then pure n else none

def plain (cs : List Char) : Document :=
  let cs := Text.stripChars Text.isBlank cs
  let s := String.ofList cs
  match if '.' ∈ cs then Decimal.number? s else none with
  | some v => .real v
  | none =>
    match whole? cs with
    | some n => .whole n
    | none => .text s

def isNameCharacter (c : Char) : Bool := c.isAlphanum || c = '_' || c = '-'

def name? (cs : List Char) : Option (String × List Char) := do
  let cs := cs.dropWhile isAsciiBlank
  let (name, rest) ← match cs with
    | '"' :: rest => Toml.basicRest rest
    | cs =>
      if (cs.takeWhile isNameCharacter).isEmpty then none
      else some (cs.takeWhile isNameCharacter, cs.dropWhile isNameCharacter)
  match rest.dropWhile isAsciiBlank with
  | '=' :: rest => pure (String.ofList name, rest)
  | _ => none

mutual

def value : (depth : Nat) → List Char → Option (Document × List Char)
  | 0, _ => none
  | depth + 1, cs =>
    let cs := cs.dropWhile isAsciiBlank
    let found : Option (Document × List Char) :=
      match after? "true" cs, after? "false" cs with
      | some rest, _ => some (.bool true, rest)
      | _, some rest => some (.bool false, rest)
      | _, _ =>
        match cs with
        | '[' :: rest => (items depth rest).map fun (vs, rest) => (.list vs, rest)
        | '\x7b' :: rest => (entries depth rest).map fun (es, rest) => (.ofEntries es, rest)
        | '"' :: rest =>
          (Toml.basicRest rest).map fun (s, rest) => (.text (String.ofList s), rest)
        | '\'' :: c :: '\'' :: rest => some (.text (String.singleton c), rest)
        | '\'' :: _ => none
        | cs =>
          some (plain (cs.takeWhile fun c => !isSeparator c), cs.dropWhile fun c => !isSeparator c)
    found.map fun (d, rest) => (d, rest.dropWhile isAsciiBlank)
  termination_by depth => depth

/-- The elements of a list up to its closing bracket, which may follow a comma. -/
def items : (depth : Nat) → List Char → Option (List Document × List Char)
  | 0, _ => none
  | _ + 1, ']' :: rest => some ([], rest)
  | depth + 1, cs =>
    match value depth cs with
    | some (v, ',' :: rest) => (items depth rest).map fun (vs, rest) => (v :: vs, rest)
    | some (v, ']' :: rest) => some ([v], rest)
    | _ => none
  termination_by depth => depth

def entries : (depth : Nat) → List Char → Option (List (String × Document) × List Char)
  | 0, _ => none
  | _ + 1, '\x7d' :: rest => some ([], rest)
  | depth + 1, cs =>
    match name? cs with
    | none => none
    | some (name, rest) =>
      match value depth rest with
      | some (v, ',' :: rest) => (entries depth rest).map fun (es, rest) => ((name, v) :: es, rest)
      | some (v, '\x7d' :: rest) => some ([(name, v)], rest)
      | _ => none
  termination_by depth => depth

end

def read (s : String) : Document :=
  match value (s.length + 2) s.toList with
  | some (d, []) => d
  | _ => .text s

/-- What all variables of an environment give together, later ones over earlier ones. -/
def ofEnvironment (environment : List (String × String)) : Document :=
  environment.foldl (fun d v =>
    match path? v.1 with
    | some path => d.overlay (nest (read v.2) path)
    | none => d) (.mapping [])

end Gauge.Override
