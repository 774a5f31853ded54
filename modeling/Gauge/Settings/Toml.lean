import Gauge.Settings.Toml.Scalar
import Gauge.Settings.Toml.Table

/-! # TOML documents

Lines with headings and entries. The entries after a heading belong to its table.
-/
namespace Gauge.Toml

open Lexical

def isBare (c : Char) : Bool := c.isAlphanum || c = '_' || c = '-'

def part? (cs : List Char) : Option (String × List Char) :=
  if cs.head?.any isBare then some (String.ofList (cs.takeWhile isBare), cs.dropWhile isBare)
  else (lineString? cs).map fun (s, rest) => (String.ofList s, rest)

def parts? : (fuel : Nat) → List Char → Option (List String × List Char)
  | 0, _ => none
  | fuel + 1, cs =>
    match part? (cs.dropWhile isSpace) with
    | none => none
    | some (p, rest) =>
      match rest.dropWhile isSpace with
      | '.' :: rest => (parts? fuel rest).map fun (ps, rest) => (p :: ps, rest)
      | rest => some ([p], rest)

/-- How many parts a name has at most, and how deep arrays and inline tables may be nested. -/
def depthLimit : Nat := 79

def name? (cs : List Char) : Option (List String × List Char) := do
  let (path, rest) ← parts? (cs.length + 1) cs
  if path.length ≤ depthLimit then pure (path, rest) else none

def skipLines : (fuel : Nat) → List Char → Option (List Char)
  | 0, _ => none
  | fuel + 1, cs =>
    match cs.dropWhile isSpace with
    | '#' :: rest => do skipLines fuel (← newline? (rest.dropWhile isLineCharacter))
    | '\n' :: rest => skipLines fuel rest
    | '\r' :: rest => do skipLines fuel (← after? "\n" rest)
    | cs => some cs

def lineEnd (cs : List Char) : Option (List Char) :=
  let after := match cs.dropWhile isSpace with
    | '#' :: rest => rest.dropWhile isLineCharacter
    | cs => cs
  if after.isEmpty then some [] else newline? after

def items (value? : List Char → Option (Document × List Char)) :
    (fuel : Nat) → List Char → Option (List Document × List Char)
  | 0, _ => none
  | fuel + 1, cs => do
    match ← skipLines (cs.length + 1) cs with
    | ']' :: rest => pure ([], rest)
    | cs =>
      let (v, rest) ← value? cs
      match ← skipLines (rest.length + 1) rest with
      | ',' :: rest =>
        let (vs, rest) ← items value? fuel rest
        pure (v :: vs, rest)
      | ']' :: rest => pure ([v], rest)
      | _ => failure

def entry (value? : List Char → Option (Document × List Char)) (cs : List Char) :
    Option (List String × Document × List Char) := do
  let (path, rest) ← name? cs
  let rest ← after? "=" rest
  let (v, rest) ← value? (rest.dropWhile isSpace)
  pure (path, v, rest)

def members (value? : List Char → Option (Document × List Char)) :
    (fuel : Nat) → Entries → List Char → Option (Entries × List Char)
  | 0, _, _ => none
  | fuel + 1, es, cs => do
    let (path, v, rest) ← entry value? cs
    let es ← es.set path v
    match rest.dropWhile isSpace with
    | ',' :: rest => members value? fuel es rest
    | '\x7d' :: rest => pure (es, rest)
    | _ => failure

def value (depth : Nat) (cs : List Char) : Option (Document × List Char) :=
  match depth, cs with
  | depth + 1, '[' :: rest => do
    let (vs, rest) ← items (value depth) (rest.length + 1) rest
    pure (.list vs, rest)
  | depth + 1, '\x7b' :: rest =>
    match rest.dropWhile isSpace with
    | '\x7d' :: rest => some (.mapping [], rest)
    | rest => do
      let (es, rest) ← members (value depth) (rest.length + 1) [] rest
      pure (.mapping (documents es), rest)
  | _, cs => scalar? cs

structure State where
  entries : Entries
  table : List String

namespace State

def set (s : State) (path : List String) (d : Document) : Option State := do
  pure { s with entries := ← s.entries.within false (fun _ es => es.set path d) s.table .stated }

def line (s : State) (cs : List Char) : Option (State × List Char) :=
  match cs with
  | '[' :: '[' :: rest => do
    let (path, rest) ← name? rest
    pure (⟨← s.entries.openRow path, path⟩, ← after? "]]" rest)
  | '[' :: rest => do
    let (path, rest) ← name? rest
    pure (⟨← s.entries.openTable path, path⟩, ← after? "]" rest)
  | cs => do
    let (path, v, rest) ← entry (value depthLimit) cs
    pure (← s.set path v, rest)

def read : (fuel : Nat) → State → List Char → Option State
  | 0, _, _ => none
  | fuel + 1, s, cs =>
    match cs.dropWhile isSpace with
    | [] => some s
    | c :: cs =>
      if c = '#' || c = '\n' || c = '\r' then do read fuel s (← lineEnd (c :: cs))
      else do
        let (s, rest) ← s.line (c :: cs)
        read fuel s (← lineEnd rest)

end State

/-- The document of a text, which may begin with a byte order mark. -/
def read? (s : String) : Option Document := do
  let cs := match s.toList with
    | '\uFEFF' :: rest => rest
    | cs => cs
  let state ← State.read (cs.length + 1) ⟨[], []⟩ cs
  pure (.mapping (documents state.entries))

end Gauge.Toml
