import Gauge.Settings.Document
import Gauge.Settings.Yaml.Alias

/-! # YAML documents

The values of nodes. A plain scalar without a tag is null, a boolean or a number if it is written like
one; a quoted scalar and one with any other tag is a text. Values with tags of their own are refused.
-/
namespace Gauge.Yaml

open Lexical (radix?)

def isPaddedNumber (cs : List Char) : Bool :=
  match cs with
  | '-' :: '0' :: c :: rest => (c :: rest).all Char.isDigit
  | '+' :: '0' :: c :: rest => (c :: rest).all Char.isDigit
  | '0' :: c :: rest => (c :: rest).all Char.isDigit
  | _ => false

def unsigned? (cs : List Char) : Option Nat :=
  match cs with
  | '0' :: 'x' :: rest => radix? 16 rest
  | '0' :: 'o' :: rest => radix? 8 rest
  | '0' :: 'b' :: rest => radix? 2 rest
  | _ => radix? 10 cs

def whole? (cs : List Char) : Option Int := do
  if isPaddedNumber cs then none
  match cs with
  | '-' :: rest =>
    let n ← unsigned? rest
    if n ≤ Nat.pow 2 127 then some (-n) else none
  | '+' :: rest =>
    let n ← unsigned? rest
    if n < Nat.pow 2 128 then some n else none
  | _ =>
    let n ← unsigned? cs
    if n < Nat.pow 2 128 then some n else none

def real? (cs : List Char) : Option Float :=
  let s := String.ofList cs
  let unplussed := if s.startsWith "+" then String.ofList (cs.drop 1) else s
  if unplussed ∈ [".inf", ".Inf", ".INF"] then some (1 / 0)
  else if s ∈ ["-.inf", "-.Inf", "-.INF"] then some (-1 / 0)
  else if s ∈ [".nan", ".NaN", ".NAN"] then some Signal.missing
  else if s.startsWith "+" && (unplussed.startsWith "+" || unplussed.startsWith "-") then none
  else match Decimal.number? unplussed with
    | some v => if v.isFinite then some v else none
    | none => none

def isNullWord (s : String) : Bool := s ∈ ["~", "null", "Null", "NULL"]

def bool? (s : String) : Option Bool :=
  if s ∈ ["true", "True", "TRUE"] then some true
  else if s ∈ ["false", "False", "FALSE"] then some false
  else none

def plain (s : String) : Document :=
  if s.isEmpty || isNullWord s then .null
  else match bool? s with
    | some b => .bool b
    | none =>
      match whole? s.toList with
      | some n => .whole n
      | none =>
        match if isPaddedNumber s.toList then none else real? s.toList with
        | some v => .real v
        | none => .text s

def isForeign (tag : Option String) : Bool := tag.any (·.startsWith "!")

def scalar? (tag : Option String) (text : String) (isPlain : Bool) : Option Document :=
  match tag with
  | none => some (if isPlain then plain text else .text text)
  | some "tag:yaml.org,2002:bool" => (bool? text).map .bool
  | some "tag:yaml.org,2002:int" => (whole? text.toList).map .whole
  | some "tag:yaml.org,2002:float" => (real? text.toList).map .real
  | some "tag:yaml.org,2002:null" => if isNullWord text then some .null else none
  | some _ => if isForeign tag then none else some (.text text)

namespace Node

structure Aliases where
  target? : Nat → Option (Node Nat)
  most : Nat

/-- The node itself or the one that it stands for. The state counts the aliases that were followed. -/
def follow (as : Aliases) : Node Nat → StateT Nat Option (Node Nat)
  | .alias a => do
    let followed ← get
    if as.most ≤ followed then failure
    set (followed + 1)
    as.target? a
  | n => pure n

def name (as : Aliases) (n : Node Nat) : StateT Nat Option String := do
  match ← follow as n with
  | .scalar _ text _ => pure text
  | _ => failure

def document (as : Aliases) (depth : Nat) (n : Node Nat) : StateT Nat Option Document := do
  match ← follow as n with
  | .alias _ => failure
  | .scalar p text isPlain => scalar? p.tag text isPlain
  | .sequence p items =>
    match depth with
    | 0 => failure
    | depth + 1 =>
      if isForeign p.tag then failure
      pure (.list (← items.mapM (document as depth)))
  | .mapping p entries =>
    match depth with
    | 0 => failure
    | depth + 1 =>
      if isForeign p.tag then failure
      pure (.ofEntries (← entries.mapM fun e => do pure (← name as e.1, ← document as depth e.2)))

def depthLimit : Nat := 128

/-- The mapping of a whole document, where nothing stands for an empty one. No more than a hundred
aliases are followed for each part of the document. -/
def root? (n : Node String) : Option Document := do
  let (n, _) ← n.number? []
  let known := n.targets.reverse
  let as : Aliases := ⟨fun a => known.lookup a, 100 * n.size⟩
  match n with
  | .mapping p entries =>
    (document as depthLimit (.mapping { p with tag := none } entries)).run' 0
  | .scalar _ "" true => pure (.mapping [])
  | _ => none

end Node

def read? (s : String) : Option Document := do (← Node.ofTokens? (← Token.ofText? s)).root?

end Gauge.Yaml
