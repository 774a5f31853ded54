import Gauge.Decimal.Reader
import Gauge.Log.Pattern
import Gauge.Text.Blank

/-! # Log filters

A filter is a list of directives with commas between. A directive limits how detailed records may be:
those of a part of the program, those with a field of some name, those inside a span, or all. Of the
directives about a record the most specific one counts, and of two alike the later one. A record that
no directive is about is not written.
-/
namespace Gauge

inductive Level where
  | error
  | warn
  | info
  | debug
  | trace
  deriving DecidableEq, Repr

namespace Level

/-- The detail of a level: one for the most urgent records and five for the least. -/
def detail : Level → Nat
  | .error => 1
  | .warn => 2
  | .info => 3
  | .debug => 4
  | .trace => 5

def mark : Level → String
  | .error => "[ERROR]"
  | .warn => "[WARN]"
  | .info => "[INFO]"
  | .debug => "[DEBUG]"
  | .trace => "[TRACE]"

end Level

inductive FilterError where
  | malformed
  | unknownLimit
  | badPattern
  deriving DecidableEq, Repr

def FilterError.message : FilterError → String
  | .malformed => "invalid filter directive"
  | .unknownLimit => "error parsing level filter: expected one of \"off\", \"error\", \"warn\", " ++
      "\"info\", \"debug\", \"trace\", or a number 0-5"
  | .badPattern => "invalid field filter: error building NFA"

/-- Records of the parts of a program whose paths begin with `target`, inside a span and with a field
where these are named, are written up to a detail; zero is silence. -/
structure Directive where
  target : Option String := none
  span : Option String := none
  field : Option String := none
  value : Option String := none
  limit : Nat := Level.trace.detail
  deriving DecidableEq, Repr

namespace Directive

def limit? (s : String) : Option Nat :=
  let digits := match s.toList with
    | '+' :: digits => digits
    | digits => digits
  match Lexical.radix? 10 digits with
  | some n => if n ≤ 5 then some n else none
  | none =>
    match s.map Char.toLower with
    | "off" => some 0
    | "error" => some 1
    | "warn" => some 2
    | "info" => some 3
    | "debug" => some 4
    | "trace" => some 5
    | _ => none

def limited (d : Directive) (s : String) : Except FilterError Directive :=
  if s.isEmpty then .ok d
  else match limit? s with
    | some limit => .ok { d with limit }
    | none => .error .unknownLimit

def startsPath (c : Char) : Bool := Text.isAlphanumeric c || c = '_' || c = ':' || c = '-'

def size (cs : List Char) : Nat := cs.foldl (fun n c => n + c.utf8Size) 0

def slice (start stop : Nat) (offset : Nat) : List Char → List Char
  | [] => []
  | c :: rest =>
    let after := slice start stop (offset + c.utf8Size) rest
    if start ≤ offset && offset < stop then c :: after else after

def piece (s : String) (start stop : Nat) : String := String.ofList (slice start stop 0 s.toList)

def tail (s : String) (start : Nat) : String := piece s start s.utf8ByteSize

def closed (s : String) (d : Directive) (offset : Nat) : List Char → Except FilterError Directive
  | [] => .ok d
  | '=' :: _ => d.limited (tail s (offset + 1))
  | _ => .error .malformed

def isValue (s : String) : Bool :=
  s = "true" || s = "false" || (Decimal.number? s).isSome || Pattern.isWellFormed s

/-- A span from the byte after its opening bracket on: a name, and a field between braces that may
have a value. Without a field the name counts even if it is empty. -/
def bracketed (s : String) (d : Directive) (offset : Nat) (cs : List Char) :
    Except FilterError Directive :=
  let name := cs.takeWhile fun c => c != ']' && c != '\x7b'
  let stop := offset + size name
  match cs.drop name.length with
  | ']' :: rest => closed s { d with span := some (piece s offset stop) } (stop + 1) rest
  | '\x7b' :: rest =>
    let body := rest.takeWhile (· != '\x7d')
    let finish := stop + 1 + size body
    let parts := (piece s (stop + 1) finish).splitOn "="
    match rest.drop body.length with
    | '\x7d' :: rest =>
      if body.isEmpty then .error .malformed
      else if parts[1]?.any fun v => !isValue v then .error .badPattern
      else
        match rest with
        | ']' :: rest =>
          closed s { d with
            span := if name.isEmpty then none else some (piece s offset stop)
            field := parts.head?
            value := parts[1]? } (finish + 2) rest
        | _ => .error .malformed
    | _ => .error .malformed
  | _ => .error .malformed

/-- A directive is a limit alone, or a path, a span, or both, and then maybe a limit after an equals
sign. Where its pieces begin and end is found in the text without the blanks at its ends; the pieces
are those of the text with its blanks. -/
def parse (s : String) : Except FilterError Directive :=
  match Text.stripChars Text.isBlank s.toList with
  | [] => .error .malformed
  | '[' :: rest => bracketed s {} 1 rest
  | c :: rest =>
    if startsPath c then
      let path := c :: rest.takeWhile fun c => c != '=' && c != '['
      let stop := size path
      let d : Directive := { target := some (piece s 0 stop) }
      match (c :: rest).drop path.length with
      | [] =>
        match limit? s with
        | some limit => .ok { limit }
        | none => .ok { target := some s }
      | '=' :: _ => d.limited (tail s (stop + 1))
      | _ :: rest => bracketed s d (stop + 1) rest
    else .error .malformed

/-- The directive can be about a record: no record is inside a span, and none shows the values of its
fields. -/
def aboutRecords (d : Directive) : Bool := d.span.isNone && d.value.isNone

def covers (d : Directive) (path : String) (fields : List String) : Bool :=
  d.target.all (fun target => target.toList.isPrefixOf path.toList) &&
    d.field.all fun name => name ∈ fields

/-- How specific a directive is: by the length of its path, and then by whether it names a field. -/
def weight (d : Directive) : Nat × Nat :=
  (match d.target with
    | some target => target.utf8ByteSize + 1
    | none => 0,
   if d.field.isSome then 1 else 0)

/-- The other directive counts more: it is more specific, or as specific with a field of the same or a
later name. -/
def yieldsTo (d other : Directive) : Bool :=
  if d.weight.1 = other.weight.1 then
    if d.weight.2 = other.weight.2 then d.field.getD "" ≤ other.field.getD ""
    else d.weight.2 < other.weight.2
  else d.weight.1 < other.weight.1

end Directive

structure Filter where
  directives : List Directive
  deriving DecidableEq, Repr

namespace Filter

/-- The filter of a text; without any directive only the most urgent records are written. -/
def parse (s : String) : Except FilterError Filter := do
  let directives ← ((s.splitOn ",").filter (· != "")).mapM Directive.parse
  pure ⟨if directives.isEmpty then [{ limit := Level.error.detail }] else directives⟩

def prefer : Option Directive → Directive → Option Directive
  | none, d => some d
  | some c, d => if c.yieldsTo d then some d else some c

def directive? (f : Filter) (path : String) (fields : List String) : Option Directive :=
  (f.directives.filter fun d => d.aboutRecords && d.covers path fields).foldl prefer none

def admits (f : Filter) (path : String) (level : Level) (fields : List String) : Bool :=
  match f.directive? path fields with
  | some d => level.detail ≤ d.limit
  | none => false

end Filter
end Gauge
