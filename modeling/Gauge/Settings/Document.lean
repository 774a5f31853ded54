import Gauge.Decimal.Reader

/-! # Documents

The value of a configuration document, whatever its format: scalars, lists, and mappings from names to
values. In a mapping a later entry replaces an earlier one of the same name.
-/
namespace Gauge

inductive Document where
  | null
  | bool (b : Bool)
  | whole (n : Int)
  | real (v : Float)
  | text (s : String)
  | list (items : List Document)
  | mapping (entries : List (String × Document))
  deriving Inhabited

namespace Document

def putEntry (name : String) (value : Document) :
    List (String × Document) → List (String × Document)
  | [] => [(name, value)]
  | (n, v) :: rest => if n = name then (n, value) :: rest else (n, v) :: putEntry name value rest

def ofEntries (entries : List (String × Document)) : Document :=
  .mapping (entries.foldl (fun acc e => putEntry e.1 e.2 acc) [])

def at? (name : String) (entries : List (String × Document)) : Option Document :=
  entries.lookup name

mutual

/-- Lay a document over another: mappings are merged entry by entry, anything else replaces what is
below. -/
def overlay (below : Document) : Document → Document
  | .mapping above =>
    match below with
    | .mapping entries => .mapping (overlayEntries entries above)
    | _ => .mapping above
  | above => above

def overlayEntries (below : List (String × Document)) :
    List (String × Document) → List (String × Document)
  | [] => below
  | (name, value) :: rest =>
    overlayEntries (putEntry name (match at? name below with
      | some d => overlay d value
      | none => value) below) rest

end

/-- Change the value at a path of names. A list stands for its last element. Missing mappings are
made; `none` when the path leads through a scalar or the change fails. -/
def change (f : Option Document → Option Document) : List String → Document → Option Document
  | [], d => f (some d)
  | name :: path, .mapping entries => do
    let value ← match at? name entries with
      | some d => change f path d
      | none => if path.isEmpty then f none else change f path (.mapping [])
    pure (.mapping (putEntry name value entries))
  | name :: path, .list items =>
    match items.reverse with
    | .mapping entries :: before => do
      let value ← match at? name entries with
        | some d => change f path d
        | none => if path.isEmpty then f none else change f path (.mapping [])
      pure (.list (Document.mapping (putEntry name value entries) :: before).reverse)
    | _ => none
  | _, _ => none

end Document
end Gauge
