import Gauge.Settings.Document

/-! # Tables of TOML documents

A table is stated once, by its heading or as a row of an array of tables. Until then it may have been
passed on the way to the heading of a table within it. A table that dotted names made belongs to them and
is never stated. A value stays as it is.
-/
namespace Gauge.Toml

inductive Origin where
  | stated
  | passed
  | dotted
  deriving DecidableEq, Repr

inductive Item where
  | value (d : Document)
  | table (origin : Origin) (entries : List (String × Item))
  | tables (rows : List (List (String × Item)))

abbrev Entries := List (String × Item)

namespace Entries

def update (name : String) (f : Option Item → Option Item) : Entries → Option Entries
  | [] => do pure [(name, ← f none)]
  | (n, i) :: rest =>
    if n = name then do pure ((n, ← f (some i)) :: rest)
    else do pure ((n, i) :: (← update name f rest))

/-- Change the table at a path. An array of tables stands for its latest row, and missing tables are made.
Dotted names do not lead through a table that is stated. -/
def within (byDots : Bool) (f : Origin → Entries → Option Entries) :
    List String → Origin → Entries → Option Entries
  | [], origin, es => f origin es
  | name :: path, _, es => es.update name fun
    | none =>
      let origin : Origin := if byDots then .dotted else .passed
      (within byDots f path origin []).map (.table origin ·)
    | some (.table origin es) =>
      if byDots && origin = .stated then none
      else (within byDots f path origin es).map (.table origin ·)
    | some (.tables (row :: rows)) =>
      (within byDots f path .stated row).map fun row => .tables (row :: rows)
    | some _ => none

/-- Set a dotted name, whose last part is new in its table. Other tables than those of dotted names take
no values from them. -/
def set (path : List String) (d : Document) (es : Entries) : Option Entries := do
  let names := path.dropLast
  let name ← path.getLast?
  within true (fun origin es =>
    if names.isEmpty || origin = .dotted then
      es.update name fun
        | none => some (.value d)
        | some _ => none
    else none) names .stated es

def openTable (path : List String) (es : Entries) : Option Entries := do
  let name ← path.getLast?
  within false (fun _ es => es.update name fun
    | none => some (.table .stated [])
    | some (.table .passed es) => some (.table .stated es)
    | some _ => none) path.dropLast .stated es

def openRow (path : List String) (es : Entries) : Option Entries := do
  let name ← path.getLast?
  within false (fun _ es => es.update name fun
    | none => some (.tables [[]])
    | some (.tables rows) => some (.tables ([] :: rows))
    | some _ => none) path.dropLast .stated es

end Entries

mutual

def Item.document : Item → Document
  | .value d => d
  | .table _ es => .mapping (documents es)
  | .tables rows => .list (rowDocuments rows).reverse

def documents : List (String × Item) → List (String × Document)
  | [] => []
  | (name, i) :: rest => (name, i.document) :: documents rest

def rowDocuments : List (List (String × Item)) → List Document
  | [] => []
  | es :: rest => .mapping (documents es) :: rowDocuments rest

end

end Gauge.Toml
