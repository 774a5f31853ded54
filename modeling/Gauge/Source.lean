import Std.Data.TreeMap
import Gauge.Signal.Basic
import Gauge.Text.Case

/-! # Sources of signals

A source answers the names of variables with their signals, and a name that it does not know with a
missing one. A table of named signals is such a source. Its names differ in more than letter case: a
name with an uppercase character is stored and looked up in lowercase.
-/
namespace Gauge

abbrev Source (m : Type → Type) := String → m Float

namespace Source

variable {m : Type → Type}

def none [Pure m] : Source m := fun _ => pure Signal.missing

def orElse [Monad m] (first second : Source m) : Source m := fun name => do
  let v ← first name
  if v.isNaN then second name else pure v

end Source

structure Table where
  entries : Std.TreeMap String Float

namespace Table

/-- The form in which a name is stored: lowercase if some character of it is uppercase. -/
def fold (name : String) : String :=
  if name.toList.any Text.isUppercase then Text.lowercase name else name

def empty : Table := ⟨∅⟩

instance : Inhabited Table := ⟨empty⟩

def get? (t : Table) (name : String) : Option Float := t.entries[fold name]?

def set (t : Table) (name : String) (v : Float) : Table := ⟨t.entries.insert (fold name) v⟩

def erase (t : Table) (name : String) : Table := ⟨t.entries.erase (fold name)⟩

def replace (t : Table) (name : String) (v : Float) : Option Float × Table :=
  (t.entries[fold name]?, t.set name v)

def remove (t : Table) (name : String) : Option Float × Table :=
  (t.entries[fold name]?, t.erase name)

def size (t : Table) : Nat := t.entries.size

def isEmpty (t : Table) : Bool := t.entries.isEmpty

def extend (t : Table) (pairs : List (String × Float)) : Table :=
  pairs.foldl (fun t p => t.set p.1 p.2) t

/-- The table of a list of names and signals; later ones replace earlier ones. -/
def ofList (pairs : List (String × Float)) : Table := empty.extend pairs

/-- The stored names and signals, the names in ascending order. -/
def toList (t : Table) : List (String × Float) := t.entries.toList

def agrees (t u : Table) : Bool :=
  t.toList.length == u.toList.length &&
    (t.toList.zip u.toList).all fun p => p.1.1 == p.2.1 && p.1.2 == p.2.2

def lookup (t : Table) (name : String) : Float := (t.get? name).getD Signal.missing

def source {m : Type → Type} [Pure m] (t : Table) : Source m := fun name => pure (t.lookup name)

end Table
end Gauge
