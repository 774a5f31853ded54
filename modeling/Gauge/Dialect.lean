import Std.Data.TreeMap
import Gauge.Operator
import Gauge.Text.Case
import Gauge.Text.Quoted

/-! # Dialects

A dialect gives the operators and functions of formulas their meaning, as far as it knows them. A
meaning may have effects of a monad `m`. The latest definition of a name or operator counts, and the
case of letters in names does not.
-/
namespace Gauge

/-- The meanings of operators and, by lowercase name, of functions. -/
structure Dialect (m : Type → Type) where
  unary : UnaryOp → Option (Float → m Float)
  binary : BinaryOp → Option (Float → Float → m Float)
  functions : Std.TreeMap String (List Float → m Float)

namespace Dialect

variable {m : Type → Type}

def empty : Dialect m := ⟨fun _ => none, fun _ => none, ∅⟩

instance : Inhabited (Dialect m) := ⟨empty⟩

def withUnary (d : Dialect m) (op : UnaryOp) (meaning : Float → m Float) : Dialect m :=
  { d with unary := fun o => if o = op then some meaning else d.unary o }

def withBinary (d : Dialect m) (op : BinaryOp) (meaning : Float → Float → m Float) : Dialect m :=
  { d with binary := fun o => if o = op then some meaning else d.binary o }

def withFunction (d : Dialect m) (name : String) (meaning : List Float → m Float) : Dialect m :=
  { d with functions := d.functions.insert (Text.lowercase name) meaning }

/-- The meaning of the function with exactly this name; the names in formulas are lowercase. -/
def function? (d : Dialect m) (name : String) : Option (List Float → m Float) := d.functions[name]?

def hasFunction (d : Dialect m) (name : String) : Bool := d.functions.contains (Text.lowercase name)

def functionNames (d : Dialect m) : List String := d.functions.keys

def describe (d : Dialect m) : String :=
  s!"Registry \x7b unary: {(UnaryOp.all.filter fun op => (d.unary op).isSome).length}, " ++
    s!"binary: {(BinaryOp.all.filter fun op => (d.binary op).isSome).length}, functions: [" ++
    String.intercalate ", " (d.functionNames.map Text.quoted) ++ "] \x7d"

end Dialect
end Gauge
