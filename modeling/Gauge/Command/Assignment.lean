import Gauge.Decimal.Reader
import Gauge.Text.Blank

/-! # Assignments

An argument `name=value` gives a variable its signal. Blanks around name and value do not count.
-/
namespace Gauge

inductive AssignmentError where
  | withoutSign (text : String)
  | withoutName (text : String)
  | withoutValue (name : String)
  | malformedValue (name : String)
  deriving DecidableEq, Repr

def AssignmentError.message : AssignmentError → String
  | .withoutSign text => s!"expected name=value, got '{text}'"
  | .withoutName text => s!"missing variable name in '{text}'"
  | .withoutValue name => s!"invalid value for '{name}': cannot parse float from empty string"
  | .malformedValue name => s!"invalid value for '{name}': invalid float literal"

structure Assignment where
  name : String
  value : Float

/-- The assignment of a text; its name ends at the first equals sign. -/
def Assignment.parse (s : String) : Except AssignmentError Assignment :=
  match s.toList.dropWhile (· != '=') with
  | [] => .error (.withoutSign s)
  | _ :: after =>
    let name := Text.trim (String.ofList (s.toList.takeWhile (· != '=')))
    let value := Text.trim (String.ofList after)
    if name = "" then .error (.withoutName s)
    else if value = "" then .error (.withoutValue name)
    else match Decimal.number? value with
      | some v => .ok ⟨name, v⟩
      | none => .error (.malformedValue name)

end Gauge
