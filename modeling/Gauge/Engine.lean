import Gauge.Formula.Assembler
import Gauge.Machine

/-! # Engines

An engine is a machine together with a dialect. It evaluates formulas, and texts as well.
-/
namespace Gauge

inductive FormulaError where
  | unreadable (error : SyntaxError)
  | faulty (fault : Fault)
  deriving DecidableEq, Repr

def FormulaError.message : FormulaError → String
  | .unreadable error => "Parse error: " ++ error.message
  | .faulty fault => "Evaluation error: " ++ fault.message

structure Engine (m : Type → Type) where
  dialect : Dialect m
  machine : Machine

namespace Engine

variable {m : Type → Type} [Monad m]

def ofDialect (dialect : Dialect m) : Engine m := ⟨dialect, .fresh⟩

def evaluate (e : Engine m) (source : Source m) (f : Formula) :
    m (Except Fault Float × Engine m) := do
  let (result, machine) ← e.machine.evaluate e.dialect source f
  pure (result, { e with machine })

def evaluateText (e : Engine m) (source : Source m) (text : String) :
    m (Except FormulaError Float × Engine m) := do
  match Formula.parse text with
  | .error error => pure (.error (.unreadable error), e)
  | .ok f =>
    let (result, e) ← e.evaluate source f
    pure (result.mapError .faulty, e)

end Engine
end Gauge
