import Gauge.Dialect
import Gauge.Signal.Library

/-! # The standard dialect

All operators, and the functions `abs avg ceil clamp floor max min pow rand remap round scale sign
sqrt`. A function with a fixed number of arguments answers a missing signal to any other number of
them, and every function does so to a missing argument.
-/
namespace Gauge.Dialect

variable {m : Type → Type}

def standardFunctions : List (String × (List Float → Float)) :=
  [("scale", Signal.guarded fun | [v, factor] => Signal.scale v factor | _ => Signal.missing),
   ("clamp", Signal.guarded fun | [v, low, high] => Signal.clamp v low high | _ => Signal.missing),
   ("abs", Signal.guarded fun | [v] => v.abs | _ => Signal.missing),
   ("sign", Signal.guarded fun | [v] => Signal.sign v | _ => Signal.missing),
   ("sqrt", Signal.guarded fun | [v] => v.sqrt | _ => Signal.missing),
   ("floor", Signal.guarded fun | [v] => Signal.floor v | _ => Signal.missing),
   ("ceil", Signal.guarded fun | [v] => Signal.ceil v | _ => Signal.missing),
   ("pow", Signal.guarded fun | [base, exponent] => base.pow exponent | _ => Signal.missing),
   ("remap", Signal.guarded fun
      | [v, inLow, inHigh, outLow, outHigh] => Signal.remap v inLow inHigh outLow outHigh
      | _ => Signal.missing),
   ("round", Signal.guarded fun
      | [v] => Signal.round v
      | [v, decimals] => Signal.roundToSignal v decimals
      | _ => Signal.missing),
   ("min", Signal.minimum),
   ("max", Signal.maximum),
   ("avg", Signal.average)]

/-- The function `rand`, given a source of fractions from zero up to but not one: without arguments
such a fraction, with two a point of their range. -/
def random [Monad m] (fraction : m Float) (vs : List Float) : m Float :=
  if Signal.anyMissing vs then pure Signal.missing
  else match vs with
    | [] => fraction
    | [low, high] => do
      if high < low then pure Signal.missing
      else return Signal.between low high (← fraction)
    | _ => pure Signal.missing

def withOperators [Pure m] (d : Dialect m) : Dialect m :=
  { d with
    unary := fun op => some fun v => pure (Signal.applyUnary op v)
    binary := fun op => some fun a b => pure (Signal.applyBinary op a b) }

def withFunctions [Monad m] (fraction : m Float) (d : Dialect m) : Dialect m :=
  (standardFunctions.foldl (fun d f => d.withFunction f.1 fun vs => pure (f.2 vs)) d).withFunction
    "rand" (random fraction)

def operators [Pure m] : Dialect m := empty.withOperators

def standard [Monad m] (fraction : m Float) : Dialect m := operators.withFunctions fraction

end Gauge.Dialect
