import Gauge.Signal.Basic

/-! # Words

Bitwise operators work on 32-bit words. A signal is a word when it is a whole number in range; the
zeros of both signs are the word zero.
-/
namespace Gauge.Signal

def ofWhole : Int → Float
  | .ofNat n => n.toUInt64.toFloat
  | .negSucc n => -(n + 1).toUInt64.toFloat

def toWord? (v : Float) : Option Int32 :=
  let size := v.abs.toUInt64
  if size.toFloat == v.abs then
    if size ≤ 0x7FFFFFFF then some (Int32.ofInt (if isNegative v then -size.toNat else size.toNat))
    else if size = 0x80000000 && isNegative v then some Int32.minValue
    else none
  else none

def ofWord (w : Int32) : Float := ofWhole w.toInt

def onWords (f : Int32 → Int32 → Int32) (a b : Float) : Float :=
  match toWord? a, toWord? b with
  | some v, some w => ofWord (f v w)
  | _, _ => missing

end Gauge.Signal
