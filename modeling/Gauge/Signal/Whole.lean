import Gauge.Signal.Basic

/-! # Whole numbers among the signals

Rounding to a whole number or to a number of decimals, and integer powers. A double of magnitude
2⁵² or more is whole already; below that the units fit a machine word, and the rest is exact.
-/
namespace Gauge.Signal

def wholeBound : Float := Float.ofBits 0x4330000000000000

/-- Keep the sign of `v` and round its magnitude down, or up where `carry` says so of the whole part
and the magnitude. -/
def roundBy (carry : Float → Float → Bool) (v : Float) : Float :=
  if v.abs < wholeBound then
    let whole := v.abs.toUInt64.toFloat
    withSignOf v (if carry whole v.abs then whole + 1 else whole)
  else v

def floor (v : Float) : Float := roundBy (fun whole size => isNegative v && whole < size) v

def ceil (v : Float) : Float := roundBy (fun whole size => !isNegative v && whole < size) v

/-- The nearest whole number; a half goes away from zero. -/
def round (v : Float) : Float := roundBy (fun whole size => 0.5 ≤ size - whole) v

/-- Square `a` and multiply `r` by it where the next bit of `n` is set, for `bits` bits. -/
def powerLoop : (bits : Nat) → (n : Nat) → (a r : Float) → Float
  | 0, _, _, r => r
  | bits + 1, n, a, r => powerLoop bits (n / 2) (a * a) (if n % 2 = 1 then r * a else r)

def power (a : Float) (n : Nat) : Float := powerLoop (n.log2 + 1) n a 1

def powerInt (a : Float) (d : Int) : Float :=
  if d < 0 then 1 / power a d.natAbs else power a d.natAbs

def roundTo (v : Float) (d : Int) : Float := round (v * powerInt 10 d) / powerInt 10 d

end Gauge.Signal
