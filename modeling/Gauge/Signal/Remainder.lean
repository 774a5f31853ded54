import Gauge.Signal.Basic

/-! # Remainders

The exact remainder of a truncating division: it has the sign of the dividend and a magnitude below
that of the divisor, so it never needs rounding.
-/
namespace Gauge.Signal

open Float.Model Float.Model.UnpackedFloat

/-- The remainder of `a` divided by `b`; missing for an infinite `a` or a zero `b`. -/
def remainder (a b : Float) : Float :=
  match a.toModel.unpack, b.toModel.unpack with
  | .finite sign m e _, .finite _ n f _ =>
    let unit := min e f
    let rest := (m <<< (e - unit).toNat) % (n <<< (f - unit).toNat)
    .ofModel (.pack (normalize Format.binary64 (sign.apply rest) unit sign))
  | .finite .., .infinity _ => a
  | .zero _, .finite .. => a
  | .zero _, .infinity _ => a
  | _, _ => missing

def remainderUp (a b : Float) : Float :=
  let r := remainder a b
  if r < 0 then r + b.abs else r

end Gauge.Signal
