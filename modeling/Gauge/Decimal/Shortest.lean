import Gauge.Decimal.Reader

/-! # Writing decimals

The shortest decimal of a double is the one with the fewest digits that reads back as it; of two with
as few digits the nearer one, of two as near the larger. It is written positionally, without exponent.
-/
namespace Gauge.Decimal

open Float.Model

structure Scaled where
  digits : Nat
  scale : Int
  deriving DecidableEq, Repr

def Scaled.toFloat (d : Scaled) : Float := nearest d.digits d.scale

def ratio (m : Nat) (q : Int) : Nat × Nat := (m <<< q.toNat, 1 <<< (-q).toNat)

def scaleDown (num den : Nat) (k : Int) : Nat × Nat := (num * Nat.pow 10 (-k).toNat, den * Nat.pow 10 k.toNat)

/-- The number of digits before the point of `num / den`: zero or less when the first nonzero digit
stands after the point. The estimate from the binary length is off by one at most. -/
def leading (num den : Nat) : Int :=
  let guess := ((num.log2 : Int) - den.log2) * 30103 / 100000
  let (n, d) := scaleDown num den guess
  if n < d then guess else if n < 10 * d then guess + 1 else guess + 2

def neighbours (num den : Nat) (k : Int) : List Scaled :=
  let (n, d) := scaleDown num den k
  let below : Scaled := ⟨n / d, k⟩
  let above : Scaled := ⟨n / d + 1, k⟩
  if 2 * (n % d) < d then [below, above] else [above, below]

def exact (m : Nat) (q : Int) : Scaled :=
  if 0 ≤ q then ⟨m <<< q.toNat, 0⟩ else ⟨m * Nat.pow 5 (-q).toNat, q⟩

def wholeDigits (n : Nat) : List Char := Nat.toDigits 10 n

def Scaled.stripZeros (d : Scaled) : Scaled :=
  let ds := wholeDigits d.digits
  let zeros := (ds.reverse.takeWhile (· = '0')).length
  ⟨digitsValue 0 (ds.take (ds.length - zeros)), d.scale + zeros⟩

/-- Among the neighbours with one digit, two digits and so on up to seventeen, the first that reads
back as `v = m · 2^q`; every digit of it, should none. -/
def shortest (v : Float) (m : Nat) (q : Int) : Scaled :=
  let (num, den) := ratio m q
  let top := leading num den
  let candidates := (List.range 17).flatMap fun n => neighbours num den (top - (n + 1 : Nat))
  ((candidates.find? fun d => d.toFloat == v).getD (exact m q)).stripZeros

def Scaled.plain (d : Scaled) : List Char :=
  let ds := wholeDigits d.digits
  if 0 ≤ d.scale then ds ++ List.replicate d.scale.toNat '0'
  else
    let places := (-d.scale).toNat
    let padded := List.replicate (places + 1 - ds.length) '0' ++ ds
    padded.take (padded.length - places) ++ '.' :: padded.drop (padded.length - places)

def signed (negative : Bool) (body : List Char) : String :=
  String.ofList (if negative then '-' :: body else body)

/-- Text of a signal: its shortest decimal, `-0` for negative zero, `inf` and `NaN`. -/
def text (v : Float) : String :=
  match v.abs.toModel.unpack with
  | .notANumber => "NaN"
  | .infinity _ => signed (Signal.isNegative v) "inf".toList
  | .zero _ => signed (Signal.isNegative v) ['0']
  | .finite _ m q _ => signed (Signal.isNegative v) (shortest v.abs m q).plain

def Scaled.scientific (d : Scaled) : List Char :=
  let ds := wholeDigits d.digits
  let power := d.scale + (ds.length : Int) - 1
  let tail := ds.drop 1
  ds.take 1 ++ (if tail.isEmpty then [] else '.' :: tail) ++ 'e' :: (toString power).toList

/-- Text of a signal in a log record: a whole number keeps one place, and a magnitude of 10¹⁶ or more
or below 10⁻⁴ has an exponent. -/
def recordText (v : Float) : String :=
  match v.abs.toModel.unpack with
  | .notANumber => "NaN"
  | .infinity _ => signed (Signal.isNegative v) "inf".toList
  | .zero _ => signed (Signal.isNegative v) "0.0".toList
  | .finite _ m q _ =>
    let d := shortest v.abs m q
    signed (Signal.isNegative v)
      (if nearest 1 16 ≤ v.abs || v.abs < nearest 1 (-4) then d.scientific
       else if 0 ≤ d.scale then d.plain ++ ['.', '0'] else d.plain)

end Gauge.Decimal
