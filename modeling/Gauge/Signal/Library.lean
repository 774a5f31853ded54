import Gauge.Operator
import Gauge.Signal.Remainder
import Gauge.Signal.Whole
import Gauge.Signal.Word

/-! # Operations on signals

What the standard operators and functions compute. Each of them answers a missing signal when an
operand is missing or out of its domain.
-/
namespace Gauge.Signal

def onPresent (f : Float → Float → Bool) (a b : Float) : Float :=
  if a.isNaN || b.isNaN then missing else ofBool (f a b)

def applyUnary : UnaryOp → Float → Float
  | .plus, v => v
  | .minus, v => -v
  | .not, v => if v.isNaN then missing else ofBool !holds v
  | .complement, v =>
    match toWord? v with
    | some w => ofWord (~~~w)
    | none => missing

/-- The standard meaning of a binary operator. A shift counts modulo 32, and a shift to the right
keeps the sign. -/
def applyBinary : BinaryOp → Float → Float → Float
  | .add => fun a b => a + b
  | .subtract => fun a b => a - b
  | .multiply => fun a b => a * b
  | .divide => fun a b => a / b
  | .modulo => remainder
  | .and => onPresent fun a b => holds a && holds b
  | .or => onPresent fun a b => holds a || holds b
  | .bitAnd => onWords fun a b => a &&& b
  | .bitOr => onWords fun a b => a ||| b
  | .bitXor => onWords fun a b => a ^^^ b
  | .shiftLeft => onWords fun a b => a <<< b
  | .shiftRight => onWords fun a b => a >>> b
  | .greater => onPresent fun a b => b < a
  | .greaterEqual => onPresent fun a b => b ≤ a
  | .less => onPresent fun a b => a < b
  | .lessEqual => onPresent fun a b => a ≤ b
  | .equal => onPresent fun a b => a == b
  | .notEqual => onPresent fun a b => a != b

def scale (v factor : Float) : Float := v * factor

/-- The signal moved into a range; missing when the bounds are reversed. -/
def clamp (v low high : Float) : Float :=
  if v.isNaN || low.isNaN || high.isNaN || high < low then missing
  else
    let raised := if v < low then low else v
    if high < raised then high else raised

def sign (v : Float) : Float :=
  if 0 < v then 1 else if v < 0 then -1 else if v == 0 then 0 else missing

/-- The line through two points, also outside of them; missing when they lie above one another. -/
def remap (v inLow inHigh outLow outHigh : Float) : Float :=
  if inHigh == inLow then missing
  else outLow + (v - inLow) * (outHigh - outLow) / (inHigh - inLow)

def smaller (a b : Float) : Float := if b < a then b else a

def larger (a b : Float) : Float := if a < b then b else a

/-- Combine the signals of a list from the left; missing for an empty list or a missing element. -/
def reduce (f : Float → Float → Float) : List Float → Float
  | [] => missing
  | v :: vs => if anyMissing (v :: vs) then missing else vs.foldl f v

def minimum (vs : List Float) : Float := reduce smaller vs

def maximum (vs : List Float) : Float := reduce larger vs

/-- The mean: the sum from the left, starting at negative zero, divided by the count. -/
def average (vs : List Float) : Float :=
  if vs.isEmpty then missing else vs.foldl (· + ·) (-0) / ofWhole vs.length

def between (low high fraction : Float) : Float :=
  if high < low then missing else low + fraction * (high - low)

def roundToSignal (v decimals : Float) : Float :=
  match toWord? decimals with
  | some d => roundTo v d.toInt
  | none => missing

def guarded (f : List Float → Float) (vs : List Float) : Float :=
  if anyMissing vs then missing else f vs

end Gauge.Signal
