import Gauge.Signal.Basic

/-! # Reading decimals

A numeral is a run of digits with at most one point among or beside them. Its signal is the double
nearest to its value, a tie going to the even neighbour; a value out of range is infinite.
-/
namespace Gauge.Decimal

/-- The double nearest to `m · 10ᵉ`. -/
def nearest (m : Nat) (e : Int) : Float := .ofModel (.ofScientific m e)

def digitValue (c : Char) : Nat := c.toNat - '0'.toNat

def digitsValue (start : Nat) (cs : List Char) : Nat :=
  cs.foldl (fun n c => 10 * n + digitValue c) start

structure Split where
  whole : List Char
  fraction : List Char
  rest : List Char

def split (cs : List Char) : Split :=
  let whole := cs.takeWhile Char.isDigit
  match cs.dropWhile Char.isDigit with
  | '.' :: after => ⟨whole, after.takeWhile Char.isDigit, after.dropWhile Char.isDigit⟩
  | rest => ⟨whole, [], rest⟩

def Split.hasDigit (s : Split) : Bool := !s.whole.isEmpty || !s.fraction.isEmpty

def Split.value (s : Split) (e : Int) : Float :=
  nearest (digitsValue (digitsValue 0 s.whole) s.fraction) (e - s.fraction.length)

/-- The signal of a numeral: only digits, at least one, and at most one point. -/
def numeral? (cs : List Char) : Option Float :=
  let s := split cs
  if s.hasDigit && s.rest.isEmpty then some (s.value 0) else none

def exponent? : List Char → Option Int
  | [] => some 0
  | c :: cs =>
    if c = 'e' || c = 'E' then
      let (negative, digits) := match cs with
        | '-' :: ds => (true, ds)
        | '+' :: ds => (false, ds)
        | ds => (false, ds)
      if !digits.isEmpty && digits.all Char.isDigit then
        let n : Int := digitsValue 0 digits
        some (if negative then -n else n)
      else none
    else none

def namedValue? (s : String) : Option Float :=
  if s = "inf" || s = "infinity" then some (Float.ofBits 0x7FF0000000000000)
  else if s = "nan" then some Signal.missing
  else none

def unsigned? (cs : List Char) : Option Float :=
  match namedValue? (String.ofList (cs.map Char.toLower)) with
  | some v => some v
  | none =>
    let s := split cs
    if s.hasDigit then (exponent? s.rest).map s.value else none

def number? (s : String) : Option Float :=
  match s.toList with
  | '-' :: cs => (unsigned? cs).map fun v => -v
  | '+' :: cs => unsigned? cs
  | cs => unsigned? cs

end Gauge.Decimal
