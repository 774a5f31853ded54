import Gauge.Clock

/-! # Stamps

Instants counted from the beginning of 1970, and the texts of instants that begin lines of output.
-/
namespace Gauge.Instant

/-- Year, month and day of a number of days from 1 March of the year zero. Years start in March, and
400 of them make an era of 146097 days. -/
def dateOfDay (days : Int) : Int × Nat × Nat :=
  let era := days / 146097
  let day := (days % 146097).toNat
  let yearOfEra := (day - day / 1460 + day / 36524 - day / 146096) / 365
  let dayOfYear := day - (365 * yearOfEra + yearOfEra / 4 - yearOfEra / 100)
  let monthsSinceMarch := (5 * dayOfYear + 2) / 153
  let month := if monthsSinceMarch < 10 then monthsSinceMarch + 3 else monthsSinceMarch - 9
  (era * 400 + yearOfEra + (if month ≤ 2 then 1 else 0), month,
    dayOfYear - (153 * monthsSinceMarch + 2) / 5 + 1)

def ofEpoch (seconds : Int) (nanosecond : Nat) : Instant :=
  let second := (seconds % 86400).toNat
  let (year, month, day) := dateOfDay (seconds / 86400 + dayNumber 1970 1 1)
  ⟨year, month, day, second / 3600, second / 60 % 60, second % 60, nanosecond, 0⟩

def padded (width n : Nat) : String :=
  let digits := Nat.toDigits 10 n
  String.ofList (List.replicate (width - digits.length) '0' ++ digits)

def secondText (t : Instant) : String :=
  String.intercalate ":" [padded 2 t.hour, padded 2 t.minute, padded 2 t.second]

def timeText (t : Instant) : String := t.secondText ++ "." ++ padded 3 (t.nanosecond / 1000000)

def stamp (t : Instant) : String :=
  String.intercalate "-" [padded 4 t.year.toNat, padded 2 t.month, padded 2 t.day] ++ "T" ++
    t.secondText ++ "." ++ padded 6 (t.nanosecond / 1000) ++ "Z"

end Gauge.Instant
