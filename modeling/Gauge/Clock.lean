import Gauge.Signal.Word
import Gauge.Source

/-! # Clocks

An instant in some time zone, and the source that answers its parts under `time.hour`, `time.minute`
and so on. All answers are of one instant, so they fit together.
-/
namespace Gauge

/-- A date and time of day of the proleptic Gregorian calendar, and how many seconds its zone is ahead
of universal time. -/
structure Instant where
  year : Int
  month : Nat
  day : Nat
  hour : Nat
  minute : Nat
  second : Nat
  nanosecond : Nat
  zone : Int
  deriving DecidableEq, Repr

namespace Instant

/-- Days from 1 March of the year zero to a date; a year starts in March, so that its last day is the
leap day. -/
def dayNumber (year : Int) (month day : Nat) : Int :=
  let y := if month ≤ 2 then year - 1 else year
  let monthsSinceMarch : Int := (month + 9) % 12
  365 * y + y / 4 - y / 100 + y / 400 + (153 * monthsSinceMarch + 2) / 5 + day - 1

def epochDay (t : Instant) : Int := dayNumber t.year t.month t.day - dayNumber 1970 1 1

/-- The day of the week, Monday being zero; 1 January 1970 was a Thursday. -/
def weekday (t : Instant) : Int := (t.epochDay + 3) % 7

def epochSecond (t : Instant) : Int :=
  t.epochDay * 86400 + (t.hour * 3600 + t.minute * 60 + t.second : Nat) - t.zone

def epochMilli (t : Instant) : Int := t.epochSecond * 1000 + (t.nanosecond / 1000000 : Nat)

def part? (t : Instant) (name : String) : Option Float :=
  match name with
  | "hour" => some (Signal.ofWhole t.hour)
  | "minute" => some (Signal.ofWhole t.minute)
  | "second" => some (Signal.ofWhole t.second)
  | "day" => some (Signal.ofWhole t.day)
  | "month" => some (Signal.ofWhole t.month)
  | "year" => some (Signal.ofWhole t.year)
  | "weekday" => some (Signal.ofWhole t.weekday)
  | "unix" => some (Signal.ofWhole t.epochMilli / 1000)
  | _ => none

def variableStem : String := "time."

def lookup (t : Instant) (name : String) : Float :=
  if variableStem.toList.isPrefixOf name.toList then
    (t.part? (String.ofList (name.toList.drop variableStem.length))).getD Signal.missing
  else Signal.missing

def source {m : Type → Type} [Pure m] (t : Instant) : Source m := fun name => pure (t.lookup name)

end Instant
end Gauge
