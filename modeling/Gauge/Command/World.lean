import Gauge.Clock.Stamp
import Gauge.Dialect.Standard
import Gauge.Folder
import Gauge.Log.Record

/-! # The world of a command

What a command finds around it and what it can do there, as actions of a monad. Everything else about a
command is a function, so the same command runs on a terminal and on recorded inputs.
-/
namespace Gauge

/-- A line of standard output. A record begins with the time when it is written, a reading with the time
of its pass. -/
inductive Line where
  | plain (text : String)
  | record (text : String)
  | reading (time : Instant) (text : String)
  deriving DecidableEq, Repr

/-- The surroundings of a command. The log filter that they ask for counts more than any other. -/
structure World (m : Type → Type) where
  environment : List (String × String)
  logFilter : Option String
  read : String → m (Option String)
  makeFolder : String → m (Option StorageError)
  now : m Instant
  fraction : m Float
  print : Line → m Unit
  complain : String → m Unit
  pause : (milliseconds : Nat) → m Unit

namespace World

variable {m : Type → Type} [Monad m]

def printAll (w : World m) (lines : List String) : m Unit := lines.forM fun line => w.print (.plain line)

def complainAll (w : World m) (lines : List String) : m Unit := lines.forM w.complain

def log (w : World m) (journal : Journal) (r : Record) : m Unit :=
  match journal.line? r with
  | some line => w.print (.record line)
  | none => pure ()

def watch (w : World m) (journal : Journal) (source : Source m) : Source m := fun name => do
  let v ← source name
  if v.isNaN then w.log journal (.unresolved name)
  pure v

def supply (w : World m) (journal : Journal) (d : Dialect m) (name : String) : Dialect m :=
  if (d.function? name).isSome then d
  else
    let noted : List Float → m Float := fun _ => do
      w.log journal (.unknownFunction name)
      pure Signal.missing
    { d with functions := d.functions.insert name noted }

def dialect (w : World m) (journal : Journal) (names : List String) : Dialect m :=
  names.foldl (w.supply journal) (.standard w.fraction)

end World

def Signal.text (v : Float) : String := if v.isNaN then "NaN" else Decimal.text v

end Gauge
