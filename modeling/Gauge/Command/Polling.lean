import Gauge.Command.World

/-! # Polling

A polling evaluates its panel again and again. A pass prints the readings of one instant in the order of
their channels; channels without reading only show in the log. A limited polling makes the passes asked
for, but at least one.
-/
namespace Gauge

structure Polling (m : Type → Type) where
  panel : Panel
  constants : Table
  interval : Nat
  journal : Journal
  engine : Engine m

namespace Polling

variable {m : Type → Type} [Monad m]

def announce (w : World m) (journal : Journal) (t : Instant) (c : Channel) :
    Panel.Outcome → m Unit
  | .reading v => w.print (.reading t (c.name ++ " = " ++ Signal.text v))
  | outcome =>
    match Record.withoutReading c outcome with
    | some r => w.log journal r
    | none => pure ()

/-- The pass after `done` others. All channels see the same instant; a variable of the settings hides a clock
variable of its name. -/
def pass (w : World m) (done : Nat) (p : Polling m) : m (Polling m) := do
  let t ← w.now
  let source := w.watch p.journal (p.constants.source.orElse t.source)
  let (count, engine) ← p.panel.evaluateEach source (announce w p.journal t) p.engine
  w.log p.journal (.passDone done count)
  pure { p with engine }

/-- Make passes after `done` others, with pauses between them, and count all. The limit is looked at after each
pass. -/
def passesTo (w : World m) (limit done : Nat) (p : Polling m) : m Nat := do
  let p ← p.pass w done
  if limit ≤ done + 1 then pure (done + 1)
  else
    w.pause p.interval
    passesTo w limit (done + 1) p
termination_by limit - done

def limited (w : World m) (limit : Nat) (p : Polling m) : m Unit := do
  let passes ← passesTo w limit 0 p
  w.log p.journal (.pollingStopped passes)

end Polling
end Gauge
