import Gauge.Engine

/-! # Channels

A channel is a named formula whose signal is read again and again. A panel is the list of channels
compiled from their specifications; a specification that is switched off or whose text is no formula
contributes no channel. A board holds the panel in use, and a snapshot of it outlives its replacement.
-/
namespace Gauge

structure ChannelSpec where
  name : String
  expression : String
  enabled : Bool := true
  description : Option String := none
  deriving DecidableEq, Repr

structure Channel where
  name : String
  description : Option String
  formula : Formula

def ChannelSpec.compile (spec : ChannelSpec) : Except SyntaxError Channel :=
  (Formula.parse spec.expression).map fun formula => ⟨spec.name, spec.description, formula⟩

structure Panel where
  channels : List Channel

instance : Inhabited Panel := ⟨⟨[]⟩⟩

structure CompileReport where
  compiled : Nat
  skipped : List (String × SyntaxError)
  deriving DecidableEq, Repr

def CompileReport.isClean (report : CompileReport) : Bool := report.skipped.isEmpty

namespace Panel

/-- Compile every specification that is switched on, once. Those whose texts are no formulas are left out by
name. -/
def compileEach : List ChannelSpec → List Channel × List (String × SyntaxError)
  | [] => ([], [])
  | spec :: rest =>
    let (channels, skipped) := compileEach rest
    if spec.enabled then
      match spec.compile with
      | .ok channel => (channel :: channels, skipped)
      | .error e => (channels, (spec.name, e) :: skipped)
    else (channels, skipped)

def compile (specs : List ChannelSpec) : Panel × CompileReport :=
  let (channels, skipped) := compileEach specs
  (⟨channels⟩, ⟨channels.length, skipped⟩)

/-- The first channel with a name, ASCII case apart. -/
def get? (p : Panel) (name : String) : Option Channel :=
  p.channels.find? fun c => Text.sameUpToAsciiCase c.name name

inductive Outcome where
  | reading (v : Float)
  | missing
  | faulty (fault : Fault)

def Outcome.ofResult : Except Fault Float → Outcome
  | .ok v => if v.isNaN then .missing else .reading v
  | .error fault => .faulty fault

def Outcome.reading? : Outcome → Option Float
  | .reading v => some v
  | _ => none

variable {m : Type → Type} [Monad m]

def poll (source : Source m) (visit : Channel → Outcome → m Unit) :
    List Channel → Engine m → m (List (Channel × Outcome) × Engine m)
  | [], engine => pure ([], engine)
  | c :: rest, engine => do
    let (result, engine) ← engine.evaluate source c.formula
    let outcome := Outcome.ofResult result
    visit c outcome
    let (outcomes, engine) ← poll source visit rest engine
    pure ((c, outcome) :: outcomes, engine)

def readings (outcomes : List (Channel × Outcome)) : List (Channel × Float) :=
  outcomes.filterMap fun p => p.2.reading?.map (p.1, ·)

def evaluateEach (p : Panel) (source : Source m) (visit : Channel → Outcome → m Unit)
    (engine : Engine m) : m (Nat × Engine m) := do
  let (outcomes, engine) ← poll source visit p.channels engine
  pure ((readings outcomes).length, engine)

def evaluate (p : Panel) (source : Source m) (engine : Engine m) :
    m (List (Channel × Float) × Engine m) := do
  let (outcomes, engine) ← poll source (fun _ _ => pure ()) p.channels engine
  pure (readings outcomes, engine)

end Panel

structure Board where
  current : Panel := default

namespace Board

def snapshot (b : Board) : Panel := b.current

def reload (_ : Board) (specs : List ChannelSpec) : Board × CompileReport :=
  let (panel, report) := Panel.compile specs
  (⟨panel⟩, report)

end Board
end Gauge
