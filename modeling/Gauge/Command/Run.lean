import Gauge.Command.Arguments
import Gauge.Command.Polling
import Gauge.Command.Report
import Gauge.Log.Setup
import Gauge.Settings.Load

/-! # Running commands

A command ends with an exit status, or it is a polling without limit. Whatever is wrong with what it
works on is told on standard error and ends it with status one; malformed arguments are status two.
-/
namespace Gauge

inductive Ending (m : Type → Type) where
  | exit (status : Nat)
  | endless (polling : Polling m)

namespace Command

variable {m : Type → Type} [Monad m]

def fail (w : World m) (what : String) (cause : Option String) : m (Ending m) := do
  w.complainAll (Report.failure what cause)
  pure (.exit 1)

def refuse (w : World m) (expression : String) (e : SyntaxError) : m (Ending m) := do
  w.complainAll (Report.syntaxFailure expression e)
  pure (.exit 1)

def withLog (w : World m) (setup : LogSetup) (next : Journal → String → m (Ending m)) :
    m (Ending m) := do
  let text := setup.effectiveFilter w.logFilter
  match RunningLog.filterOf text with
  | .error e => fail w e.message e.cause?
  | .ok filter =>
    match ← setup.directory.bindM w.makeFolder with
    | some e => fail w (SettingsError.storage e).message (SettingsError.storage e).cause?
    | none =>
      let journal : Journal := ⟨filter, setup.colors⟩
      w.log journal (.started setup.service text setup.directory)
      next journal text

def evaluateOnce (w : World m) (journal : Journal) (expression : String)
    (assignments : List Assignment) : m (Ending m) := do
  match Formula.parse expression with
  | .error e => refuse w expression e
  | .ok f =>
    w.log journal (.parsed f)
    let table := Table.ofList (assignments.map fun a => (a.name, a.value))
    let t ← w.now
    let engine := Engine.ofDialect (w.dialect journal f.functionNames)
    let (result, _) ← engine.evaluate (w.watch journal (table.source.orElse t.source)) f
    match result with
    | .error fault => fail w (FormulaError.faulty fault).message (some fault.message)
    | .ok v =>
      w.log journal (.evaluated f v)
      w.print (.plain (Signal.text v))
      pure (.exit 0)

def checkOnce (w : World m) (journal : Journal) (expression : String) (json : Bool) :
    m (Ending m) := do
  match Formula.parse expression with
  | .error e => refuse w expression e
  | .ok f =>
    w.log journal (.parsed f)
    let report := CheckReport.ofFormula (m := m) (.standard w.fraction) f
    w.printAll (if json then report.jsonLines else report.lines)
    pure (.exit 0)

def listFunctions (w : World m) : m (Ending m) := do
  let d : Dialect m := .standard w.fraction
  w.printAll ("Built-in functions" :: d.functionNames.map ("  " ++ ·))
  pure (.exit 0)

def poll (w : World m) (journal : Journal) (filterText : String) (settings : Settings) (path : String)
    (limit : Option Nat) : m (Ending m) := do
  let (panel, report) := Panel.compile settings.channels
  settings.channels.forM fun spec => w.log journal (.compiled spec)
  w.log journal (.reported report)
  w.complainAll (report.skipped.map fun s => s!"WARN channel '{s.1}' skipped: {s.2.message}")
  if panel.channels.isEmpty then fail w s!"No channel compiled from {path}" none
  else
    w.log journal (.pollingStarted report.compiled settings.interval filterText)
    let names := panel.channels.flatMap fun c => c.formula.functionNames
    let polling : Polling m :=
      { panel, journal, interval := settings.interval
        constants := .ofList settings.constants
        engine := .ofDialect (w.dialect journal names) }
    match limit with
    | some limit =>
      polling.limited w limit
      pure (.exit 0)
    | none => pure (.endless polling)

/-- Do what a command asks for. A filter that is asked for counts more than that of settings. -/
def execute (w : World m) (requested : Option String) (colors : Bool) : Command → m (Ending m)
  | .evaluate expression assignments =>
    withLog w { service := Usage.program, filter := requested, colors } fun journal _ =>
      evaluateOnce w journal expression assignments
  | .check expression json =>
    withLog w { service := Usage.program, filter := requested, colors } fun journal _ =>
      checkOnce w journal expression json
  | .functions => listFunctions w
  | .run path limit => do
    match Settings.load w.environment path (← w.read path) with
    | .error e => fail w s!"Failed to load configuration from {path}" (some e.message)
    | .ok settings =>
      let setup := LogSetup.withSettings { service := Usage.program, colors } settings.logging
      withLog w { setup with filter := requested.or setup.filter } fun journal text =>
        poll w journal text settings path limit

end Command

def Arguments.run {m : Type → Type} [Monad m] (w : World m) (args : List String) : m (Ending m) :=
  match Arguments.parse? w.environment args with
  | none => pure (.exit 2)
  | some (.tell lines) => do
    w.printAll lines
    pure (.exit 0)
  | some (.execute a) => a.command.execute w a.filter a.colors

end Gauge
