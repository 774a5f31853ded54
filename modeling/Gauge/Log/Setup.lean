import Gauge.Log.Filter
import Gauge.Settings.Basic

/-! # Setting up the log

Which filter a program starts with, and how it is changed while the log runs.
-/
namespace Gauge

structure LogSetup where
  service : String := "gauge"
  filter : Option String := none
  directory : Option String := none
  json : Bool := false
  colors : Bool := true
  deriving DecidableEq, Repr

namespace LogSetup

/-- Take over settings; without a level the filter stays. -/
def withSettings (s : LogSetup) (settings : LogSettings) : LogSetup :=
  { s with
    filter := settings.level.or s.filter
    directory := settings.directory
    json := settings.json }

def defaultFilter (service : String) : String :=
  "info," ++ service.map (fun c => if c = '-' then '_' else c) ++ "=debug"

/-- The filter to start with: the one that the surroundings ask for unless it is blank, the program's
own, or the default. -/
def effectiveFilter (s : LogSetup) (requested : Option String) : String :=
  match requested.filter fun r => !Text.isAllBlank r with
  | some r => r
  | none => s.filter.getD (defaultFilter s.service)

end LogSetup

structure RunningLog where
  filter? : Option String := none
  deriving DecidableEq, Repr

namespace RunningLog

def level (l : RunningLog) : String := l.filter?.getD "unknown"

def filterOf (s : String) : Except SettingsError Filter :=
  (Filter.parse s).mapError (.badFilter s)

def setLevel (l : RunningLog) (s : String) : Except SettingsError RunningLog :=
  match l.filter?, Filter.parse s with
  | none, _ => .error .logNotRunning
  | some _, .error e => .error (.badLevel s e)
  | some _, .ok _ => .ok ⟨some s⟩

end RunningLog
end Gauge
