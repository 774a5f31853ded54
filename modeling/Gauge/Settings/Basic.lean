import Gauge.Channel
import Gauge.Folder
import Gauge.Log.Filter

/-! # Settings

What a configuration file says: logging, polling, constant signals and channels. Valid settings poll
at a positive interval and name their channels, differently up to letter case.
-/
namespace Gauge

structure LogSettings where
  level : Option String := none
  json : Bool := false
  directory : Option String := none
  deriving DecidableEq, Repr

/-- The settings of a program that polls channels. Constants are signals of variables, in ascending order
of the names. -/
structure Settings where
  logging : LogSettings := {}
  interval : Nat := 1000
  constants : List (String × Float) := []
  channels : List ChannelSpec := []

inductive SettingsError where
  | unreadable
  | noFile (path : String)
  | noExtension
  | unknownFormat (extension : String)
  | zeroInterval
  | namelessChannel
  | duplicateChannel (name : String)
  | logNotRunning
  | badFilter (filter : String) (cause : FilterError)
  | badLevel (level : String) (cause : FilterError)
  | storage (cause : StorageError)
  deriving DecidableEq, Repr

namespace SettingsError

def message : SettingsError → String
  | .unreadable => "Configuration error: "
  | .noFile path => "Configuration error: Config file not found: " ++ path
  | .noExtension => "Configuration error: Config file must have an extension"
  | .unknownFormat extension => "Configuration error: Unsupported config file format: " ++ extension
  | .zeroInterval => "Configuration error: polling.interval_ms must be greater than 0"
  | .namelessChannel => "Configuration error: Channel name must not be empty"
  | .duplicateChannel name => "Duplicate channel name: " ++ name
  | .logNotRunning => "Logging error: Logging not initialized with reload support"
  | .badFilter filter cause => s!"Logging error: Invalid log filter '{filter}': {cause.message}"
  | .badLevel level cause => s!"Logging error: Invalid log level '{level}': {cause.message}"
  | .storage cause => "IO error: " ++ cause.message

def cause? : SettingsError → Option String
  | .storage cause => some cause.message
  | _ => none

end SettingsError

namespace Settings

/-- The first channel that has no name or, up to letter case, one of those `seen` before. -/
def channelFault (seen : List String) : List ChannelSpec → Option SettingsError
  | [] => none
  | c :: rest =>
    let name := Text.lowercase c.name
    if Text.isAllBlank c.name then some .namelessChannel
    else if name ∈ seen then some (.duplicateChannel c.name)
    else channelFault (name :: seen) rest

def fault? (s : Settings) : Option SettingsError :=
  if s.interval = 0 then some .zeroInterval else channelFault [] s.channels

end Settings
end Gauge
