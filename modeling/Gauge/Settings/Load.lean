import Gauge.Settings.Decode
import Gauge.Settings.Json
import Gauge.Settings.Override
import Gauge.Settings.Yaml

/-! # Loading settings

The extension of a file's name says how its content is read. Variables of the environment are laid over
it, and what comes out has to be valid settings.
-/
namespace Gauge

inductive Format where
  | toml
  | yaml
  | json
  deriving DecidableEq, Repr

namespace Format

def ofExtension? : String → Option Format
  | "toml" => some .toml
  | "yaml" | "yml" => some .yaml
  | "json" => some .json
  | _ => none

def read? : Format → String → Option Document
  | .toml => Toml.read?
  | .yaml => Yaml.read?
  | .json => Json.read?

end Format

namespace Settings

def extension? (path : String) : Option String :=
  let name := ((path.splitOn "/").getLastD "").toList
  let after := name.reverse.takeWhile (· != '.')
  if after.length + 1 < name.length then some (String.ofList after.reverse) else none

def format (path : String) : Except SettingsError Format :=
  match extension? path with
  | none => .error .noExtension
  | some extension =>
    match Format.ofExtension? extension with
    | some format => .ok format
    | none => .error (.unknownFormat extension)

def merged? (environment : List (String × String)) (format : Format) (content : String) :
    Option Settings := do
  match ← format.read? content with
  | .mapping entries =>
    ofDocument? true ((Document.mapping entries).overlay (Override.ofEnvironment environment))
  | _ => none

def load (environment : List (String × String)) (path : String) (content : Option String) :
    Except SettingsError Settings := do
  let some content := content | .error (.noFile path)
  let format ← format path
  let some settings := merged? environment format content | .error .unreadable
  match settings.fault? with
  | some fault => .error fault
  | none => pure settings

end Settings
end Gauge
