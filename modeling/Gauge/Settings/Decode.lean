import Gauge.Settings.Basic
import Gauge.Settings.Document
import Gauge.Signal.Word

/-! # Settings of documents

A document gives settings when every field that it has is of the right kind. A field that it lacks has
its default; fields that no setting has are left aside. A number is never read from a text, and nothing
but an optional text is ever null. A list stands for a record with its fields in order.
-/
namespace Gauge

namespace Document

def bool? : Document → Option Bool
  | .bool b => some b
  | _ => none

def text? : Document → Option String
  | .text s => some s
  | _ => none

def optionalText? : Document → Option (Option String)
  | .null => some none
  | .text s => some (some s)
  | _ => none

def count? : Document → Option Nat
  | .whole n => if 0 ≤ n && n < Nat.pow 2 64 then some n.toNat else none
  | _ => none

/-- A real number, or a whole one that fits 64 bits. -/
def signal? : Document → Option Float
  | .real v => some v
  | .whole n => if -Nat.pow 2 63 ≤ n && n < Nat.pow 2 64 then some (Signal.ofWhole n) else none
  | _ => none

def list? : Document → Option (List Document)
  | .list items => some items
  | _ => none

def signals? : Document → Option (List (String × Float))
  | .mapping entries => do
    let signals ← entries.mapM fun e => do pure (e.1, ← e.2.signal?)
    pure (signals.mergeSort fun a b => a.1 ≤ b.1)
  | _ => none

def fields? (spare : Bool) (names : List String) : Document → Option (List (String × Document))
  | .mapping entries => some entries
  | .list items =>
    if spare || items.length ≤ names.length then some (names.zip items) else none
  | _ => none

end Document

def fieldOr {α : Type} (fields : List (String × Document)) (name : String) (value : α)
    (read? : Document → Option α) : Option α :=
  match fields.lookup name with
  | some d => read? d
  | none => some value

def ChannelSpec.ofDocument? (spare : Bool) (d : Document) : Option ChannelSpec := do
  let fields ← d.fields? spare ["name", "expression", "enabled", "description"]
  let name ← (← fields.lookup "name").text?
  let expression ← (← fields.lookup "expression").text?
  let enabled ← fieldOr fields "enabled" true Document.bool?
  let description ← fieldOr fields "description" none Document.optionalText?
  pure ⟨name, expression, enabled, description⟩

def LogSettings.ofDocument? (spare : Bool) (d : Document) : Option LogSettings := do
  let fields ← d.fields? spare ["level", "json", "dir"]
  let level ← fieldOr fields "level" none Document.optionalText?
  let json ← fieldOr fields "json" false Document.bool?
  let directory ← fieldOr fields "dir" none Document.optionalText?
  pure ⟨level, json, directory⟩

namespace Settings

def intervalOf? (spare : Bool) (d : Document) : Option Nat := do
  let fields ← d.fields? spare ["interval_ms"]
  fieldOr fields "interval_ms" 1000 Document.count?

def ofDocument? (spare : Bool) (d : Document) : Option Settings := do
  let fields ← d.fields? spare ["logging", "polling", "variables", "channels"]
  let logging ← fieldOr fields "logging" {} (LogSettings.ofDocument? spare)
  let interval ← fieldOr fields "polling" 1000 (intervalOf? spare)
  let constants ← fieldOr fields "variables" [] Document.signals?
  let channels ← fieldOr fields "channels" [] fun d => do
    (← d.list?).mapM (ChannelSpec.ofDocument? spare)
  pure ⟨logging, interval, constants, channels⟩

end Settings
end Gauge
