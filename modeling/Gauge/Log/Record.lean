import Gauge.Channel
import Gauge.Decimal.Shortest
import Gauge.Log.Filter
import Gauge.Text.Quoted

/-! # Log records

What the parts of the program write to the log: a message and named values. A text is quoted where it
is what a formula was read from, and stands for itself elsewhere.
-/
namespace Gauge

inductive Origin where
  | parser
  | evaluator
  | channels
  | logging
  | commands
  deriving DecidableEq, Repr

def Origin.path : Origin → String
  | .parser => "gauge_calc::parser"
  | .evaluator => "gauge_calc::evaluator"
  | .channels => "common::channel"
  | .logging => "common::logging"
  | .commands => "gaugectl::commands"

structure Record where
  level : Level
  origin : Origin
  message : String
  fields : List (String × String)
  deriving DecidableEq, Repr

namespace Record

def fieldNames (r : Record) : List String := "message" :: r.fields.map Prod.fst

/-- One character of a message. What could steer a terminal is written by its code point. -/
def messageChar (c : Char) : List Char :=
  if c.toNat ∈ [7, 8, 12, 27, 127] then
    '\\' :: 'x' :: List.replicate (2 - (Text.hex c.toNat).length) '0' ++ Text.hex c.toNat
  else if 0x80 ≤ c.toNat && c.toNat ≤ 0x9F then
    '\\' :: 'u' :: '\x7b' :: Text.hex c.toNat ++ ['\x7d']
  else [c]

def styled (style : Nat) (s : String) : String := s!"\x1b[{style}m{s}\x1b[0m"

def style : Level → Nat
  | .trace => 35
  | .debug => 34
  | .info => 32
  | .warn => 33
  | .error => 31

/-- The record as it stands in the log after the time. In colors the level has its own, names are slanted
and equals signs faint. -/
def text (colors : Bool) (r : Record) : String :=
  let paint (n : Nat) (s : String) : String := if colors then styled n s else s
  String.join ([paint (style r.level) r.level.mark, " ",
    String.ofList (r.message.toList.flatMap messageChar)] ++
    r.fields.flatMap fun f => [" ", paint 3 f.1, paint 2 "=", f.2])

def started (service filter : String) (directory : Option String) : Record :=
  ⟨.debug, .logging, "Logging initialized",
    [("service", service), ("filter", filter),
      ("log_dir", match directory with
        | some d => s!"Some({Text.quotedPath d})"
        | none => "None")]⟩

def parsed (f : Formula) : Record :=
  ⟨.debug, .parser, "Expression parsed",
    [("expression", Text.quoted f.source), ("instructions", toString f.instructions.length)]⟩

def unresolved (name : String) : Record :=
  ⟨.trace, .evaluator, "Variable unresolved", [("variable", name)]⟩

def unknownFunction (name : String) : Record :=
  ⟨.trace, .evaluator, "Function not registered", [("function", name)]⟩

def evaluated (f : Formula) (v : Float) : Record :=
  ⟨.debug, .commands, "Evaluated",
    [("expression", Text.quoted f.source), ("value", Decimal.recordText v)]⟩

def compiled (spec : ChannelSpec) : Record :=
  if spec.enabled then
    match spec.compile with
    | .ok channel => parsed channel.formula
    | .error e => ⟨.warn, .channels, "Channel skipped: " ++ e.message,
        [("channel", spec.name), ("expression", spec.expression)]⟩
  else ⟨.debug, .channels, "Channel disabled", [("channel", spec.name)]⟩

def reported (report : CompileReport) : Record :=
  ⟨.info, .channels, "Channel set compiled",
    [("compiled", toString report.compiled), ("skipped", toString report.skipped.length)]⟩

def withoutReading (channel : Channel) : Panel.Outcome → Option Record
  | .reading _ => none
  | .missing => some ⟨.debug, .channels, "No reading (NaN)", [("channel", channel.name)]⟩
  | .faulty fault => some ⟨.error, .channels,
      "Evaluation failed: " ++ (FormulaError.faulty fault).message, [("channel", channel.name)]⟩

def pollingStarted (channels interval : Nat) (filter : String) : Record :=
  ⟨.info, .commands, "Polling started",
    [("channels", toString channels), ("interval_ms", toString interval), ("filter", filter)]⟩

def passDone (pass emitted : Nat) : Record :=
  ⟨.debug, .commands, "Polling pass done",
    [("pass", toString pass), ("emitted", toString emitted)]⟩

def pollingStopped (passes : Nat) : Record :=
  ⟨.info, .commands, "Polling stopped", [("passes", toString passes)]⟩

end Record

structure Journal where
  filter : Filter
  colors : Bool := true

def Journal.line? (j : Journal) (r : Record) : Option String :=
  if j.filter.admits r.origin.path r.level r.fieldNames then some (r.text j.colors) else none

end Gauge
