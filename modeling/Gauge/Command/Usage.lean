/-! # Usage

The options and operands of the commands, and what the program tells of them. In a list of options those
of a command and those of all commands are mixed: first the first of each, in the order of their letters
or names, then the second of each, and so on.
-/
namespace Gauge

structure Switch where
  name : String
  letter : Option Char := none
  placeholder : Option String := none
  about : String
  deriving DecidableEq, Repr

namespace Switch

def logVariable : String := "GAUGE_LOG_LEVEL"

def common : List Switch :=
  [⟨"log-level", none, some "LOG_LEVEL",
    "Log filter, e.g. `debug` or `info,gauge_calc=trace` (RUST_LOG wins when set)"⟩,
   ⟨"no-color", none, none, "Disable colored output"⟩]

def written (s : Switch) : String :=
  "--" ++ s.name ++ (match s.placeholder with | some p => s!" <{p}>" | none => "")

def heading (s : Switch) : String :=
  (match s.letter with | some c => "  -" ++ c.toString ++ ", " | none => "      ") ++ s.written

def note? (environment : List (String × String)) (s : Switch) : Option String :=
  if s.name = "log-level" then
    let value := (environment.lookup logVariable).getD ""
    some s!"[env: {logVariable}={value}]"
  else none

def key (s : Switch) : String :=
  match s.letter with
  | some c => c.toString ++ "0"
  | none => s.name

def listed (own : List Switch) : List Switch :=
  let placed := own.zipIdx ++ common.zipIdx
  (placed.mergeSort fun a b => a.2 < b.2 || (a.2 = b.2 && a.1.key ≤ b.1.key)).map Prod.fst

def help (about : String) : Switch := ⟨"help", some 'h', none, about⟩

def version : Switch := ⟨"version", some 'V', none, "Print version"⟩

end Switch

structure Operand where
  placeholder : String
  about : String
  deriving DecidableEq, Repr

structure Usage where
  name : String
  about : String
  operands : List Operand
  switches : List Switch
  required : List Switch := []
  deriving DecidableEq, Repr

namespace Usage

def program : String := "gaugectl"

def subject : String := "Gauge expression tool"

def expression : Operand := ⟨"<EXPRESSION>", "Expression text"⟩

def config : Switch :=
  ⟨"config", some 'c', some "CONFIG", "Configuration file (.yaml, .yml, .toml or .json)"⟩

def all : List Usage :=
  [⟨"eval", "Evaluate an expression once", [expression],
    [⟨"set", some 's', some "ASSIGNMENTS", "Variable assignment `name=value`, repeatable"⟩], []⟩,
   ⟨"check", "Parse an expression and show the compiled program", [expression],
    [⟨"json", none, none, "Print the report as JSON"⟩], []⟩,
   ⟨"functions", "List built-in functions", [], [], []⟩,
   ⟨"run", "Poll the channels of a configuration file", [],
    [config, ⟨"ticks", none, some "TICKS", "Stop after this many polling passes"⟩], [config]⟩]

def of? (name : String) : Option Usage := all.find? (·.name = name)

def columns (rows : List (String × String)) : List String :=
  let width := (rows.map (·.1.length)).foldl max 0
  rows.map fun r => r.1.pushn ' ' (width - r.1.length + 2) ++ r.2

def sentence (environment : List (String × String)) (s : Switch) : String :=
  s.about ++ (match s.note? environment with | some n => " " ++ n | none => "")

def optionLines (environment : List (String × String)) (switches : List Switch) : List String :=
  "Options:" :: columns (switches.map fun s => (s.heading, sentence environment s))

def optionParagraphs (environment : List (String × String)) (switches : List Switch) : List String :=
  let indent := "".pushn ' ' 10
  let paragraph (s : Switch) : List String :=
    [s.heading, indent ++ s.about] ++
    (match s.note? environment with | some n => [indent, indent ++ n] | none => [])
  "Options:" :: ((switches.map paragraph).intersperse [""]).flatten

def helpAbout : String := "Print this message or the help of the given subcommand(s)"

def commandLines : List String :=
  "Commands:" :: columns (all.map (fun u => ("  " ++ u.name, u.about)) ++ [("  help", helpAbout)])

def programLine : String := s!"Usage: {program} [OPTIONS] <COMMAND>"

def overview (environment : List (String × String)) : List String :=
  [subject, "", programLine, ""] ++ commandLines ++ [""] ++
  optionLines environment
    (Switch.common ++ [Switch.help "Print help (see more with '--help')", Switch.version])

def manual (environment : List (String × String)) : List String :=
  [subject, "", "Commands:",
   "  eval        Evaluate an expression once",
   "  check       Parse an expression and show the compiled program",
   "  functions   List built-in functions",
   "  run         Poll the channels of a configuration file",
   "", "Examples:",
   "  gaugectl eval \"remap(t, 0, 100, 0, 1)\" -s t=42",
   "  gaugectl check \"x > 0 ? y : z\"",
   "  gaugectl run -c gauge.yaml --ticks 10",
   "", "Use 'gaugectl <command> --help' for more information on a specific command.",
   "", programLine, ""] ++ commandLines ++ [""] ++
  optionParagraphs environment
    (Switch.common ++ [Switch.help "Print help (see a summary with '-h')", Switch.version])

def line (u : Usage) : String :=
  String.intercalate " " (["Usage:", program, u.name, "[OPTIONS]"] ++
    u.required.map Switch.written ++ u.operands.map Operand.placeholder)

def summary (environment : List (String × String)) (u : Usage) : List String :=
  [u.about, "", u.line, ""] ++
  (if u.operands.isEmpty then []
    else "Arguments:" :: columns (u.operands.map fun o => ("  " ++ o.placeholder, o.about)) ++ [""]) ++
  optionLines environment (Switch.listed u.switches ++ [Switch.help "Print help"])

def ofHelp : List String :=
  [helpAbout, "", s!"Usage: {program} help [COMMAND]...", "",
   "Arguments:", "  [COMMAND]...  Print help for the subcommand(s)"]

end Usage

inductive Notice where
  | version
  | summary
  | manual
  deriving DecidableEq, Repr

def Notice.lines (environment : List (String × String)) : Notice → List String
  | .version => [Usage.program ++ " 0.1.0"]
  | .summary => Usage.overview environment
  | .manual => Usage.manual environment

end Gauge
