import Gauge.Command.Assignment
import Gauge.Command.Usage
import Gauge.Text.Lexical

/-! # Command line arguments

An argument is an option, the value of the option before it, or an operand. The first operand names a
command, which has options and operands of its own. Options of all commands stand before or after the
name. An option is given once, apart from assignments. Whoever asks for help gets it if nothing before
that is wrong.
-/
namespace Gauge

namespace Switch

def splitLong (cs : List Char) : String × Option String :=
  (String.ofList (cs.takeWhile (· != '=')),
    match cs.dropWhile (· != '=') with
    | [] => none
    | _ :: value => some (String.ofList value))

/-- The value directly after a letter; an equals sign before it does not count. -/
def attached : List Char → Option String
  | [] => none
  | '=' :: value => some (String.ofList value)
  | value => some (String.ofList value)

/-- The text is an operand or a value: it does not begin with a dash, or is nothing else. -/
def isOperand (s : String) : Bool :=
  match s.toList with
  | '-' :: _ :: _ => false
  | _ => true

def ofArgument? (table : List Switch) (s : String) : Option (Switch × Option String) :=
  match s.toList with
  | '-' :: '-' :: body =>
    let (name, value) := splitLong body
    (table.find? (·.name = name)).map (·, value)
  | '-' :: letter :: body => (table.find? (·.letter = some letter)).map (·, attached body)
  | _ => none

def notice? (version : Bool) (s : String) : Option Notice :=
  match s.toList with
  | '-' :: 'h' :: _ => some .summary
  | '-' :: 'V' :: _ => if version then some .version else none
  | _ =>
    if s = "--help" then some .manual
    else if version && s = "--version" then some .version
    else none

end Switch

structure Given where
  options : List (String × String) := []
  operands : List String := []
  notice : Option Notice := none

namespace Given

open Switch

def withOption (name value : String) (g : Given) : Given :=
  { g with options := (name, value) :: g.options }

/-- What the arguments give. With `first` they are only read up to the first operand, and `--` is refused;
otherwise everything after it is an operand. -/
def scan (first : Bool) (table : List Switch) : List String → Option Given
  | [] => some {}
  | s :: rest =>
    if s = "--" then (if first then none else some { operands := rest })
    else if isOperand s then
      if first then some { operands := s :: rest }
      else (scan first table rest).map fun g => { g with operands := s :: g.operands }
    else
      match notice? first s with
      | some notice => some { notice := some notice }
      | none =>
        match ofArgument? table s with
        | none => none
        | some (switch, value) =>
          match switch.placeholder.isSome, value, rest with
          | true, some v, rest => (scan first table rest).map (withOption switch.name v)
          | true, none, v :: rest =>
            if isOperand v then (scan first table rest).map (withOption switch.name v) else none
          | false, none, rest => (scan first table rest).map (withOption switch.name "")
          | _, _, _ => none

def once (g : Given) : Bool := ((g.options.map Prod.fst).filter (· != "set")).Nodup

end Given

inductive Command where
  | evaluate (expression : String) (assignments : List Assignment)
  | check (expression : String) (json : Bool)
  | functions
  | run (path : String) (limit : Option Nat)

structure Arguments where
  command : Command
  filter : Option String
  colors : Bool

inductive Request where
  | tell (lines : List String)
  | execute (arguments : Arguments)

namespace Arguments

def limit? (s : String) : Option Nat := do
  let n ← Lexical.radix? 10 (match s.toList with
    | '+' :: digits => digits
    | digits => digits)
  if n < Nat.pow 2 64 then pure n else none

def isValue (option : String × String) : Bool :=
  match option with
  | ("set", value) => (Assignment.parse value).toOption.isSome
  | ("ticks", value) => (limit? value).isSome
  | ("config", value) => value != ""
  | _ => true

def command? (name : String) (options : List (String × String)) (operands : List String) :
    Option Command :=
  match name, operands with
  | "eval", [expression] => do
    let assignments ← (options.filter (·.1 = "set")).mapM fun o => (Assignment.parse o.2).toOption
    pure (.evaluate expression assignments)
  | "check", [expression] => some (.check expression (options.lookup "json").isSome)
  | "functions", [] => some .functions
  | "run", [] => do
    let path ← options.lookup "config"
    match options.lookup "ticks" with
    | none => pure (.run path none)
    | some s => do pure (.run path (some (← limit? s)))
  | _, _ => none

def help? (environment : List (String × String)) : List String → Option Request
  | [] => some (.tell (Usage.manual environment))
  | ["help"] => some (.tell Usage.ofHelp)
  | [name] => (Usage.of? name).map fun u => .tell (u.summary environment)
  | _ => none

def requestOf? (environment : List (String × String)) (before : Given) (u : Usage) (args : List String) :
    Option Request := do
  let given ← Given.scan false (Switch.common ++ u.switches) args
  if given.once && given.options.all isValue && given.operands.length ≤ u.operands.length then
    match given.notice with
    | some _ => pure (.tell (u.summary environment))
    | none =>
      let either (name : String) : Option String :=
        (given.options.lookup name).or (before.options.lookup name)
      let filter := (either "log-level").or (environment.lookup Switch.logVariable)
      let command ← command? u.name given.options given.operands
      pure (.execute ⟨command, filter, (either "no-color").isNone⟩)
  else none

/-- What the arguments ask for, if they are well formed. A filter after the command's name counts more
than one before it, and either more than one in the environment. -/
def parse? (environment : List (String × String)) (args : List String) : Option Request := do
  let before ← Given.scan true Switch.common args
  if !before.once then failure
  match before.notice, before.operands with
  | some notice, _ => pure (.tell (notice.lines environment))
  | none, "help" :: names => help? environment names
  | none, name :: rest => requestOf? environment before (← Usage.of? name) rest
  | none, [] => none

end Arguments
end Gauge
