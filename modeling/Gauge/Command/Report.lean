import Gauge.Dialect.Standard
import Gauge.Formula.Assembler
import Gauge.Text.Quoted

/-! # Reports

What the program says of a formula without evaluating it, and of a text that is none.
-/
namespace Gauge

structure CheckReport where
  expression : String
  postfixText : String
  variableNames : List String
  functionNames : List String
  unknownFunctions : List String
  deriving DecidableEq, Repr

namespace CheckReport

def ofFormula {m : Type → Type} (d : Dialect m) (f : Formula) : CheckReport where
  expression := f.source
  postfixText := f.listing
  variableNames := f.variableNames
  functionNames := f.functionNames
  unknownFunctions := f.functionNames.filter fun name => (d.function? name).isNone

def build {m : Type → Type} (d : Dialect m) (expression : String) : Except SyntaxError CheckReport :=
  (Formula.parse expression).map (ofFormula d)

def lines (r : CheckReport) : List String :=
  ["OK " ++ r.expression,
   "  postfix    " ++ r.postfixText,
   "  variables  " ++ String.intercalate ", " r.variableNames,
   "  functions  " ++ String.intercalate ", " r.functionNames] ++
  r.unknownFunctions.map fun name =>
    s!"  WARN '{name}' is not a built-in function and will evaluate to NaN"

def commaLines : List String → List String
  | [] => []
  | [last] => [last]
  | line :: rest => (line ++ ",") :: commaLines rest

def memberLine (name value : String) : String := "  " ++ Text.jsonString name ++ ": " ++ value

def listMember (name mark : String) (texts : List String) : List String :=
  if texts.isEmpty then [memberLine name ("[]" ++ mark)]
  else [memberLine name "["] ++
    commaLines (texts.map fun t => "    " ++ Text.jsonString t) ++ ["  ]" ++ mark]

def jsonLines (r : CheckReport) : List String :=
  ["\x7b",
   memberLine "expression" (Text.jsonString r.expression ++ ","),
   memberLine "postfix" (Text.jsonString r.postfixText ++ ",")] ++
  listMember "variables" "," r.variableNames ++
  listMember "functions" "," r.functionNames ++
  listMember "unknown_functions" "" r.unknownFunctions ++
  ["\x7d"]

end CheckReport

namespace Report

def characters? : List Char → (bytes : Nat) → Option Nat
  | _, 0 => some 0
  | [], _ + 1 => none
  | c :: rest, bytes =>
    if c.utf8Size ≤ bytes then (characters? rest (bytes - c.utf8Size)).map (· + 1) else none

def column (s : String) (offset : Nat) : Nat := (characters? s.toList offset).getD offset

def indented (s : String) : String := "    " ++ String.intercalate "\n    " (s.splitOn "\n")

def failure (what : String) (cause : Option String) : List String :=
  match cause with
  | none => ["Error: " ++ what]
  | some cause => ["Error: " ++ what, "", "Caused by:", indented cause]

def syntaxFailure (expression : String) (e : SyntaxError) : List String :=
  ["ERROR " ++ e.message] ++
  (match e.offset? with
    | some offset =>
      ["  " ++ expression,
       "  " ++ String.ofList (List.replicate (column expression offset) ' ') ++ "^"]
    | none => []) ++
  failure s!"Failed to parse '{expression}'" (some e.message)

end Report
end Gauge
