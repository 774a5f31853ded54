import Gauge.SyntaxError
import Gauge.Text.Blank
import Gauge.Text.Case
import Gauge.Text.Letter
import Gauge.Token

/-! # Scanning text into tokens

A scanner reads one character at a time and collects a run: a numeral, a name or a row of symbols. A
character that does not continue the run ends it, and then the run becomes tokens: a numeral or name
one token, a row of symbols as many as it takes, the longest symbol first. A sign is binary after a
number, a name or a closing parenthesis, and unary elsewhere.
-/
namespace Gauge

inductive CharKind where
  | digit
  | letter
  | dot
  | blank
  | symbol
  | other
  deriving DecidableEq, Repr

def symbolChars : List Char :=
  ['+', '-', '*', '/', '%', '!', '~', '&', '|', '^', '<', '>', '=', '?', ':', '(', ')', ',']

def CharKind.of (c : Char) : CharKind :=
  if c.isDigit then .digit
  else if Text.isAlphabetic c || c == '_' then .letter
  else if c = '.' then .dot
  else if Text.isBlank c then .blank
  else if c ∈ symbolChars then .symbol
  else .other

/-- The run being collected: `numeral` has no point yet, `pointed` has one or more. -/
inductive Shape where
  | blank
  | numeral
  | pointed
  | name
  | symbols
  deriving DecidableEq, Repr

def Shape.extend : Shape → CharKind → Option Shape
  | .numeral, .digit => some .numeral
  | .numeral, .dot => some .pointed
  | .pointed, .digit => some .pointed
  | .pointed, .dot => some .pointed
  | .name, .letter => some .name
  | .name, .digit => some .name
  | .name, .dot => some .name
  | .symbols, .symbol => some .symbols
  | _, _ => none

def Shape.start : CharKind → Shape
  | .digit => .numeral
  | .dot => .pointed
  | .letter => .name
  | .symbol => .symbols
  | .blank | .other => .blank

/-- Divide a row of symbols into tokens, two characters at a time where they make a symbol.
`operand` tells whether an operand ends before the row. -/
def divideSymbols (operand : Bool) (offset : Nat) : List Char → Except SyntaxError (List Located)
  | [] => .ok []
  | [a] =>
    match Token.ofSymbol? (String.ofList [a]) !operand with
    | some token => .ok [⟨token, offset⟩]
    | none => .error (.unknownOperator (String.ofList [a]) offset)
  | a :: b :: rest =>
    match Token.ofSymbol? (String.ofList [a, b]) !operand with
    | some token => (divideSymbols token.endsOperand (offset + 2) rest).map (⟨token, offset⟩ :: ·)
    | none =>
      match Token.ofSymbol? (String.ofList [a]) !operand with
      | some token =>
        (divideSymbols token.endsOperand (offset + 1) (b :: rest)).map (⟨token, offset⟩ :: ·)
      | none => .error (.unknownOperator (String.ofList (a :: b :: rest)) offset)

/-- The state between two characters: the run collected so far, last character first, the byte at
which it starts, the bytes read, and whether the tokens before the run end an operand. -/
structure Scanner where
  shape : Shape := .blank
  run : List Char := []
  start : Nat := 0
  offset : Nat := 0
  operand : Bool := false

namespace Scanner

def runTokens (s : Scanner) : Except SyntaxError (List Located) :=
  match s.shape with
  | .blank => .ok []
  | .numeral | .pointed =>
    match Decimal.numeral? s.run.reverse with
    | some v => .ok [⟨.number v, s.start⟩]
    | none => .error (.malformedNumber (String.ofList s.run.reverse) s.start)
  | .name => .ok [⟨.identifier (Text.lowercase (String.ofList s.run.reverse)), s.start⟩]
  | .symbols => divideSymbols s.operand s.start s.run.reverse

def operandAfter (s : Scanner) (tokens : List Located) : Bool :=
  match tokens.getLast? with
  | some last => last.token.endsOperand
  | none => s.operand

def step (s : Scanner) (c : Char) : Except SyntaxError (List Located × Scanner) :=
  let kind := CharKind.of c
  if kind = .other then .error (.strayCharacter c s.offset)
  else match s.shape.extend kind with
    | some shape => .ok ([], { s with shape, run := c :: s.run, offset := s.offset + c.utf8Size })
    | none => s.runTokens.map fun tokens =>
      (tokens, { shape := .start kind, run := [c], start := s.offset,
                 offset := s.offset + c.utf8Size, operand := s.operandAfter tokens })

end Scanner

structure Scan where
  tokens : List Located
  failure : Option SyntaxError

def Scan.after (tokens : List Located) (scan : Scan) : Scan := ⟨tokens ++ scan.tokens, scan.failure⟩

def Scanner.scan (s : Scanner) : List Char → Scan
  | [] =>
    match s.runTokens with
    | .ok tokens => ⟨tokens, none⟩
    | .error e => ⟨[], some e⟩
  | c :: rest =>
    match s.step c with
    | .ok (tokens, next) => (next.scan rest).after tokens
    | .error e => ⟨[], some e⟩

def Scan.ofString (source : String) : Scan := Scanner.scan {} source.toList

end Gauge
