import Gauge.Formula
import Gauge.Token.Scan

/-! # Assembling formulas

An assembler takes the tokens of a formula one by one and puts them into postfix order. Operators
wait on a stack until one comes that binds less tightly, or the group they stand in is closed. A name
is held back for one token: an opening parenthesis makes it a call. Operands and operators have to
alternate, so an assembled formula always leaves one signal.
-/
namespace Gauge

inductive Waiting where
  | operator (op : Operator) (offset : Nat)
  | group (offset : Nat)
  | call (name : String) (offset : Nat)
  deriving DecidableEq

/-- The state between two tokens. The stack has its top first. -/
structure Assembler where
  stack : List Waiting := []
  output : Array Token := #[]
  lookahead : Option (String × Nat) := none
  wantsOperator : Bool := false
  callOpened : Bool := false
  seenAny : Bool := false

structure Refusal where
  error : SyntaxError
  state : Assembler

namespace Assembler

/-- Move operators from the stack to the output, down to a `?`, a marker or the bottom. -/
def spill : List Waiting → Array Token → List Waiting × Array Token
  | .operator .choose offset :: stack, output => (.operator .choose offset :: stack, output)
  | .operator op _ :: stack, output => spill stack (output.push (.operator op))
  | stack, output => (stack, output)

/-- Move the operators that give way to `op` from the stack to the output. -/
def spillTo (op : Operator) : List Waiting → Array Token → List Waiting × Array Token
  | .operator top offset :: stack, output =>
    if top.yieldsTo op then spillTo op stack (output.push (.operator top))
    else (.operator top offset :: stack, output)
  | stack, output => (stack, output)

def await (a : Assembler) (op : Operator) (offset : Nat) : Assembler :=
  let (stack, output) := spillTo op a.stack a.output
  { a with stack := .operator op offset :: stack, output }

def closeGroup (a : Assembler) (offset : Nat) : Except Refusal Assembler :=
  match spill a.stack a.output with
  | (.group _ :: stack, output) => .ok { a with stack, output, wantsOperator := true }
  | (.call name _ :: stack, output) =>
    .ok { a with stack, output := output.push (.call name), wantsOperator := true }
  | (.operator _ _ :: stack, output) => .error ⟨.unbalancedParen offset, { a with stack, output }⟩
  | ([], output) => .error ⟨.unbalancedParen offset, { a with stack := [], output }⟩

/-- A comma: end an argument of the innermost call, which stays open. -/
def closeArgument (a : Assembler) (offset : Nat) : Except Refusal Assembler :=
  match spill a.stack a.output with
  | (.call name start :: stack, output) =>
    .ok { a with stack := .call name start :: stack, output, wantsOperator := false }
  | (.operator op start :: stack, output) =>
    .error ⟨.unbalancedParen offset, { a with stack := .operator op start :: stack, output }⟩
  | (stack, output) => .error ⟨.misplaced "," offset, { a with stack, output }⟩

def closeChoice (a : Assembler) (offset : Nat) : Except Refusal Assembler :=
  match spill a.stack a.output with
  | (.operator _ _ :: stack, output) =>
    .ok { a with
      stack := .operator .otherwise offset :: stack
      output := output.push (.operator .choose)
      wantsOperator := false }
  | (_ :: stack, output) => .error ⟨.otherwiseAlone offset, { a with stack, output }⟩
  | ([], output) => .error ⟨.otherwiseAlone offset, { a with stack := [], output }⟩

def settle (a : Assembler) : Assembler :=
  match a.lookahead with
  | some (name, _) => { a with lookahead := none, output := a.output.push (.identifier name) }
  | none => a

/-- Take a token when no name is held back. `opened` tells that a call was opened just before. -/
def place (a : Assembler) (opened : Bool) (t : Located) : Except Refusal Assembler :=
  let refuse : Except Refusal Assembler := .error ⟨.misplaced t.token.display t.offset, a⟩
  match t.token with
  | .number v =>
    if a.wantsOperator then refuse
    else .ok { a with output := a.output.push (.number v), wantsOperator := true }
  | .identifier name =>
    if a.wantsOperator then refuse
    else .ok { a with lookahead := some (name, t.offset), wantsOperator := true }
  | .openParen =>
    if a.wantsOperator then refuse else .ok { a with stack := .group t.offset :: a.stack }
  | .closeParen => if a.wantsOperator || opened then a.closeGroup t.offset else refuse
  | .comma => if a.wantsOperator then a.closeArgument t.offset else refuse
  | .operator (.unary op) => if a.wantsOperator then refuse else .ok (a.await (.unary op) t.offset)
  | .operator .otherwise => if a.wantsOperator then a.closeChoice t.offset else refuse
  | .operator op =>
    if a.wantsOperator then .ok { a.await op t.offset with wantsOperator := false } else refuse
  | .call _ => refuse

def push (a : Assembler) (t : Located) : Except Refusal Assembler :=
  match a.lookahead, t.token with
  | some (name, start), .openParen =>
    .ok { a with
      stack := .call name start :: a.stack
      output := a.output.push .openParen
      lookahead := none
      wantsOperator := false
      callOpened := true
      seenAny := true }
  | _, _ => { a.settle with callOpened := false, seenAny := true }.place a.callOpened t

def pushAll (a : Assembler) (ts : List Located) : Except Refusal Assembler := ts.foldlM push a

/-- Empty the stack at the end of the formula: only operators may still wait. -/
def unwind : List Waiting → Array Token → Except SyntaxError (Array Token)
  | [], output => .ok output
  | .group offset :: _, _ => .error (.unbalancedParen offset)
  | .call _ offset :: _, _ => .error (.unbalancedParen offset)
  | .operator .choose offset :: _, _ => .error (.chooseAlone offset)
  | .operator op _ :: stack, output => unwind stack (output.push (.operator op))

def finish (a : Assembler) : Except SyntaxError Formula :=
  if !a.seenAny then .error .empty
  else if !a.wantsOperator then .error .incomplete
  else (unwind a.settle.stack a.settle.output).map fun output => .ofInstructions output.toList

end Assembler

def Formula.ofTokens (ts : List Located) : Except SyntaxError Formula :=
  match Assembler.pushAll {} ts with
  | .ok a => a.finish
  | .error refusal => .error refusal.error

/-- The formula of a text. A token that is refused counts before an error further on in the text. -/
def Formula.parse (source : String) : Except SyntaxError Formula :=
  let scan := Scan.ofString source
  match Assembler.pushAll {} scan.tokens with
  | .error refusal => .error refusal.error
  | .ok a =>
    match scan.failure with
    | some e => .error e
    | none => a.finish.map fun f => { f with source }

end Gauge
