import Gauge.Dialect
import Gauge.Formula
import Gauge.Ring.Reading
import Gauge.Source

/-! # The stack machine

A machine runs the instructions of a formula over three stacks: signals, the heights of the signal
stack where calls opened, and the outcomes of conditions whose second half is still to come. What goes
wrong with data is a missing signal; only instructions that no text assembles to are a fault. A machine
is used again and again, so its stacks are rings that keep their slots.
-/
namespace Gauge

inductive Fault where
  | noSignal (index : Nat)
  | noMarker (index : Nat)
  | noCondition (index : Nat)
  | notAnInstruction (token : String) (index : Nat)
  | unbalanced (remaining : Nat)
  deriving DecidableEq, Repr

def Fault.message : Fault → String
  | .noSignal index => s!"Value stack underflow at instruction {index}"
  | .noMarker index => s!"Argument marker stack underflow at instruction {index}"
  | .noCondition index => s!"Condition stack underflow at instruction {index}"
  | .notAnInstruction token index => s!"Unexpected '{token}' in program at instruction {index}"
  | .unbalanced remaining => s!"Program left {remaining} values on the stack, expected 1"

/-- The stacks of a machine; the newest element is the top. The arguments of the latest call stay until
there is another one. -/
structure Machine where
  signals : Ring Float
  markers : Ring Nat
  conditions : Ring Bool
  arguments : List Float

namespace Machine

variable {m : Type → Type} [Monad m]

def fresh : Machine := ⟨.empty, .empty, .empty, []⟩

instance : Inhabited Machine := ⟨fresh⟩

def clear (s : Machine) : Machine :=
  { s with
    signals := s.signals.clear
    markers := s.markers.clear
    conditions := s.conditions.clear }

/-- Put a signal on the stack. An infinite one is missing from here on. -/
def push (s : Machine) (v : Float) : Machine :=
  { s with signals := s.signals.pushBack (Signal.settle v) }

def answer (meaning : Option (m Float)) : m Float := meaning.getD (pure Signal.missing)

/-- Run a call: its arguments are the signals above the latest marker. -/
def call (d : Dialect m) (index : Nat) (name : String) (s : Machine) :
    m (Except Fault Unit × Machine) :=
  match s.markers.popBack? with
  | none => pure (.error (.noMarker index), s)
  | some (height, markers) =>
    if s.signals.size < height then pure (.error (.noSignal index), { s with markers })
    else do
      let (arguments, signals) := s.signals.takeBack (s.signals.size - height)
      let s := { s with markers, signals, arguments }
      let v ← answer ((d.function? name).map (· s.arguments))
      pure (.ok (), s.push v)

/-- Run an operator. Both parts of a conditional have been computed when its `?` and `:` run: the
first drops the middle part unless the condition holds, the second drops the last part if it does. -/
def operate (d : Dialect m) (index : Nat) (op : Operator) (s : Machine) :
    m (Except Fault Unit × Machine) :=
  match op with
  | .unary op =>
    match s.signals.popBack? with
    | none => pure (.error (.noSignal index), s)
    | some (v, signals) => do
      let w ← answer ((d.unary op).map (· v))
      pure (.ok (), { s with signals }.push w)
  | .binary op =>
    match s.signals.popBack? with
    | none => pure (.error (.noSignal index), s)
    | some (right, signals) =>
      match signals.popBack? with
      | none => pure (.error (.noSignal index), { s with signals })
      | some (left, signals) => do
        let w ← answer ((d.binary op).map (· left right))
        pure (.ok (), { s with signals }.push w)
  | .choose =>
    match s.signals.popBack? with
    | none => pure (.error (.noSignal index), s)
    | some (middle, signals) =>
      match signals.popBack? with
      | none => pure (.error (.noSignal index), { s with signals })
      | some (condition, signals) =>
        let holds := Signal.holds condition
        pure (.ok (), { s with
          signals := if holds then signals.pushBack middle else signals
          conditions := s.conditions.pushBack holds })
  | .otherwise =>
    match s.conditions.popBack? with
    | none => pure (.error (.noCondition index), s)
    | some (false, conditions) => pure (.ok (), { s with conditions })
    | some (true, conditions) =>
      match s.signals.popBack? with
      | none => pure (.error (.noSignal index), { s with conditions })
      | some (_, signals) => pure (.ok (), { s with conditions, signals })

def step (d : Dialect m) (source : Source m) (index : Nat) (i : Token) (s : Machine) :
    m (Except Fault Unit × Machine) :=
  match i with
  | .number v => pure (.ok (), s.push v)
  | .identifier name => do
    let v ← source name
    pure (.ok (), s.push v)
  | .openParen => pure (.ok (), { s with markers := s.markers.pushBack s.signals.size })
  | .call name => s.call d index name
  | .operator op => s.operate d index op
  | .closeParen | .comma => pure (.error (.notAnInstruction i.display index), s)

def run (d : Dialect m) (source : Source m) :
    (index : Nat) → List Token → Machine → m (Except Fault Unit × Machine)
  | _, [], s => pure (.ok (), s)
  | index, i :: rest, s => do
    match ← step d source index i s with
    | (.ok _, next) => run d source (index + 1) rest next
    | (.error fault, next) => pure (.error fault, next)

def result (s : Machine) : Except Fault Float × Machine :=
  if s.signals.size = 1 then
    match s.signals.popBack? with
    | some (v, signals) => (.ok (Signal.settle v), { s with signals })
    | none => (.error (.unbalanced s.signals.size), s)
  else (.error (.unbalanced s.signals.size), s)

def evaluate (d : Dialect m) (source : Source m) (f : Formula) (s : Machine) :
    m (Except Fault Float × Machine) := do
  match ← run d source 0 f.instructions s.clear with
  | (.ok _, s) => pure s.result
  | (.error fault, s) => pure (.error fault, s)

end Machine
end Gauge
