import Gauge.Formula.Assembler
import Gauge.Proofs.Formula.Grammar

/-! # The stack of an assembler

How operators leave the stack, which expressions may stand on it, and what one token does to a state.
-/
namespace Gauge

/-- An expression of level `n` may stand on the stack. -/
def Fits (n : Nat) : List Waiting → Prop
  | .operator op _ :: _ => n ≤ op.operandLevel
  | _ => True

theorem Fits.of_le {n m : Nat} {stack : List Waiting} (h : Fits m stack) (hnm : n ≤ m) :
    Fits n stack := by
  match stack, h with
  | .operator op _ :: _, h => exact Nat.le_trans hnm h
  | .group _ :: _, _ | .call _ _ :: _, _ | [], _ => trivial

theorem fits_one (stack : List Waiting) : Fits 1 stack := by
  match stack with
  | .operator op _ :: _ => exact op.one_le_operandLevel
  | .group _ :: _ | .call _ _ :: _ | [] => trivial

theorem fits_zero (stack : List Waiting) : Fits 0 stack := (fits_one stack).of_le (by decide)

namespace Assembler

theorem pushAll_cons (a : Assembler) (t : Located) (ts : List Located) :
    a.pushAll (t :: ts) = (a.push t).bind fun b => b.pushAll ts := rfl

/-- A name that is held back is a variable unless an opening parenthesis follows. -/
theorem push_of_ne_openParen {a : Assembler} {t : Located} (h : t.token ≠ .openParen) :
    a.push t = { a.settle with callOpened := false, seenAny := true }.place a.callOpened t := by
  unfold push
  split
  · next ht => exact absurd ht h
  · rfl

theorem push_of_lookahead_none {a : Assembler} {t : Located} (h : a.lookahead = none) :
    a.push t = { a with callOpened := false, seenAny := true }.place a.callOpened t := by
  simp only [push, settle, h]

/-- Spilling stops at no operator but a `?`. -/
theorem spill_operator {stack rest : List Waiting} {output : Array Token} {op : Operator}
    {offset : Nat} (h : (spill stack output).1 = .operator op offset :: rest) : op = .choose := by
  induction stack generalizing output with
  | nil => simp [spill] at h
  | cons w stack ih =>
    match w with
    | .group _ | .call _ _ => simp [spill] at h
    | .operator .choose _ => simp only [spill, List.cons.injEq, Waiting.operator.injEq] at h; exact h.1.1.symm
    | .operator (.unary _) _ | .operator (.binary _) _ | .operator .otherwise _ => exact ih h

theorem unwind_eq_ok_iff {stack : List Waiting} {output result : Array Token} :
    unwind stack output = .ok result ↔ spill stack output = ([], result) := by
  induction stack generalizing output with
  | nil => simp [unwind, spill]
  | cons w stack ih =>
    match w with
    | .group _ | .call _ _ | .operator .choose _ => simp [unwind, spill]
    | .operator (.unary _) _ | .operator (.binary _) _ | .operator .otherwise _ => exact ih

/-- Nothing gives way to an operator that comes before its operand. -/
theorem spillTo_unary (op : UnaryOp) (stack : List Waiting) (output : Array Token) :
    spillTo (.unary op) stack output = (stack, output) := by
  match stack with
  | [] | .group _ :: _ | .call _ _ :: _ => rfl
  | .operator top offset :: stack =>
    have hy : top.yieldsTo (.unary op) = false := by
      rw [Bool.eq_false_iff, ne_eq, Operator.yieldsTo_iff]
      exact Nat.not_lt.mpr top.one_le_operandLevel
    rw [spillTo, hy]
    rfl

theorem pushAll_append (a : Assembler) (ts us : List Located) :
    a.pushAll (ts ++ us) = (a.pushAll ts).bind fun b => b.pushAll us := by
  induction ts generalizing a with
  | nil => rfl
  | cons t ts ih =>
    rw [List.cons_append, pushAll_cons, pushAll_cons]
    cases a.push t with
    | error e => rfl
    | ok b => exact ih b

theorem pushAll_cons_of_ok {a b : Assembler} {t : Located} {ts : List Located}
    (h : a.push t = .ok b) : a.pushAll (t :: ts) = b.pushAll ts := by
  rw [pushAll_cons, h]; rfl

theorem pushAll_append_of_ok {a b : Assembler} {ts us : List Located} (h : a.pushAll ts = .ok b) :
    a.pushAll (ts ++ us) = b.pushAll us := by
  rw [pushAll_append, h]; rfl

@[simp] theorem stack_settle (a : Assembler) : a.settle.stack = a.stack := by
  unfold settle; split <;> rfl

@[simp] theorem lookahead_settle (a : Assembler) : a.settle.lookahead = none := by
  unfold settle
  split
  · rfl
  · next hl => exact hl

@[simp] theorem wantsOperator_settle (a : Assembler) : a.settle.wantsOperator = a.wantsOperator := by
  unfold settle; split <;> rfl

@[simp] theorem seenAny_settle (a : Assembler) : a.settle.seenAny = a.seenAny := by
  unfold settle; split <;> rfl

end Assembler
end Gauge
