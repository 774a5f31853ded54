import Mathlib.Data.List.Chain
import Gauge.Proofs.Formula.Parentheses
import Gauge.Proofs.Formula.Soundness

/-! # Precedence on the stack

Between two markers, what an operator on the stack makes of its operands is to be an operand of the operator
right below it. So it binds no looser than that one, and as loosely only where operators of its rank group to the
right.
-/
namespace Gauge

namespace Operator

/-- What one operator makes of its operands may be the last operand of another. -/
def RestsOn (upper lower : Operator) : Prop := upper.rank ≤ lower.operandLevel

theorem operandLevel_le_rank (op : Operator) : op.operandLevel ≤ op.rank := by
  cases op with
  | binary op => exact Nat.sub_le op.rank 1
  | unary _ | choose | otherwise => exact Nat.le_refl _

theorem RestsOn.trans {upper middle lower : Operator} (h : upper.RestsOn middle) (h' : middle.RestsOn lower) :
    upper.RestsOn lower :=
  Nat.le_trans h (Nat.le_trans middle.operandLevel_le_rank h')

instance : Trans RestsOn RestsOn RestsOn := ⟨RestsOn.trans⟩

def IsUnary (op : Operator) : Prop := ∃ sign, op = .unary sign

def IsConditional (op : Operator) : Prop := op = .choose ∨ op = .otherwise

structure LiesOver (upper lower : Operator) : Prop where
  rank_le : upper.rank ≤ lower.rank
  of_rank_eq : upper.rank = lower.rank →
    (upper.IsUnary ∧ lower.IsUnary) ∨ (upper.IsConditional ∧ lower.IsConditional)
  isUnary : lower.IsUnary → upper.IsUnary

theorem isUnary_of_rank_le_one {op : Operator} (h : op.rank ≤ 1) : op.IsUnary := by
  cases op with
  | unary sign => exact ⟨sign, rfl⟩
  | binary op => exact absurd (Nat.le_trans op.two_le_rank h) (by decide)
  | choose | otherwise => exact absurd h (by decide)

theorem isConditional_of_rank_eq {op : Operator} (h : op.rank = 12) : op.IsConditional := by
  cases op with
  | unary _ => cases h
  | binary op => exact absurd (Nat.le_trans (Nat.le_of_eq h.symm) op.rank_le) (by decide)
  | choose => exact .inl rfl
  | otherwise => exact .inr rfl

theorem RestsOn.liesOver {upper lower : Operator} (h : upper.RestsOn lower) : upper.LiesOver lower := by
  refine ⟨Nat.le_trans h lower.operandLevel_le_rank, ?_, ?_⟩
  · intro hrank
    cases lower with
    | unary sign => exact .inl ⟨isUnary_of_rank_le_one h, sign, rfl⟩
    | binary op =>
      -- Operators of this rank group to the left, so the lower one would have given way.
      have hlow := op.two_le_rank
      simp only [RestsOn, operandLevel, rank] at h hrank
      omega
    | choose => exact .inr ⟨isConditional_of_rank_eq hrank, .inl rfl⟩
    | otherwise => exact .inr ⟨isConditional_of_rank_eq hrank, .inr rfl⟩
  · rintro ⟨sign, rfl⟩
    exact isUnary_of_rank_le_one h

end Operator

def Waiting.Over : Waiting → Waiting → Prop
  | .operator upper _, .operator lower _ => upper.RestsOn lower
  | _, _ => True

theorem isChain_cons_operator (op : Operator) (offset : Nat) {stack : List Waiting}
    (hfit : Fits op.rank stack) (h : stack.IsChain Waiting.Over) :
    (Waiting.operator op offset :: stack).IsChain Waiting.Over := by
  match stack, hfit with
  | .operator _ _ :: _, hfit => exact .cons_cons hfit h
  | .group _ :: _, _ | .call _ _ :: _, _ => exact .cons_cons trivial h
  | [], _ => exact .singleton _

/-- Where an operand is awaited, the stack is ordered: the grammar has put each operator where it fits. -/
theorem Awaits.ordered {ts : List Token} {stack : List Waiting} {output : List Token}
    (h : Awaits ts stack output) : stack.IsChain Waiting.Over := by
  induction h with
  | start => exact .nil
  | group offset _ ih => exact List.isChain_cons.mpr ⟨fun _ _ => trivial, ih⟩
  | call name offset parts _ _ ih => exact List.isChain_cons.mpr ⟨fun _ _ => trivial, ih⟩
  | unary op offset _ ih => exact isChain_cons_operator (.unary op) offset (fits_one _) ih
  | binary op offset _ _ hfit ih => exact isChain_cons_operator (.binary op) offset hfit ih
  | choose offset _ _ hfit ih => exact isChain_cons_operator .choose offset hfit ih
  | otherwise offset _ _ _ hfit ih => exact isChain_cons_operator .otherwise offset hfit ih

theorem Reads.ordered {ts : List Token} {a : Assembler} (h : Reads ts a) :
    a.stack.IsChain Waiting.Over := by
  cases h with
  | operand seen h => exact h.ordered
  | opened name offset h => exact List.isChain_cons.mpr ⟨fun _ _ => trivial, h.ordered⟩
  | held name offset h => exact h.ordered
  | operator h =>
    obtain ⟨_, _, _, _, ha, -⟩ := h
    exact ha.ordered

namespace Assembler

theorem pairwise_restsOn {stack : List Waiting} (h : stack.IsChain Waiting.Over)
    {ops : List (Operator × Nat)} (hops : (ops.map fun p => Waiting.operator p.1 p.2) <:+: stack) :
    ops.Pairwise fun upper lower => upper.1.RestsOn lower.1 := by
  have hstretch := List.IsChain.infix h hops
  have hchain : ops.IsChain fun upper lower => upper.1.RestsOn lower.1 :=
    (List.isChain_map fun p : Operator × Nat => Waiting.operator p.1 p.2).mp hstretch
  exact hchain.pairwise

/-- After any tokens that are taken, no operator binds looser than one below it with no marker between them. Two
such operators of one rank are both written before their operand or both parts of a conditional, and over an
operator before its operand lie only operators of this kind. The markers are those of the parentheses that are not
closed. -/
theorem stack_ordered_by_rank {ts : List Located} {b : Assembler} (h : pushAll {} ts = .ok b) :
    (∀ ops : List (Operator × Nat), (ops.map fun p => Waiting.operator p.1 p.2) <:+: b.stack →
      ops.Pairwise fun upper lower => upper.1.LiesOver lower.1) ∧
    b.stack.filter Waiting.isMarker = (Parentheses.unclosed none ts).reverse := by
  refine ⟨fun ops hops => ?_, (markers_pushAll h).1⟩
  have hordered := (reads_pushAll reads_start h).ordered
  exact (pairwise_restsOn hordered hops).imp Operator.RestsOn.liesOver

/-- In `a+b*max(c,x?(d):e?-!(f*~` the call and the last group are open. Between their markers lie two operators
before their operand, a `?` and a `:`, and below them a product over a sum. -/
theorem stack_ordered_by_rank_mixed :
    ∃ b, pushAll {} (Scan.ofString "a+b*max(c,x?(d):e?-!(f*~").tokens = .ok b ∧
      b.stack =
        [.operator (.unary .complement) 23, .operator (.binary .multiply) 22, .group 20,
          .operator (.unary .not) 19, .operator (.unary .minus) 18, .operator .choose 17,
          .operator .otherwise 15, .call "max" 4, .operator (.binary .multiply) 3, .operator (.binary .add) 1] ∧
      [(Operator.unary .not, 19), (.unary .minus, 18), (.choose, 17), (.otherwise, 15)].Pairwise
        (fun upper lower => upper.1.LiesOver lower.1) ∧
      [(Operator.binary .multiply, 3), (.binary .add, 1)].Pairwise
        (fun upper lower => upper.1.LiesOver lower.1) ∧
      Parentheses.unclosed none (Scan.ofString "a+b*max(c,x?(d):e?-!(f*~").tokens =
        [.call "max" 4, .group 20] := by
  have htaken : pushAll {} (Scan.ofString "a+b*max(c,x?(d):e?-!(f*~").tokens = .ok _ := rfl
  obtain ⟨hordered, hmarkers⟩ := stack_ordered_by_rank htaken
  refine ⟨_, htaken, rfl, ?_, ?_, ?_⟩
  · refine hordered _ ?_
    exact ⟨[.operator (.unary .complement) 23, .operator (.binary .multiply) 22, .group 20],
      [.call "max" 4, .operator (.binary .multiply) 3, .operator (.binary .add) 1], rfl⟩
  · refine hordered _ ?_
    exact ⟨[.operator (.unary .complement) 23, .operator (.binary .multiply) 22, .group 20,
      .operator (.unary .not) 19, .operator (.unary .minus) 18, .operator .choose 17, .operator .otherwise 15,
      .call "max" 4], [], rfl⟩
  · exact List.reverse_eq_iff.mp hmarkers.symm

end Assembler
end Gauge
