import Gauge.Token

/-! # The grammar of formulas

An expression is a tree, and its instructions list it in postfix order. The grammar says which tokens
spell which tree. Its levels are the ranks of the operators: primaries stand at level 0, operators before
their operand at level 1, the binary operators of a rank at the level of that rank, from 2 to 11, and
conditionals at level 12. Every level takes in the tighter ones.
-/
namespace Gauge

inductive Expr where
  | number (v : Float)
  | identifier (name : String)
  | unary (op : UnaryOp) (operand : Expr)
  | binary (op : BinaryOp) (left right : Expr)
  | call (name : String) (arguments : List Expr)
  | choice (condition middle last : Expr)

namespace Expr

mutual

/-- The postfix listing of an expression. A call lists a marker before its arguments, and a conditional
its two operators after the middle and after the last part. -/
def instructions : Expr → List Token
  | .number v => [.number v]
  | .identifier name => [.identifier name]
  | .unary op e => e.instructions ++ [.operator (.unary op)]
  | .binary op l r => l.instructions ++ (r.instructions ++ [.operator (.binary op)])
  | .call name es => .openParen :: (instructionsOf es ++ [.call name])
  | .choice c t e =>
    c.instructions ++ (t.instructions ++ (.operator .choose ::
      (e.instructions ++ [.operator .otherwise])))

def instructionsOf : List Expr → List Token
  | [] => []
  | e :: es => e.instructions ++ instructionsOf es

end

theorem instructionsOf_append (es fs : List Expr) :
    instructionsOf (es ++ fs) = instructionsOf es ++ instructionsOf fs := by
  induction es with
  | nil => rfl
  | cons e es ih => simp only [List.cons_append, instructionsOf, ih, List.append_assoc]

end Expr

/-- `Derives n ts e`: the tokens `ts` spell the expression `e` at level `n`. -/
inductive Derives : Nat → List Token → Expr → Prop where
  | number (v : Float) : Derives 0 [.number v] (.number v)
  | identifier (name : String) : Derives 0 [.identifier name] (.identifier name)
  | call (name : String) (parts : List (List Token × Expr)) :
      (∀ p ∈ parts, Derives 12 p.1 p.2) →
      Derives 0 (.identifier name :: .openParen ::
        ([Token.comma].intercalate (parts.map Prod.fst) ++ [.closeParen]))
        (.call name (parts.map Prod.snd))
  | group {ts : List Token} {e : Expr} :
      Derives 12 ts e → Derives 0 (.openParen :: (ts ++ [.closeParen])) e
  | unary (op : UnaryOp) {ts : List Token} {e : Expr} :
      Derives 1 ts e → Derives 1 (.operator (.unary op) :: ts) (.unary op e)
  | binary (op : BinaryOp) {ts us : List Token} {l r : Expr} :
      Derives op.rank ts l → Derives (op.rank - 1) us r →
      Derives op.rank (ts ++ .operator (.binary op) :: us) (.binary op l r)
  | choice {cs ts us : List Token} {c t e : Expr} :
      Derives 11 cs c → Derives 12 ts t → Derives 12 us e →
      Derives 12 (cs ++ .operator .choose :: (ts ++ .operator .otherwise :: us)) (.choice c t e)
  | loosen {n : Nat} {ts : List Token} {e : Expr} :
      n < 12 → Derives n ts e → Derives (n + 1) ts e

theorem Derives.mono {n m : Nat} {ts : List Token} {e : Expr} (h : Derives n ts e) (hnm : n ≤ m)
    (hm : m ≤ 12) : Derives m ts e := by
  induction m with
  | zero => rwa [Nat.le_zero.mp hnm] at h
  | succ m ih =>
    rcases Nat.lt_or_ge m n with hlt | hge
    · rwa [show m + 1 = n by omega]
    · exact .loosen (by omega) (ih hge (by omega))

/-- The last of some arguments has no comma after it. -/
theorem intercalate_comma_concat (parts : List (List Token × Expr)) (us : List Token) :
    [Token.comma].intercalate (parts.map Prod.fst ++ [us]) =
      (parts.flatMap fun p => p.1 ++ [.comma]) ++ us := by
  induction parts with
  | nil => simp
  | cons p parts ih =>
    rw [List.map_cons, List.cons_append, List.intercalate_cons_of_ne_nil (by simp), ih]
    simp

/-! ### Operators and levels -/

/-- The binary operators of the levels from 2 to 11. -/
def BinaryOp.levels : List (List BinaryOp) :=
  [[.multiply, .divide, .modulo], [.add, .subtract], [.shiftLeft, .shiftRight],
    [.greater, .greaterEqual, .less, .lessEqual], [.equal, .notEqual], [.bitAnd], [.bitXor], [.bitOr], [.and],
    [.or]]

theorem BinaryOp.levels_eq :
    levels = (List.range' 2 10).map fun n => BinaryOp.all.filter fun op => op.rank = n := by decide

theorem BinaryOp.two_le_rank (op : BinaryOp) : 2 ≤ op.rank := by cases op <;> decide

theorem BinaryOp.rank_le (op : BinaryOp) : op.rank ≤ 11 := by cases op <;> decide

namespace Operator

/-- The loosest level of an operand that may follow the operator. -/
def operandLevel : Operator → Nat
  | .unary _ => 1
  | .binary op => op.rank - 1
  | .choose | .otherwise => 12

/-- The loosest level of an operand that may come before the operator. -/
def leftLevel : Operator → Nat
  | .binary op => op.rank
  | .choose => 11
  | .unary _ | .otherwise => 12

theorem rank_le (op : Operator) : op.rank ≤ 12 := by
  cases op with
  | binary op => exact Nat.le_trans op.rank_le (by decide)
  | unary _ => exact (by decide : 1 ≤ 12)
  | choose | otherwise => exact Nat.le_refl 12

theorem one_le_operandLevel (op : Operator) : 1 ≤ op.operandLevel := by
  cases op with
  | binary op => have := op.two_le_rank; simp only [operandLevel]; omega
  | unary _ => exact Nat.le_refl 1
  | choose | otherwise => exact (by decide : 1 ≤ 12)

/-- An operator gives way to the next one exactly when what follows it is too tight for that one. -/
theorem yieldsTo_iff (waiting next : Operator) :
    waiting.yieldsTo next = true ↔ waiting.operandLevel < next.rank := by
  cases waiting with
  | binary op =>
    have h := op.two_le_rank
    have hy : (binary op).yieldsTo next =
        (decide (op.rank < next.rank) || (op.rank == next.rank && true)) := rfl
    simp only [hy, operandLevel, Bool.or_eq_true, decide_eq_true_eq, Bool.and_true, beq_iff_eq]
    omega
  | unary _ | choose | otherwise =>
    have hs : (Side.right == Side.left) = false := rfl
    simp only [yieldsTo, side, hs, Bool.and_false, Bool.or_false, decide_eq_true_eq]
    rfl

/-- What gives way to an operator has a rank that may stand before it. -/
theorem rank_le_leftLevel {waiting next : Operator} (h : waiting.yieldsTo next = true) :
    waiting.rank ≤ next.leftLevel := by
  rw [yieldsTo_iff] at h
  cases waiting with
  | unary _ =>
    cases next with
    | binary next => have := next.two_le_rank; simp only [rank, leftLevel]; omega
    | unary _ | choose | otherwise => simp only [rank, leftLevel]; omega
  | binary op =>
    have hop := op.rank_le
    cases next with
    | binary next => simp only [operandLevel, rank] at h; simp only [rank, leftLevel]; omega
    | unary _ | choose | otherwise => simp only [rank, leftLevel]; omega
  | choose | otherwise =>
    have hn := next.rank_le
    simp only [operandLevel] at h
    omega

/-- Conversely, what may stand before a binary operator or a `?` gives way to it. -/
theorem yieldsTo_of_rank_le {waiting next : Operator} (hn : next = .choose ∨ ∃ op, next = .binary op)
    (h : waiting.rank ≤ next.leftLevel) : waiting.yieldsTo next = true := by
  rw [yieldsTo_iff]
  rcases hn with rfl | ⟨next, rfl⟩
  · cases waiting with
    | binary op => have := op.two_le_rank; simp only [rank, leftLevel, operandLevel] at h ⊢; omega
    | unary _ | choose | otherwise => simp only [rank, leftLevel, operandLevel] at h ⊢; omega
  · have hlow := next.two_le_rank
    have hhigh := next.rank_le
    cases waiting with
    | binary op => have := op.two_le_rank; simp only [rank, leftLevel, operandLevel] at h ⊢; omega
    | unary _ | choose | otherwise => simp only [rank, leftLevel, operandLevel] at h ⊢; omega

end Operator
end Gauge
