import Gauge.Dialect.Standard
import Gauge.Proofs.Machine.Evaluation
import Gauge.Proofs.Signal.Words

/-! # Bitwise expressions

An expression of bitwise operators is arithmetic of 32-bit integers in two's complement. Its signal is that of
the integer computed, if all of its leaves are such integers, and missing if one is not.
-/
namespace Gauge

/-- The operation of a bitwise operator on integers. A count of places is taken modulo 32. -/
def BinaryOp.bits? : BinaryOp → Option (ℤ → ℤ → ℤ)
  | .bitAnd => some fun a b => (BitVec.ofInt 32 a &&& BitVec.ofInt 32 b).toInt
  | .bitOr => some fun a b => (BitVec.ofInt 32 a ||| BitVec.ofInt 32 b).toInt
  | .bitXor => some fun a b => (BitVec.ofInt 32 a ^^^ BitVec.ofInt 32 b).toInt
  | .shiftLeft => some fun a b => (a * 2 ^ (b % 32).toNat).bmod (2 ^ 32)
  | .shiftRight => some fun a b => a / 2 ^ (b % 32).toNat
  | _ => none

namespace Expr

def isLeaf : Expr → Bool
  | .number _ | .identifier _ => true
  | _ => false

def IsBitwise : Expr → Prop
  | .number _ | .identifier _ => True
  | .unary op e => op = .complement ∧ e.IsBitwise
  | .binary op l r => op.bits?.isSome ∧ l.IsBitwise ∧ r.IsBitwise
  | .call .. | .choice .. => False

variable (signal : String → Float)

def leaves : Expr → List Float
  | .number v => [v]
  | .identifier name => [signal name]
  | .unary _ e => e.leaves
  | .binary _ l r => l.leaves ++ r.leaves
  | .call .. | .choice .. => []

def bits : Expr → ℤ
  | .number v => ((Signal.value? v).getD 0).num
  | .identifier name => ((Signal.value? (signal name)).getD 0).num
  | .unary _ e => -e.bits - 1
  | .binary op l r => (op.bits?.getD fun _ _ => 0) l.bits r.bits
  | .call .. | .choice .. => 0

end Expr

namespace Signal

def IsWord (v : Float) : Prop := ∃ n : ℤ, -2 ^ 31 ≤ n ∧ n < 2 ^ 31 ∧ value? v = some (n : ℚ)

theorem toWord?_of_isWord {v : Float} (h : IsWord v) :
    ∃ w, toWord? v = some w ∧ w.toInt = ((value? v).getD 0).num := by
  obtain ⟨n, hmin, hmax, hvalue⟩ := h
  have hword : (Int32.ofInt n).toInt = n := Int32.toInt_ofInt_of_le hmin hmax
  refine ⟨Int32.ofInt n, toWord?_of_value? ?_, ?_⟩
  · rw [hword, hvalue]
  · rw [hword, hvalue, Option.getD_some, Rat.num_intCast]

theorem toWord?_of_not_isWord {v : Float} (h : ¬ IsWord v) : toWord? v = none := by
  cases hword : toWord? v with
  | none => rfl
  | some w => exact absurd ⟨w.toInt, w.le_toInt, w.toInt_lt, toWord?_eq_some_iff.mp hword⟩ h

theorem toWord?_settle (v : Float) : toWord? (settle v) = toWord? v := by
  by_cases hfinite : v.isFinite = true
  · rw [settle, if_pos hfinite]
  · have hnone : value? v = none := by
      rw [← Option.not_isSome_iff_eq_none, isSome_value?]
      exact hfinite
    rw [settle, if_neg hfinite, toWord?_of_value?_eq_none hnone, toWord?_eq_none isNaN_missing]

def ofWord? (w : Option Int32) : Float := w.elim missing ofWord

theorem toWord?_ofWord? (w : Option Int32) : toWord? (ofWord? w) = w := by
  cases w with
  | none => exact toWord?_eq_none isNaN_missing
  | some w => exact toWord?_ofWord w

theorem settle_ofWord? (w : Option Int32) : settle (ofWord? w) = ofWord? w := by
  cases w with
  | none => exact settle_missing
  | some w =>
    have hfinite : (ofWord w).isFinite = true := by rw [← isSome_value?, value?_ofWord, Option.isSome_some]
    exact if_pos hfinite

theorem applyUnary_complement (v : Float) :
    applyUnary .complement v = ofWord? ((toWord? v).map fun w => ~~~w) := by
  rw [applyUnary]
  cases toWord? v <;> rfl

theorem onWords_eq (f : Int32 → Int32 → Int32) (v w : Float) :
    onWords f v w = ofWord? ((toWord? v).bind fun a => (toWord? w).map (f a)) := by
  rw [onWords]
  cases toWord? v with
  | none => rfl
  | some a => cases toWord? w <;> rfl

theorem toInt_complement (a : Int32) : (~~~a).toInt = -a.toInt - 1 := by
  have hmin := a.le_toInt
  have hmax := a.toInt_lt
  rw [Int32.toInt_not]
  exact Int.bmod_eq_of_le (by omega) (by omega)

theorem count_eq (b : Int32) : (b.toBitVec.smod 32).toNat = (b.toInt % 32).toNat := by
  have hcount : (b.toBitVec.smod 32).toInt = b.toInt % 32 := by
    rw [BitVec.toInt_smod, Int32.toInt_toBitVec]
    exact Int.fmod_eq_emod_of_nonneg _ (by decide)
  rw [BitVec.toInt_eq_toNat_cond] at hcount
  split at hcount <;> omega

/-- The operations of words are those of their integers. -/
theorem applyBinary_of_bits? {op : BinaryOp} {f : ℤ → ℤ → ℤ} (h : op.bits? = some f) :
    ∃ g : Int32 → Int32 → Int32, applyBinary op = onWords g ∧ ∀ a b, (g a b).toInt = f a.toInt b.toInt := by
  have hof : ∀ a : Int32, BitVec.ofInt 32 a.toInt = a.toBitVec := fun a => BitVec.ofInt_toInt
  cases op with
  | bitAnd =>
    cases h
    refine ⟨_, rfl, fun a b => ?_⟩
    simp only [hof]
    exact congrArg BitVec.toInt (Int32.toBitVec_and a b)
  | bitOr =>
    cases h
    refine ⟨_, rfl, fun a b => ?_⟩
    simp only [hof]
    exact congrArg BitVec.toInt (Int32.toBitVec_or a b)
  | bitXor =>
    cases h
    refine ⟨_, rfl, fun a b => ?_⟩
    simp only [hof]
    exact congrArg BitVec.toInt (Int32.toBitVec_xor a b)
  | shiftLeft =>
    cases h
    refine ⟨_, rfl, fun a b => ?_⟩
    rw [← Int32.toInt_toBitVec, Int32.toBitVec_shiftLeft, BitVec.shiftLeft_eq', count_eq, BitVec.toInt_shiftLeft,
      Nat.shiftLeft_eq, Nat.cast_mul, Nat.cast_pow, Nat.cast_ofNat]
    simp only [← Int32.toInt_toBitVec a, BitVec.toInt_eq_toNat_bmod]
    exact Int.bmod_mul_bmod.symm
  | shiftRight =>
    cases h
    refine ⟨_, rfl, fun a b => ?_⟩
    rw [← Int32.toInt_toBitVec, Int32.toBitVec_shiftRight, BitVec.sshiftRight', count_eq,
      BitVec.toInt_sshiftRight, Int.shiftRight_eq_div_pow, Int32.toInt_toBitVec, Nat.cast_pow, Nat.cast_ofNat]
  | _ => cases h

end Signal

namespace Expr

open Signal

variable (signal : String → Float)

structure Computes (e : Expr) (v : Float) : Prop where
  words : (∀ u ∈ e.leaves signal, IsWord u) → ∃ w, toWord? v = some w ∧ w.toInt = e.bits signal
  stray : ¬ (∀ u ∈ e.leaves signal, IsWord u) → toWord? v = none
  computed : e.isLeaf = false → v = ofWord? (toWord? v)

variable {signal}

theorem computes_leaf {e : Expr} {v : Float} (hleaves : e.leaves signal = [v])
    (hbits : e.bits signal = ((value? v).getD 0).num) (hleaf : e.isLeaf = true) :
    Computes signal e (settle v) := by
  have hall : (∀ u ∈ e.leaves signal, IsWord u) ↔ IsWord v := by rw [hleaves, List.forall_mem_singleton]
  constructor
  · intro h
    rw [toWord?_settle, hbits]
    exact toWord?_of_isWord (hall.mp h)
  · intro h
    rw [toWord?_settle]
    exact toWord?_of_not_isWord (mt hall.mpr h)
  · intro hfalse
    rw [hleaf] at hfalse
    cases hfalse

theorem Computes.unary {e : Expr} {v : Float} (h : Computes signal e v) :
    Computes signal (.unary .complement e) (applyUnary .complement v) := by
  rw [applyUnary_complement]
  constructor
  · intro hleaves
    obtain ⟨w, hw, hbits⟩ := h.words hleaves
    refine ⟨~~~w, ?_, ?_⟩
    · rw [toWord?_ofWord?, hw, Option.map_some]
    · rw [toInt_complement, hbits, bits]
  · intro hleaves
    rw [toWord?_ofWord?, h.stray hleaves, Option.map_none]
  · intro _
    rw [toWord?_ofWord?]

theorem Computes.binary {op : BinaryOp} {f : ℤ → ℤ → ℤ} (hop : op.bits? = some f) {l r : Expr} {v w : Float}
    (hl : Computes signal l v) (hr : Computes signal r w) :
    Computes signal (.binary op l r) (applyBinary op v w) := by
  obtain ⟨g, happly, hg⟩ := applyBinary_of_bits? hop
  have hall : (∀ u ∈ (Expr.binary op l r).leaves signal, IsWord u) ↔
      (∀ u ∈ l.leaves signal, IsWord u) ∧ ∀ u ∈ r.leaves signal, IsWord u := by
    rw [leaves, List.forall_mem_append]
  rw [happly, onWords_eq]
  constructor
  · intro hleaves
    obtain ⟨hleft, hright⟩ := hall.mp hleaves
    obtain ⟨a, ha, hbitsa⟩ := hl.words hleft
    obtain ⟨b, hb, hbitsb⟩ := hr.words hright
    refine ⟨g a b, ?_, ?_⟩
    · rw [toWord?_ofWord?, ha, hb, Option.bind_some, Option.map_some]
    · rw [hg, hbitsa, hbitsb, bits, hop, Option.getD_some]
  · intro hleaves
    rw [toWord?_ofWord?]
    by_cases hleft : ∀ u ∈ l.leaves signal, IsWord u
    · have hright : ¬ ∀ u ∈ r.leaves signal, IsWord u := fun h => hleaves (hall.mpr ⟨hleft, h⟩)
      rw [hr.stray hright]
      cases toWord? v <;> rfl
    · rw [hl.stray hleft, Option.bind_none]
  · intro _
    rw [toWord?_ofWord?]

variable {m : Type → Type} [Monad m] [LawfulMonad m] {d : Dialect m}

/-- An operator with its standard meaning answers what it computes. -/
theorem respond_computed {e : Expr} {v : Float} (h : Computes signal e v) (hleaf : e.isLeaf = false) :
    respond (some (pure v : m Float)) = pure v := by
  rw [respond_some, map_pure, h.computed hleaf, settle_ofWord?, ← h.computed hleaf]

/-- A leaf reads its signal, and an operator computes from what its operands did. -/
theorem eval_bitwise (hd : d.withOperators = d) (e : Expr) (he : e.IsBitwise) :
    ∃ v, e.eval d (fun name => pure (signal name)) = pure v ∧ Computes signal e v := by
  match e with
  | .number v => exact ⟨settle v, by rw [eval, entered_eq_settle], computes_leaf rfl rfl rfl⟩
  | .identifier name =>
    exact ⟨settle (signal name), by rw [eval, map_pure, entered_eq_settle], computes_leaf rfl rfl rfl⟩
  | .unary op e =>
    obtain ⟨rfl, he⟩ := he
    obtain ⟨v, heval, hv⟩ := eval_bitwise hd e he
    have hmeaning : d.unary .complement = some fun v => pure (applyUnary .complement v) := by
      rw [← hd]
      rfl
    refine ⟨_, ?_, hv.unary⟩
    rw [eval, heval, pure_bind, hmeaning, Option.map_some, respond_computed hv.unary rfl]
  | .binary op l r =>
    obtain ⟨hop, hl, hr⟩ := he
    obtain ⟨f, hop⟩ := Option.isSome_iff_exists.mp hop
    obtain ⟨v, hevall, hv⟩ := eval_bitwise hd l hl
    obtain ⟨w, hevalr, hw⟩ := eval_bitwise hd r hr
    have hmeaning : d.binary op = some fun v w => pure (applyBinary op v w) := by
      rw [← hd]
      rfl
    refine ⟨_, ?_, hv.binary hop hw⟩
    rw [eval, hevall, pure_bind, hevalr, pure_bind, hmeaning, Option.map_some,
      respond_computed (hv.binary hop hw) rfl]
  | .call name es => exact he.elim
  | .choice c t e => exact he.elim

end Expr

namespace Machine

open Signal

variable {m : Type → Type} [Monad m] [LawfulMonad m] {d : Dialect m}

/-- A bitwise expression is computed in integers of 32 bits if all of its leaves are such integers, and
else its signal is missing. -/
theorem bitwise_words (hd : d.withOperators = d) (signal : String → Float) {e : Expr} (he : e.IsBitwise)
    (hoperator : e.isLeaf = false) {f : Formula} (hf : f.instructions = e.instructions) (s : Machine) :
    ((∀ v ∈ e.leaves signal, IsWord v) →
      -2 ^ 31 ≤ e.bits signal ∧ e.bits signal < 2 ^ 31 ∧
        value? (ofWhole (e.bits signal)) = some (e.bits signal : ℚ) ∧ (ofWhole (e.bits signal)).isNaN = false ∧
        Prod.fst <$> s.evaluate d (fun name => pure (signal name)) f = pure (.ok (ofWhole (e.bits signal)))) ∧
    (¬ (∀ v ∈ e.leaves signal, IsWord v) →
      ∃ v : Float, v.isNaN = true ∧
        Prod.fst <$> s.evaluate d (fun name => pure (signal name)) f = pure (.ok v)) := by
  obtain ⟨v, heval, hv⟩ := Expr.eval_bitwise hd e he
  have hanswer : Prod.fst <$> s.evaluate d (fun name => pure (signal name)) f = pure (.ok v) := by
    rw [fst_evaluate_listing d _ hf, heval, map_pure]
  constructor
  · intro hleaves
    obtain ⟨w, hw, hbits⟩ := hv.words hleaves
    have hword : v = ofWhole (e.bits signal) := by
      rw [← hbits, hv.computed hoperator, hw]
      rfl
    have hvalue : value? (ofWhole (e.bits signal)) = some (e.bits signal : ℚ) := by
      rw [← hbits]
      exact value?_ofWord w
    rw [← hword] at hvalue ⊢
    rw [← hbits] at hvalue ⊢
    exact ⟨w.le_toInt, w.toInt_lt, hvalue, not_isNaN_of_value? hvalue, hanswer⟩
  · intro hleaves
    have hmissing : v = missing := by
      rw [hv.computed hoperator, hv.stray hleaves]
      rfl
    exact ⟨v, hmissing ▸ isNaN_missing, hanswer⟩

/-- The least word and negative zero in `(a ^ ~b) >> c` with the count `-31`, and in `~h` a half. -/
theorem bitwise_words_least :
    let signal : String → Float := fun name => if name = "a" then -2147483648 else if name = "b" then -0.0 else 0.5
    let e : Expr := .binary .shiftRight (.binary .bitXor (.identifier "a") (.unary .complement (.identifier "b")))
      (.number (-31))
    let half : Expr := .unary .complement (.identifier "h")
    let answer (e : Expr) : Id (Except Fault Float) := Prod.fst <$>
      fresh.evaluate (.standard (pure 0)) (fun name => pure (signal name)) ⟨e.instructions, ""⟩
    answer e = pure (.ok (ofWhole 1073741823)) ∧ ∃ v : Float, v.isNaN = true ∧ answer half = pure (.ok v) := by
  intro signal e half answer
  have hd : (Dialect.standard (pure 0 : Id Float)).withOperators = .standard (pure 0) := rfl
  have hwords : ∀ v ∈ e.leaves signal, IsWord v := by
    have hleast : IsWord (-2147483648) := ⟨-2147483648, by decide, by decide, by decide +kernel⟩
    have hzero : IsWord (-0.0) := ⟨0, by decide, by decide, by decide +kernel⟩
    have hcount : IsWord (-31) := ⟨-31, by decide, by decide, by decide +kernel⟩
    simp only [e, Expr.leaves, signal, List.cons_append, List.nil_append, List.forall_mem_cons]
    exact ⟨hleast, hzero, hcount, fun _ h => nomatch h⟩
  have hhalf : ¬ ∀ v ∈ half.leaves signal, IsWord v := by
    intro h
    obtain ⟨n, -, -, hn⟩ := h 0.5 List.mem_cons_self
    have hvalue : value? 0.5 = some (1 / 2 : ℚ) := by decide +kernel
    have hden := congrArg Rat.den (Option.some.inj (hvalue.symm.trans hn))
    rw [Rat.den_intCast] at hden
    revert hden
    norm_num
  have hbits : e.bits signal = 1073741823 := by decide +kernel
  have hbitwise : e.IsBitwise := ⟨rfl, ⟨rfl, trivial, rfl, trivial⟩, trivial⟩
  have hanswer := (bitwise_words hd signal hbitwise rfl (f := ⟨e.instructions, ""⟩) rfl fresh).1 hwords
  have hmissing :=
    (bitwise_words hd signal (e := half) ⟨rfl, trivial⟩ rfl (f := ⟨half.instructions, ""⟩) rfl fresh).2 hhalf
  rw [hbits] at hanswer
  exact ⟨hanswer.2.2.2.2, hmissing⟩

end Machine
end Gauge
