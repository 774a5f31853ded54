import Gauge.Proofs.Formula.Stack

/-! # What the grammar derives is assembled

From any state that awaits an operand, the tokens of an expression are taken. They leave some operators
above the stack as it was, which a looser operator or the end of the group moves to the output, and then
the output has gained exactly the listing of the expression.
-/
namespace Gauge.Assembler

def pending (ps : List (Operator × Nat)) : List Waiting := ps.map fun p => .operator p.1 p.2

theorem spillTo_pending {next : Operator} (ps : List (Operator × Nat)) {stack : List Waiting}
    (output : Array Token) (hps : ∀ p ∈ ps, p.1.yieldsTo next = true) (hf : Fits next.rank stack) :
    ∃ out, spillTo next (pending ps ++ stack) output = (stack, out) ∧
      out.toList = output.toList ++ ps.map fun p => .operator p.1 := by
  induction ps generalizing output with
  | nil =>
    refine ⟨output, ?_, by simp⟩
    match stack, hf with
    | [], _ | .group _ :: _, _ | .call _ _ :: _, _ => rfl
    | .operator top offset :: stack, hf =>
      have hy : top.yieldsTo next = false := by
        rw [Bool.eq_false_iff, ne_eq, Operator.yieldsTo_iff]
        exact Nat.not_lt.mpr hf
      simp [pending, spillTo, hy]
  | cons p ps ih =>
    obtain ⟨hp, hps⟩ := List.forall_mem_cons.mp hps
    obtain ⟨out, hs, ho⟩ := ih (output.push (.operator p.1)) hps
    refine ⟨out, ?_, by simp [ho]⟩
    simpa [pending, spillTo, hp] using hs

theorem spill_pending (ps : List (Operator × Nat)) (stack : List Waiting) (output : Array Token)
    (hps : ∀ p ∈ ps, p.1 ≠ .choose) :
    ∃ out, spill (pending ps ++ stack) output = spill stack out ∧
      out.toList = output.toList ++ ps.map fun p => .operator p.1 := by
  induction ps generalizing output with
  | nil => exact ⟨output, rfl, by simp⟩
  | cons p ps ih =>
    obtain ⟨hp, hps⟩ := List.forall_mem_cons.mp hps
    obtain ⟨out, hs, ho⟩ := ih (output.push (.operator p.1)) hps
    refine ⟨out, ?_, by simp [ho]⟩
    rw [← hs]
    obtain ⟨op, offset⟩ := p
    cases op with
    | choose => exact absurd rfl hp
    | unary op | binary op | otherwise => rfl

/-- An operand of level `n` has been taken: what still has to leave the stack above `stack` are operators
that may stand in such an operand, and with them the output is `output`. -/
def Holds (n : Nat) (stack : List Waiting) (output : List Token) (b : Assembler) : Prop :=
  ∃ ps out, b.settle = ⟨pending ps ++ stack, out, none, true, false, true⟩ ∧
    (∀ p ∈ ps, p.1 ≠ .choose ∧ p.1.rank ≤ n) ∧
    out.toList ++ (ps.map fun p => Token.operator p.1) = output

def Ready (stack : List Waiting) (output : List Token) (a : Assembler) : Prop :=
  a.stack = stack ∧ a.output.toList = output ∧ a.lookahead = none ∧ a.wantsOperator = false

theorem Ready.mk (stack : List Waiting) (output : Array Token) (opened seen : Bool) :
    Ready stack output.toList ⟨stack, output, none, false, opened, seen⟩ := ⟨rfl, rfl, rfl, rfl⟩

namespace Holds

variable {n : Nat} {stack : List Waiting} {output : List Token} {b : Assembler}

theorem mono {m : Nat} (h : Holds n stack output b) (hnm : n ≤ m) : Holds m stack output b := by
  obtain ⟨ps, out, hb, hps, ho⟩ := h
  exact ⟨ps, out, hb, fun p hp => ⟨(hps p hp).1, Nat.le_trans (hps p hp).2 hnm⟩, ho⟩

theorem primary (stack : List Waiting) (output : Array Token) :
    Holds 0 stack output.toList ⟨stack, output, none, true, false, true⟩ :=
  ⟨[], output, rfl, nofun, by simp⟩

/-- An operator between operands takes the operand before it off the stack. -/
theorem push_operator {next : Operator} (offset : Nat) (h : Holds n stack output b)
    (hn : next = .choose ∨ ∃ op, next = .binary op) (hl : n ≤ next.leftLevel)
    (hf : Fits next.rank stack) :
    ∃ c, b.push ⟨.operator next, offset⟩ = .ok c ∧
      Ready (.operator next offset :: stack) output c := by
  obtain ⟨ps, out, hb, hps, rfl⟩ := h
  obtain ⟨out', hs, ho⟩ := spillTo_pending ps out
    (fun p hp => Operator.yieldsTo_of_rank_le hn (Nat.le_trans (hps p hp).2 hl)) hf
  rw [push_of_ne_openParen (by simp), hb, ← ho]
  refine ⟨_, ?_, Ready.mk (.operator next offset :: stack) out' false true⟩
  rcases hn with rfl | ⟨op, rfl⟩
  all_goals simp only [place, await, hs, if_true]

/-- A closing parenthesis, a comma or a colon takes every operator down to the place it closes. -/
theorem settle_spill (h : Holds n stack output b) :
    ∃ out' ps out, b.settle = ⟨pending ps ++ stack, out, none, true, false, true⟩ ∧
      spill (pending ps ++ stack) out = spill stack out' ∧ out'.toList = output := by
  obtain ⟨ps, out, hb, hps, rfl⟩ := h
  obtain ⟨out', hs, ho⟩ := spill_pending ps stack out fun p hp => (hps p hp).1
  exact ⟨out', ps, out, hb, hs, ho⟩

theorem push_closeGroup {start : Nat} (offset : Nat) (h : Holds n (.group start :: stack) output b) :
    ∃ c, b.push ⟨.closeParen, offset⟩ = .ok c ∧ Holds 0 stack output c := by
  obtain ⟨out', ps, out, hb, hs, rfl⟩ := h.settle_spill
  rw [push_of_ne_openParen (by simp), hb]
  refine ⟨_, ?_, primary stack out'⟩
  simp only [place, Bool.true_or, if_true, closeGroup, hs, spill]

theorem push_closeCall {name : String} {start : Nat} (offset : Nat)
    (h : Holds n (.call name start :: stack) output b) :
    ∃ c, b.push ⟨.closeParen, offset⟩ = .ok c ∧ Holds 0 stack (output ++ [.call name]) c := by
  obtain ⟨out', ps, out, hb, hs, rfl⟩ := h.settle_spill
  rw [push_of_ne_openParen (by simp), hb, ← Array.toList_push]
  refine ⟨_, ?_, primary stack (out'.push (.call name))⟩
  simp only [place, Bool.true_or, if_true, closeGroup, hs, spill]

theorem push_comma {name : String} {start : Nat} (offset : Nat)
    (h : Holds n (.call name start :: stack) output b) :
    ∃ c, b.push ⟨.comma, offset⟩ = .ok c ∧ Ready (.call name start :: stack) output c := by
  obtain ⟨out', ps, out, hb, hs, rfl⟩ := h.settle_spill
  rw [push_of_ne_openParen (by simp), hb]
  refine ⟨_, ?_, Ready.mk (.call name start :: stack) out' false true⟩
  simp only [place, if_true, closeArgument, hs, spill]

theorem push_otherwise {start : Nat} (offset : Nat)
    (h : Holds n (.operator .choose start :: stack) output b) :
    ∃ c, b.push ⟨.operator .otherwise, offset⟩ = .ok c ∧
      Ready (.operator .otherwise offset :: stack) (output ++ [.operator .choose]) c := by
  obtain ⟨out', ps, out, hb, hs, rfl⟩ := h.settle_spill
  rw [push_of_ne_openParen (by simp), hb, ← Array.toList_push]
  refine ⟨_, ?_, Ready.mk (.operator .otherwise offset :: stack) (out'.push _) false true⟩
  simp only [place, if_true, closeChoice, hs, spill]

/-- Operators below those still pending are pending as well. -/
theorem under {op : Operator} {offset m : Nat} (h : Holds n (.operator op offset :: stack) output b)
    (hop : op ≠ .choose) (hr : op.rank ≤ m) (hnm : n ≤ m) :
    Holds m stack (output ++ [.operator op]) b := by
  obtain ⟨ps, out, hb, hps, rfl⟩ := h
  refine ⟨ps ++ [(op, offset)], out, ?_, ?_, by simp⟩
  · simpa [pending] using hb
  · intro p hp
    rcases List.mem_append.mp hp with hp | hp
    · exact ⟨(hps p hp).1, Nat.le_trans (hps p hp).2 hnm⟩
    · rw [List.mem_singleton.mp hp]
      exact ⟨hop, hr⟩

/-- At the end of the text everything that is pending leaves the stack. -/
theorem finish (h : Holds n [] output b) : ∃ f, b.finish = .ok f ∧ f.instructions = output := by
  have hseen := seenAny_settle b
  have hwants := wantsOperator_settle b
  obtain ⟨out', ps, out, hb, hs, rfl⟩ := h.settle_spill
  rw [hb] at hseen hwants
  refine ⟨.ofInstructions out'.toList, ?_, rfl⟩
  have hu : unwind (pending ps ++ []) out = .ok out' := unwind_eq_ok_iff.mpr hs
  simp only [Assembler.finish, ← hseen, ← hwants, Bool.not_true, Bool.false_eq_true, if_false, hb, hu,
    Except.map]

end Holds

namespace Ready

variable {stack : List Waiting} {output : List Token} {a : Assembler}

theorem push_number (v : Float) (offset : Nat) (h : Ready stack output a) :
    ∃ c, a.push ⟨.number v, offset⟩ = .ok c ∧ Holds 0 stack (output ++ [.number v]) c := by
  obtain ⟨rfl, rfl, hl, hw⟩ := h
  rw [push_of_lookahead_none hl, ← Array.toList_push]
  refine ⟨_, ?_, Holds.primary a.stack (a.output.push (.number v))⟩
  simp only [place, hw, hl, Bool.false_eq_true, if_false]

theorem push_identifier (name : String) (offset : Nat) (h : Ready stack output a) :
    ∃ c, a.push ⟨.identifier name, offset⟩ = .ok c ∧
      c = ⟨stack, a.output, some (name, offset), true, false, true⟩ ∧
      Holds 0 stack (output ++ [.identifier name]) c := by
  obtain ⟨rfl, rfl, hl, hw⟩ := h
  rw [push_of_lookahead_none hl, ← Array.toList_push]
  refine ⟨⟨a.stack, a.output, some (name, offset), true, false, true⟩, ?_, rfl, ?_⟩
  · simp only [place, hw, Bool.false_eq_true, if_false]
  · exact ⟨[], a.output.push (.identifier name), rfl, nofun, by simp⟩

theorem push_group (offset : Nat) (h : Ready stack output a) :
    ∃ c, a.push ⟨.openParen, offset⟩ = .ok c ∧ Ready (.group offset :: stack) output c := by
  obtain ⟨rfl, rfl, hl, hw⟩ := h
  rw [push_of_lookahead_none hl]
  refine ⟨_, ?_, Ready.mk (.group offset :: a.stack) a.output false true⟩
  simp only [place, hw, hl, Bool.false_eq_true, if_false]

theorem push_unary (op : UnaryOp) (offset : Nat) (h : Ready stack output a) :
    ∃ c, a.push ⟨.operator (.unary op), offset⟩ = .ok c ∧
      Ready (.operator (.unary op) offset :: stack) output c := by
  obtain ⟨rfl, rfl, hl, hw⟩ := h
  rw [push_of_lookahead_none hl]
  refine ⟨_, ?_, Ready.mk (.operator (.unary op) offset :: a.stack) a.output false true⟩
  simp only [place, await, spillTo_unary, hw, hl, Bool.false_eq_true, if_false]

/-- A name and an opening parenthesis open a call, which may end at once. -/
theorem pushAll_call (name : String) (start offset : Nat) (h : Ready stack output a) :
    ∃ c, a.pushAll [⟨.identifier name, start⟩, ⟨.openParen, offset⟩] = .ok c ∧
      Ready (.call name start :: stack) (output ++ [.openParen]) c ∧
      ∀ last, ∃ d, c.push ⟨.closeParen, last⟩ = .ok d ∧
        Holds 0 stack (output ++ [.openParen] ++ [.call name]) d := by
  obtain ⟨b, hb, rfl, -⟩ := h.push_identifier name start
  obtain ⟨rfl, rfl, hl, hw⟩ := h
  rw [pushAll_cons_of_ok hb, ← Array.toList_push, ← Array.toList_push]
  refine ⟨_, rfl, Ready.mk _ (a.output.push .openParen) true true, fun last => ?_⟩
  exact ⟨_, rfl, Holds.primary a.stack _⟩

end Ready

/-- The arguments of an open call, at least one, are taken when each of them is. -/
theorem pushAll_arguments {name : String} {start : Nat} {stack : List Waiting}
    (p : List Token × Expr) (parts : List (List Token × Expr))
    (ih : ∀ q ∈ p :: parts, ∀ (ts : List Located) (a : Assembler) (stack : List Waiting)
      (output : List Token), ts.map Located.token = q.1 → Ready stack output a → Fits 12 stack →
      ∃ b, a.pushAll ts = .ok b ∧ Holds 12 stack (output ++ q.2.instructions) b)
    (ts : List Located) (a : Assembler) (output : List Token)
    (hts : ts.map Located.token = [Token.comma].intercalate ((p :: parts).map Prod.fst))
    (ha : Ready (.call name start :: stack) output a) :
    ∃ b, a.pushAll ts = .ok b ∧
      Holds 12 (.call name start :: stack)
        (output ++ Expr.instructionsOf ((p :: parts).map Prod.snd)) b := by
  induction parts generalizing p ts a output with
  | nil =>
    obtain ⟨b, hb, hh⟩ := ih p (by simp) ts a _ output (by simpa using hts) ha trivial
    exact ⟨b, hb, by simpa [Expr.instructionsOf] using hh⟩
  | cons q parts hrest =>
    simp only [List.map_cons, List.intercalate_cons_cons, List.append_assoc, List.singleton_append] at hts
    obtain ⟨us, vs', rfl, hus, hvs'⟩ := List.map_eq_append_iff.mp hts
    obtain ⟨t, vs, rfl, ht, hvs⟩ := List.map_eq_cons_iff.mp hvs'
    obtain ⟨token, offset⟩ := t
    obtain rfl : token = .comma := ht
    obtain ⟨b, hb, hh⟩ := ih p (by simp) us a _ output hus ha trivial
    obtain ⟨c, hc, hr⟩ := hh.push_comma offset
    obtain ⟨d, hd, hh⟩ := hrest q (fun r hr => ih r (List.mem_cons_of_mem p hr)) vs c _
      (by rw [hvs, List.map_cons]) hr
    refine ⟨d, ?_, by simpa [Expr.instructionsOf] using hh⟩
    rw [pushAll_append_of_ok hb, pushAll_cons_of_ok hc, hd]

/-- The tokens of an expression are taken wherever one of its level fits. -/
theorem pushAll_derives {n : Nat} {us : List Token} {e : Expr} (h : Derives n us e)
    (ts : List Located) (a : Assembler) (stack : List Waiting) (output : List Token)
    (hts : ts.map Located.token = us) (ha : Ready stack output a) (hf : Fits n stack) :
    ∃ b, a.pushAll ts = .ok b ∧ Holds n stack (output ++ e.instructions) b := by
  induction h generalizing ts a stack output with
  | number v =>
    obtain ⟨⟨_, offset⟩, rfl, rfl⟩ := List.map_eq_singleton_iff.mp hts
    obtain ⟨c, hc, hh⟩ := ha.push_number v offset
    exact ⟨c, by rw [pushAll_cons_of_ok hc]; rfl, hh⟩
  | identifier name =>
    obtain ⟨⟨_, offset⟩, rfl, rfl⟩ := List.map_eq_singleton_iff.mp hts
    obtain ⟨c, hc, -, hh⟩ := ha.push_identifier name offset
    exact ⟨c, by rw [pushAll_cons_of_ok hc]; rfl, hh⟩
  | call name parts hp ih =>
    obtain ⟨⟨_, start⟩, vs, rfl, rfl, hvs⟩ := List.map_eq_cons_iff.mp hts
    obtain ⟨⟨_, offset⟩, ws, rfl, rfl, hws⟩ := List.map_eq_cons_iff.mp hvs
    obtain ⟨xs, ys, rfl, hxs, hys⟩ := List.map_eq_append_iff.mp hws
    obtain ⟨⟨_, last⟩, rfl, rfl⟩ := List.map_eq_singleton_iff.mp hys
    obtain ⟨c, hc, hr, hclose⟩ := ha.pushAll_call name start offset
    have hall : ∀ zs, a.pushAll (⟨.identifier name, start⟩ :: ⟨.openParen, offset⟩ :: zs) =
        c.pushAll zs := fun zs => pushAll_append_of_ok hc
    cases parts with
    | nil =>
      obtain rfl : xs = [] := List.map_eq_nil_iff.mp hxs
      obtain ⟨d, hd, hh⟩ := hclose last
      refine ⟨d, by rw [hall, List.nil_append, pushAll_cons_of_ok hd]; rfl, ?_⟩
      simpa [Expr.instructions, Expr.instructionsOf] using hh
    | cons p parts =>
      obtain ⟨d, hd, hh⟩ := pushAll_arguments p parts ih xs c _ hxs hr
      obtain ⟨f, hf', hh⟩ := hh.push_closeCall last
      refine ⟨f, by rw [hall, pushAll_append_of_ok hd, pushAll_cons_of_ok hf']; rfl, ?_⟩
      simpa [Expr.instructions] using hh
  | group hd ih =>
    obtain ⟨⟨_, offset⟩, vs, rfl, rfl, hvs⟩ := List.map_eq_cons_iff.mp hts
    obtain ⟨xs, ys, rfl, hxs, hys⟩ := List.map_eq_append_iff.mp hvs
    obtain ⟨⟨_, last⟩, rfl, rfl⟩ := List.map_eq_singleton_iff.mp hys
    obtain ⟨b, hb, hr⟩ := ha.push_group offset
    obtain ⟨c, hc, hh⟩ := ih xs b _ _ hxs hr trivial
    obtain ⟨d, hd, hh⟩ := hh.push_closeGroup last
    exact ⟨d, by rw [pushAll_cons_of_ok hb, pushAll_append_of_ok hc, pushAll_cons_of_ok hd]; rfl, hh⟩
  | unary op hd ih =>
    obtain ⟨⟨_, offset⟩, vs, rfl, rfl, hvs⟩ := List.map_eq_cons_iff.mp hts
    obtain ⟨b, hb, hr⟩ := ha.push_unary op offset
    obtain ⟨c, hc, hh⟩ := ih vs b _ _ hvs hr (Nat.le_refl 1)
    refine ⟨c, by rw [pushAll_cons_of_ok hb, hc], ?_⟩
    simpa [Expr.instructions] using hh.under (by simp) (Nat.le_refl 1) (Nat.le_refl 1)
  | binary op hl hr ihl ihr =>
    obtain ⟨xs, ys, rfl, hxs, hys⟩ := List.map_eq_append_iff.mp hts
    obtain ⟨⟨_, offset⟩, zs, rfl, rfl, hzs⟩ := List.map_eq_cons_iff.mp hys
    obtain ⟨b, hb, hh⟩ := ihl xs a _ _ hxs ha hf
    obtain ⟨c, hc, hr⟩ := hh.push_operator offset (.inr ⟨op, rfl⟩) (Nat.le_refl op.rank) hf
    obtain ⟨d, hd, hh⟩ := ihr zs c _ _ hzs hr (Nat.le_refl (op.rank - 1))
    refine ⟨d, by rw [pushAll_append_of_ok hb, pushAll_cons_of_ok hc, hd], ?_⟩
    simpa [Expr.instructions] using hh.under (by simp) (Nat.le_refl op.rank) (Nat.sub_le op.rank 1)
  | choice hc ht he ihc iht ihe =>
    obtain ⟨xs, ys, rfl, hxs, hys⟩ := List.map_eq_append_iff.mp hts
    obtain ⟨⟨_, first⟩, zs, rfl, rfl, hzs⟩ := List.map_eq_cons_iff.mp hys
    obtain ⟨us, vs, rfl, hus, hvs⟩ := List.map_eq_append_iff.mp hzs
    obtain ⟨⟨_, second⟩, ws, rfl, rfl, hws⟩ := List.map_eq_cons_iff.mp hvs
    obtain ⟨b, hb, hh⟩ := ihc xs a _ _ hxs ha (hf.of_le (by decide))
    obtain ⟨c, hc, hr⟩ := hh.push_operator first (.inl rfl) (Nat.le_refl 11) hf
    obtain ⟨d, hd, hh⟩ := iht us c _ _ hus hr (Nat.le_refl 12)
    obtain ⟨f, hf', hr⟩ := hh.push_otherwise second
    obtain ⟨g, hg, hh⟩ := ihe ws f _ _ hws hr (Nat.le_refl 12)
    refine ⟨g, ?_, ?_⟩
    · rw [pushAll_append_of_ok hb, pushAll_cons_of_ok hc, pushAll_append_of_ok hd,
        pushAll_cons_of_ok hf', hg]
    · simpa [Expr.instructions] using hh.under (by simp) (Nat.le_refl 12) (Nat.le_refl 12)
  | loosen hn hd ih =>
    obtain ⟨b, hb, hh⟩ := ih ts a stack output hts ha (hf.of_le (Nat.le_succ _))
    exact ⟨b, hb, hh.mono (Nat.le_succ _)⟩

end Gauge.Assembler
