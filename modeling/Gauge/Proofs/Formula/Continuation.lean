import Gauge.Proofs.Formula.Recognition
import Gauge.Proofs.Formula.Step

/-! # Continuations

What an assembler has taken is always the beginning of an expression. A number answers an operand that is
awaited, and from the top of the stack down every group and call is closed and every conditional is given
its last part. So a token is refused as soon as no expression begins with the tokens up to it.
-/
namespace Gauge

/-- Where an operand of a fitting level stands, more tokens make an expression of the whole. -/
theorem Awaits.exists_derives {ts us : List Token} {stack : List Waiting} {output : List Token}
    {n : Nat} {e : Expr} (h : Awaits ts stack output) (hd : Derives n us e) (hn : n ≤ 12)
    (hf : Fits n stack) : ∃ vs f, Derives 12 (ts ++ us ++ vs) f := by
  -- Down the stack: each entry and the operand above it make an operand of what the entry below awaits.
  induction h generalizing n us e with
  | start => exact ⟨[], e, by simpa using hd.mono hn (Nat.le_refl 12)⟩
  | group offset _ ih =>
    have hgroup := Derives.group (hd.mono hn (Nat.le_refl 12))
    obtain ⟨vs, f, hvs⟩ := ih hgroup (by decide) (fits_zero _)
    exact ⟨.closeParen :: vs, f, by simpa using hvs⟩
  | call name offset parts _ hparts ih =>
    have hlast := derives_concat hparts (hd.mono hn (Nat.le_refl 12))
    have hcall := Derives.call name (parts ++ [(us, e)]) hlast
    rw [List.map_append, List.map_singleton, intercalate_comma_concat] at hcall
    obtain ⟨vs, f, hvs⟩ := ih hcall (by decide) (fits_zero _)
    exact ⟨.closeParen :: vs, f, by simpa using hvs⟩
  | unary op offset _ ih =>
    have hunary := Derives.unary op (hd.mono hf (by decide))
    obtain ⟨vs, f, hvs⟩ := ih hunary (by decide) (fits_one _)
    exact ⟨vs, f, by simpa using hvs⟩
  | binary op offset _ hleft hfit ih =>
    have hhigh := op.rank_le
    have hright : Derives (op.rank - 1) us e := hd.mono hf (by omega)
    obtain ⟨vs, f, hvs⟩ := ih (Derives.binary op hleft hright) (by omega) hfit
    exact ⟨vs, f, by simpa using hvs⟩
  | choose offset _ hcondition hfit ih =>
    have hmiddle := hd.mono hn (Nat.le_refl 12)
    have hlast : Derives 12 [.number 0] _ := .mono (.number 0) (by decide) (by decide)
    obtain ⟨vs, f, hvs⟩ := ih (Derives.choice hcondition hmiddle hlast) (by decide) hfit
    exact ⟨.operator .otherwise :: .number 0 :: vs, f, by simpa using hvs⟩
  | otherwise offset _ hcondition hmiddle hfit ih =>
    have hlast := hd.mono hn (Nat.le_refl 12)
    obtain ⟨vs, f, hvs⟩ := ih (Derives.choice hcondition hmiddle hlast) (by decide) hfit
    exact ⟨vs, f, by simpa using hvs⟩

theorem Reads.exists_derives {ts : List Token} {a : Assembler} (h : Reads ts a) :
    ∃ vs e, Derives 12 (ts ++ vs) e := by
  cases h with
  | operand seen h =>
    obtain ⟨vs, e, he⟩ := h.exists_derives (.number 0) (by decide) (fits_zero _)
    exact ⟨.number 0 :: vs, e, by simpa using he⟩
  | opened name offset h =>
    have hcall := Derives.call name [] nofun
    obtain ⟨vs, e, he⟩ := h.exists_derives hcall (by decide) (fits_zero _)
    exact ⟨.closeParen :: vs, e, by simpa using he⟩
  | held name offset h =>
    obtain ⟨vs, e, he⟩ := h.exists_derives (.identifier name) (by decide) (fits_zero _)
    exact ⟨vs, e, he⟩
  | operator h =>
    obtain ⟨before, us, _, e, ha, hd, -, rfl, -⟩ := h
    exact ha.exists_derives hd (by decide) (fits_zero _)

namespace Assembler

/-- Tokens are taken exactly if some tokens that begin with them are taken and end in a formula. -/
theorem pushAll_ok_iff_extends (ts : List Located) :
    (∃ a, pushAll {} ts = .ok a) ↔
      ∃ whole, ts <+: whole ∧ ∃ a f, pushAll {} whole = .ok a ∧ a.finish = .ok f := by
  constructor
  · rintro ⟨a, ha⟩
    obtain ⟨vs, e, he⟩ := Reads.exists_derives (reads_pushAll reads_start ha)
    -- The offsets of the tokens that are added do not matter.
    let more : List Located := vs.map fun v => ⟨v, 0⟩
    have hmore : more.map Located.token = vs := by simp [more, Function.comp_def]
    have hwhole : Derives 12 ((ts ++ more).map Located.token) e := by
      rw [List.map_append, hmore]
      exact he
    obtain ⟨b, f, hb, hf, -⟩ := pushAll_finish_of_derives hwhole
    exact ⟨ts ++ more, List.prefix_append ts more, b, f, hb, hf⟩
  · rintro ⟨-, ⟨us, rfl⟩, b, f, hb, -⟩
    obtain ⟨a, ha, -⟩ := exists_pushAll_of_append hb
    exact ⟨a, ha⟩

end Assembler
end Gauge
