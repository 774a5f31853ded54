import Gauge.Proofs.Formula.Step
import Gauge.Proofs.Token.Failure

/-! # Refusals

Where the error of a text comes from: from a token that is refused, from the scan, or from the end of the
text. Everything that waits on the stack is there because of certain tokens, and the end is blamed on what
still waits.
-/
namespace Gauge

/-- What waits on the stack is one of the tokens read, or a name and the parenthesis right after it. -/
def Waiting.ComesFrom (ts : List Located) : Waiting → Prop
  | .operator op offset => ⟨.operator op, offset⟩ ∈ ts
  | .group offset => ⟨.openParen, offset⟩ ∈ ts
  | .call name start => ∃ offset, [⟨.identifier name, start⟩, ⟨.openParen, offset⟩] <:+: ts

theorem Waiting.ComesFrom.append {w : Waiting} {ts : List Located} (h : w.ComesFrom ts)
    (us : List Located) : w.ComesFrom (ts ++ us) := by
  cases w with
  | operator op offset => exact List.mem_append_left us h
  | group offset => exact List.mem_append_left us h
  | call name start =>
    obtain ⟨offset, hinfix⟩ := h
    exact ⟨offset, hinfix.trans (List.prefix_append ts us).isInfix⟩

namespace Assembler

structure Traces (ts : List Located) (a : Assembler) : Prop where
  stack : ∀ w ∈ a.stack, w.ComesFrom ts
  lookahead : ∀ name start, a.lookahead = some (name, start) → [⟨.identifier name, start⟩] <:+ ts

theorem traces_start : Traces [] {} := ⟨nofun, nofun⟩

theorem Enters.comesFrom {ts : List Located} {held : Option (String × Nat)} {t : Located} {w : Waiting}
    (h : Enters held t w)
    (hheld : ∀ name start, held = some (name, start) → [⟨.identifier name, start⟩] <:+ ts) :
    w.ComesFrom (ts ++ [t]) := by
  obtain ⟨token, offset⟩ := t
  cases h with
  | operator op ht =>
    obtain rfl : token = _ := ht
    exact List.mem_append_right ts (List.mem_singleton_self _)
  | group ht =>
    obtain rfl : token = _ := ht
    exact List.mem_append_right ts (List.mem_singleton_self _)
  | call name start ht hname =>
    obtain rfl : token = _ := ht
    obtain ⟨before, rfl⟩ := hheld name start hname
    exact ⟨offset, before, [], by simp⟩

theorem Traces.push {ts : List Located} {a b : Assembler} {t : Located} (h : Traces ts a)
    (hb : a.push t = .ok b) : Traces (ts ++ [t]) b := by
  have hmoves := moves_of_push hb
  constructor
  · obtain ⟨rest, hrest, hstack⟩ := hmoves.stack
    have hlower : ∀ w ∈ rest, w.ComesFrom (ts ++ [t]) := by
      intro w hw
      exact (h.stack w (hrest.subset hw)).append [t]
    rcases hstack with heq | ⟨top, heq, hentry⟩
    · rw [heq]
      exact hlower
    · rw [heq]
      exact List.forall_mem_cons.mpr ⟨hentry.comesFrom h.lookahead, hlower⟩
  · intro name start hname
    rw [hmoves.lookahead name start hname]
    exact List.suffix_append ts _

theorem traces_pushAll {ts us : List Located} {a b : Assembler} (h : Traces ts a)
    (hb : a.pushAll us = .ok b) : Traces (ts ++ us) b := by
  induction us generalizing ts a with
  | nil =>
    cases hb
    rwa [List.append_nil]
  | cons t us ih =>
    obtain ⟨c, ht, hus⟩ := exists_push_of_pushAll hb
    have hnext := ih (h.push ht) hus
    rwa [List.append_assoc] at hnext

/-! ### The end of the text -/

inductive EndBlames (a : Assembler) : SyntaxError → Prop where
  | empty : a.seenAny = false → EndBlames a .empty
  | incomplete : a.seenAny = true → a.wantsOperator = false → EndBlames a .incomplete
  | group (offset : Nat) : .group offset ∈ a.stack → EndBlames a (.unbalancedParen offset)
  | call (name : String) (start : Nat) :
      .call name start ∈ a.stack → EndBlames a (.unbalancedParen start)
  | choose (offset : Nat) : .operator .choose offset ∈ a.stack → EndBlames a (.chooseAlone offset)

theorem endBlames_of_unwind {a : Assembler} {stack : List Waiting} {output : Array Token}
    {e : SyntaxError} (hstack : ∀ w ∈ stack, w ∈ a.stack) (h : unwind stack output = .error e) :
    EndBlames a e := by
  -- Operators go to the output, so what stops the unwinding is an entry further down the same stack.
  induction stack generalizing output with
  | nil => cases h
  | cons w stack ih =>
    obtain ⟨hw, hrest⟩ := List.forall_mem_cons.mp hstack
    match w with
    | .group offset => cases h; exact .group offset hw
    | .call name start => cases h; exact .call name start hw
    | .operator .choose offset => cases h; exact .choose offset hw
    | .operator (.unary _) _ | .operator (.binary _) _ | .operator .otherwise _ => exact ih hrest h

theorem endBlames_of_finish {a : Assembler} {e : SyntaxError} (h : a.finish = .error e) :
    EndBlames a e := by
  unfold finish at h
  split at h
  · next hseen => cases h; exact .empty (by simpa using hseen)
  · next hseen =>
    split at h
    · next hwants => cases h; exact .incomplete (by simpa using hseen) (by simpa using hwants)
    · cases hunwind : unwind a.settle.stack a.settle.output with
      | ok output => rw [hunwind] at h; cases h
      | error f =>
        rw [hunwind] at h
        cases h
        have hstack : a.settle.stack = a.stack := by unfold settle; split <;> rfl
        rw [hstack] at hunwind
        exact endBlames_of_unwind (fun _ hw => hw) hunwind

end Assembler

/-! ### The error of a text -/

namespace Formula

/-- An error is that of the first token that is refused, else that of the scan, else that of the end. -/
inductive Fails (source : String) : SyntaxError → Prop where
  | token {before after : List Located} {t : Located} {a : Assembler} {r : Refusal} :
      (Scan.ofString source).tokens = before ++ t :: after →
      Assembler.pushAll {} before = .ok a → a.push t = .error r → Fails source r.error
  | scan {e : SyntaxError} : (Scan.ofString source).failure = some e → Fails source e
  | finish {a : Assembler} {e : SyntaxError} :
      (Scan.ofString source).failure = none →
      Assembler.pushAll {} (Scan.ofString source).tokens = .ok a → a.finish = .error e → Fails source e

theorem fails_of_parse {source : String} {e : SyntaxError} (h : parse source = .error e) :
    Fails source e := by
  unfold parse at h
  cases htokens : Assembler.pushAll {} (Scan.ofString source).tokens with
  | error r =>
    simp only [htokens] at h
    cases h
    obtain ⟨before, t, after, a, heq, ha, ht⟩ := Assembler.exists_refused htokens
    exact .token heq ha ht
  | ok a =>
    simp only [htokens] at h
    cases hfailure : (Scan.ofString source).failure with
    | some f =>
      rw [hfailure] at h
      cases h
      exact .scan hfailure
    | none =>
      rw [hfailure] at h
      cases hfinish : a.finish with
      | ok f => rw [hfinish] at h; cases h
      | error f =>
        rw [hfinish] at h
        cases h
        exact .finish hfailure htokens hfinish

/-- Only a token that is refused is misplaced. -/
theorem exists_misplaced_of_parse {source text : String} {offset : Nat}
    (h : parse source = .error (.misplaced text offset)) :
    ∃ before t after a r, (Scan.ofString source).tokens = before ++ t :: after ∧
      Assembler.pushAll {} before = .ok a ∧ a.push t = .error r ∧
      t.token.display = text ∧ t.offset = offset := by
  generalize he : SyntaxError.misplaced text offset = e at h
  cases fails_of_parse h with
  | token htokens ha ht =>
    have hblames := Assembler.blames_of_push ht
    rw [← he] at hblames
    cases hblames with
    | misplaced => exact ⟨_, _, _, _, _, htokens, ha, ht, rfl, rfl⟩
  | scan hfailure =>
    have hshows := Scan.shows_of_failure hfailure
    rw [← he] at hshows
    exact hshows.elim
  | finish _ _ hfinish =>
    have hblames := Assembler.endBlames_of_finish hfinish
    rw [← he] at hblames
    cases hblames

end Formula
end Gauge
