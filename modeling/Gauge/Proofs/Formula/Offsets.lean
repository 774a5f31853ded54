import Mathlib.Data.List.Forall2
import Gauge.Proofs.Formula.Stack

/-! # Offsets

An assembler carries offsets along and never looks at them. Tokens that differ only in their offsets lead to
states that differ only in theirs, and in the end to the same instructions, or to the same error at offsets
that correspond.
-/
namespace Gauge

inductive Both {ε δ α β : Type} (E : ε → δ → Prop) (A : α → β → Prop) : Except ε α → Except δ β → Prop where
  | ok {a : α} {b : β} : A a b → Both E A (.ok a) (.ok b)
  | error {e : ε} {f : δ} : E e f → Both E A (.error e) (.error f)

theorem Both.ite {ε δ α β : Type} {E : ε → δ → Prop} {A : α → β → Prop} {c d : Bool}
    {x x' : Except ε α} {y y' : Except δ β} (hcond : c = d) (hthen : Both E A x y)
    (helse : Both E A x' y') : Both E A (if c then x else x') (if d then y else y') := by
  subst hcond
  by_cases hc : c = true
  · rw [if_pos hc, if_pos hc]
    exact hthen
  · rw [if_neg hc, if_neg hc]
    exact helse

def SyntaxError.moveTo (offset : Nat) : SyntaxError → SyntaxError
  | .empty => .empty
  | .strayCharacter character _ => .strayCharacter character offset
  | .unknownOperator symbol _ => .unknownOperator symbol offset
  | .malformedNumber text _ => .malformedNumber text offset
  | .unbalancedParen _ => .unbalancedParen offset
  | .chooseAlone _ => .chooseAlone offset
  | .otherwiseAlone _ => .otherwiseAlone offset
  | .misplaced token _ => .misplaced token offset
  | .incomplete => .incomplete

variable {R : Nat → Nat → Prop}

inductive SyntaxError.Moved (R : Nat → Nat → Prop) : SyntaxError → SyntaxError → Prop where
  | stays {e : SyntaxError} : e.offset? = none → Moved R e e
  | moves {e : SyntaxError} {offset offset' : Nat} : e.offset? = some offset → R offset offset' →
      Moved R e (e.moveTo offset')

structure Located.Moved (R : Nat → Nat → Prop) (t u : Located) : Prop where
  token : t.token = u.token
  offset : R t.offset u.offset

inductive Waiting.Moved (R : Nat → Nat → Prop) : Waiting → Waiting → Prop where
  | operator (op : Operator) {offset offset' : Nat} : R offset offset' →
      Moved R (.operator op offset) (.operator op offset')
  | group {offset offset' : Nat} : R offset offset' → Moved R (.group offset) (.group offset')
  | call (name : String) {start start' : Nat} : R start start' →
      Moved R (.call name start) (.call name start')

namespace Assembler

abbrev StackMoved (R : Nat → Nat → Prop) : List Waiting → List Waiting → Prop :=
  List.Forall₂ (Waiting.Moved R)

structure Moved (R : Nat → Nat → Prop) (a b : Assembler) : Prop where
  stack : StackMoved R a.stack b.stack
  output : a.output = b.output
  lookahead : a.lookahead = none ∧ b.lookahead = none ∨ ∃ name start start',
    a.lookahead = some (name, start) ∧ b.lookahead = some (name, start') ∧ R start start'
  wantsOperator : a.wantsOperator = b.wantsOperator
  callOpened : a.callOpened = b.callOpened
  seenAny : a.seenAny = b.seenAny

abbrev OutcomeMoved (R : Nat → Nat → Prop) : Except Refusal Assembler → Except Refusal Assembler → Prop :=
  Both (fun r s => r.error.Moved R s.error) (Moved R)

theorem moved_start : Moved R {} {} := ⟨.nil, rfl, .inl ⟨rfl, rfl⟩, rfl, rfl, rfl⟩

/-! ### The stack -/

theorem spill_moved {stack stack' : List Waiting} (h : StackMoved R stack stack') (output : Array Token) :
    ∃ rest rest' result, spill stack output = (rest, result) ∧ spill stack' output = (rest', result) ∧
      StackMoved R rest rest' := by
  induction h generalizing output with
  | nil => exact ⟨[], [], output, rfl, rfl, .nil⟩
  | cons hw hrest ih =>
    cases hw with
    | group hoffset => exact ⟨_, _, output, rfl, rfl, .cons (.group hoffset) hrest⟩
    | call name hstart => exact ⟨_, _, output, rfl, rfl, .cons (.call name hstart) hrest⟩
    | operator op hoffset =>
      cases op with
      | choose => exact ⟨_, _, output, rfl, rfl, .cons (.operator .choose hoffset) hrest⟩
      | unary _ | binary _ | otherwise => exact ih _

theorem spillTo_moved {stack stack' : List Waiting} (h : StackMoved R stack stack') (op : Operator)
    (output : Array Token) :
    ∃ rest rest' result, spillTo op stack output = (rest, result) ∧
      spillTo op stack' output = (rest', result) ∧ StackMoved R rest rest' := by
  induction h generalizing output with
  | nil => exact ⟨[], [], output, rfl, rfl, .nil⟩
  | cons hw hrest ih =>
    cases hw with
    | group hoffset => exact ⟨_, _, output, rfl, rfl, .cons (.group hoffset) hrest⟩
    | call name hstart => exact ⟨_, _, output, rfl, rfl, .cons (.call name hstart) hrest⟩
    | operator top hoffset =>
      simp only [spillTo]
      by_cases hyields : top.yieldsTo op = true
      · rw [if_pos hyields, if_pos hyields]
        exact ih _
      · rw [if_neg hyields, if_neg hyields]
        exact ⟨_, _, output, rfl, rfl, .cons (.operator top hoffset) hrest⟩

theorem unwind_moved {stack stack' : List Waiting} (h : StackMoved R stack stack') (output : Array Token) :
    Both (SyntaxError.Moved R) Eq (unwind stack output) (unwind stack' output) := by
  induction h generalizing output with
  | nil => exact .ok rfl
  | cons hw hrest ih =>
    cases hw with
    | group hoffset => exact .error (.moves rfl hoffset)
    | call name hstart => exact .error (.moves rfl hstart)
    | operator op hoffset =>
      cases op with
      | choose => exact .error (.moves rfl hoffset)
      | unary _ | binary _ | otherwise => exact ih _

/-! ### One token -/

variable {a b : Assembler} {t u : Located} {offset offset' : Nat}

theorem push_of_not_call (h : ¬ (t.token = .openParen ∧ a.lookahead ≠ none)) :
    a.push t = { a.settle with callOpened := false, seenAny := true }.place a.callOpened t := by
  by_cases hparen : t.token = .openParen
  · have hnone : a.lookahead = none := by simpa [hparen] using h
    have hsettle : a.settle = a := by
      unfold Assembler.settle
      rw [hnone]
    rw [push_of_lookahead_none hnone, hsettle]
  · exact push_of_ne_openParen hparen

theorem Moved.not_call (h : a.Moved R b) (ht : t.Moved R u)
    (hcall : ¬ (t.token = .openParen ∧ a.lookahead ≠ none)) :
    ¬ (u.token = .openParen ∧ b.lookahead ≠ none) := by
  rintro ⟨hparen, hheld⟩
  refine hcall ⟨ht.token.trans hparen, ?_⟩
  rcases h.lookahead with ⟨-, hb⟩ | ⟨name, start, start', ha, -, -⟩
  · exact absurd hb hheld
  · simp [ha]

theorem Moved.closeGroup (h : a.Moved R b) (hoffset : R offset offset') :
    OutcomeMoved R (a.closeGroup offset) (b.closeGroup offset') := by
  obtain ⟨rest, rest', result, ha, hb, hrest⟩ := spill_moved h.stack a.output
  unfold Assembler.closeGroup
  rw [← h.output, ha, hb]
  cases hrest with
  | nil => exact .error (.moves rfl hoffset)
  | cons hw hrest =>
    cases hw with
    | group _ => exact .ok { h with stack := hrest, output := rfl, wantsOperator := rfl }
    | call name _ => exact .ok { h with stack := hrest, output := rfl, wantsOperator := rfl }
    | operator op _ => exact .error (.moves rfl hoffset)

theorem Moved.closeArgument (h : a.Moved R b) (hoffset : R offset offset') :
    OutcomeMoved R (a.closeArgument offset) (b.closeArgument offset') := by
  obtain ⟨rest, rest', result, ha, hb, hrest⟩ := spill_moved h.stack a.output
  unfold Assembler.closeArgument
  rw [← h.output, ha, hb]
  cases hrest with
  | nil => exact .error (.moves rfl hoffset)
  | cons hw hrest =>
    cases hw with
    | group _ => exact .error (.moves rfl hoffset)
    | call name hstart =>
      exact .ok { h with stack := .cons (.call name hstart) hrest, output := rfl, wantsOperator := rfl }
    | operator op _ => exact .error (.moves rfl hoffset)

theorem Moved.closeChoice (h : a.Moved R b) (hoffset : R offset offset') :
    OutcomeMoved R (a.closeChoice offset) (b.closeChoice offset') := by
  obtain ⟨rest, rest', result, ha, hb, hrest⟩ := spill_moved h.stack a.output
  unfold Assembler.closeChoice
  rw [← h.output, ha, hb]
  cases hrest with
  | nil => exact .error (.moves rfl hoffset)
  | cons hw hrest =>
    cases hw with
    | group _ => exact .error (.moves rfl hoffset)
    | call name _ => exact .error (.moves rfl hoffset)
    | operator op _ =>
      have hstack := List.Forall₂.cons (.operator .otherwise hoffset) hrest
      exact .ok { h with stack := hstack, output := rfl, wantsOperator := rfl }

theorem Moved.await (h : a.Moved R b) (op : Operator) (hoffset : R offset offset') :
    (a.await op offset).Moved R (b.await op offset') := by
  obtain ⟨rest, rest', result, ha, hb, hrest⟩ := spillTo_moved h.stack op a.output
  unfold Assembler.await
  rw [← h.output, ha, hb]
  exact { h with stack := .cons (.operator op hoffset) hrest, output := rfl }

theorem Moved.settle (h : a.Moved R b) : a.settle.Moved R b.settle := by
  unfold Assembler.settle
  rcases h.lookahead with ⟨ha, hb⟩ | ⟨name, start, start', ha, hb, -⟩
  · rw [ha, hb]
    exact h
  · rw [ha, hb]
    have houtput : a.output.push (.identifier name) = b.output.push (.identifier name) := by rw [h.output]
    exact { h with output := houtput, lookahead := .inl ⟨rfl, rfl⟩ }

theorem Moved.place (h : a.Moved R b) (opened : Bool) (ht : t.Moved R u) :
    OutcomeMoved R (a.place opened t) (b.place opened u) := by
  obtain ⟨token, offset⟩ := t
  obtain ⟨token', offset'⟩ := u
  obtain ⟨htoken, hoffset⟩ := ht
  obtain rfl : token = token' := htoken
  have hrefuse : OutcomeMoved R (.error ⟨.misplaced token.display offset, a⟩)
      (.error ⟨.misplaced token.display offset', b⟩) := .error (.moves rfl hoffset)
  have hwants := h.wantsOperator
  cases token with
  | number v =>
    have houtput : a.output.push (.number v) = b.output.push (.number v) := by rw [h.output]
    exact .ite hwants hrefuse (.ok { h with output := houtput, wantsOperator := rfl })
  | identifier name =>
    refine .ite hwants hrefuse (.ok { h with lookahead := ?_, wantsOperator := rfl })
    exact .inr ⟨name, offset, offset', rfl, rfl, hoffset⟩
  | call name => exact hrefuse
  | openParen => exact .ite hwants hrefuse (.ok { h with stack := .cons (.group hoffset) h.stack })
  | closeParen =>
    have hcloses : (a.wantsOperator || opened) = (b.wantsOperator || opened) := by rw [hwants]
    exact .ite hcloses (h.closeGroup hoffset) hrefuse
  | comma => exact .ite hwants (h.closeArgument hoffset) hrefuse
  | operator op =>
    cases op with
    | unary op => exact .ite hwants hrefuse (.ok (h.await (.unary op) hoffset))
    | binary op =>
      exact .ite hwants (.ok { h.await (.binary op) hoffset with wantsOperator := rfl }) hrefuse
    | choose => exact .ite hwants (.ok { h.await .choose hoffset with wantsOperator := rfl }) hrefuse
    | otherwise => exact .ite hwants (h.closeChoice hoffset) hrefuse

theorem Moved.push (h : a.Moved R b) (ht : t.Moved R u) : OutcomeMoved R (a.push t) (b.push u) := by
  by_cases hcall : t.token = .openParen ∧ a.lookahead ≠ none
  · obtain ⟨hparen, hheld⟩ := hcall
    have hparen' : u.token = .openParen := ht.token ▸ hparen
    rcases h.lookahead with ⟨ha, -⟩ | ⟨name, start, start', ha, hb, hstart⟩
    · exact absurd ha hheld
    · have houtput : a.output.push .openParen = b.output.push .openParen := by rw [h.output]
      unfold Assembler.push
      rw [ha, hb, hparen, hparen']
      exact .ok ⟨.cons (.call name hstart) h.stack, houtput, .inl ⟨rfl, rfl⟩, rfl, rfl, rfl⟩
  · have hsettled : Moved R { a.settle with callOpened := false, seenAny := true }
        { b.settle with callOpened := false, seenAny := true } :=
      { h.settle with callOpened := rfl, seenAny := rfl }
    rw [push_of_not_call hcall, push_of_not_call (h.not_call ht hcall), h.callOpened]
    exact hsettled.place b.callOpened ht

/-! ### Runs of tokens -/

theorem pushAll_moved {ts us : List Located} (hts : List.Forall₂ (Located.Moved R) ts us)
    (h : a.Moved R b) : OutcomeMoved R (a.pushAll ts) (b.pushAll us) := by
  induction hts generalizing a b with
  | nil => exact .ok h
  | @cons t u ts us ht _ ih =>
    rw [pushAll_cons, pushAll_cons]
    have hpush := h.push ht
    generalize a.push t = left at hpush ⊢
    generalize b.push u = right at hpush ⊢
    cases hpush with
    | ok hnext => exact ih hnext
    | error hrefusal => exact .error hrefusal

theorem Moved.finish (h : a.Moved R b) :
    Both (SyntaxError.Moved R) (fun f g => f.instructions = g.instructions) a.finish b.finish := by
  unfold Assembler.finish
  refine .ite (congrArg (!·) h.seenAny) (.error (.stays rfl)) ?_
  refine .ite (congrArg (!·) h.wantsOperator) (.error (.stays rfl)) ?_
  have hunwind := unwind_moved h.settle.stack a.settle.output
  rw [← h.settle.output]
  generalize unwind a.settle.stack a.settle.output = left at hunwind ⊢
  generalize unwind b.settle.stack a.settle.output = right at hunwind ⊢
  cases hunwind with
  | ok houtput =>
    subst houtput
    exact .ok rfl
  | error herror => exact .error herror

end Assembler

/-- Tokens that differ in their offsets alone make the same formula, or the same error where they differ. -/
theorem Formula.ofTokens_moved {ts us : List Located} (h : List.Forall₂ (Located.Moved R) ts us) :
    Both (SyntaxError.Moved R) (fun f g => f.instructions = g.instructions)
      (Formula.ofTokens ts) (Formula.ofTokens us) := by
  have hpush := Assembler.pushAll_moved h Assembler.moved_start
  unfold ofTokens
  generalize Assembler.pushAll {} ts = left at hpush ⊢
  generalize Assembler.pushAll {} us = right at hpush ⊢
  cases hpush with
  | ok hmoved => exact hmoved.finish
  | error herror => exact .error herror

end Gauge
