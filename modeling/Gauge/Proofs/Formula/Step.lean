import Gauge.Proofs.Formula.Stack
import Gauge.Proofs.Token.Scanning

/-! # One token

Everything that one token does to an assembler. A token that is taken leaves the lower part of the stack as
it was and puts at most one entry on it, made of the token itself or, for a call, of the name held back. A
token that is refused is blamed for what it is and where it stands.
-/
namespace Gauge.Assembler

theorem spill_suffix (stack : List Waiting) (output : Array Token) :
    (spill stack output).1 <:+ stack := by
  induction stack generalizing output with
  | nil => exact List.suffix_refl []
  | cons w stack ih =>
    match w with
    | .group _ | .call _ _ | .operator .choose _ => exact List.suffix_refl _
    | .operator (.unary _) _ | .operator (.binary _) _ | .operator .otherwise _ =>
      exact (ih _).trans (List.suffix_cons _ stack)

theorem spillTo_suffix (op : Operator) (stack : List Waiting) (output : Array Token) :
    (spillTo op stack output).1 <:+ stack := by
  induction stack generalizing output with
  | nil => exact List.suffix_refl []
  | cons w stack ih =>
    match w with
    | .group _ | .call _ _ => exact List.suffix_refl _
    | .operator top offset =>
      unfold spillTo
      split
      · exact (ih _).trans (List.suffix_cons _ stack)
      · exact List.suffix_refl _

inductive Enters (held : Option (String × Nat)) (t : Located) : Waiting → Prop where
  | operator (op : Operator) : t.token = .operator op → Enters held t (.operator op t.offset)
  | group : t.token = .openParen → Enters held t (.group t.offset)
  | call (name : String) (start : Nat) :
      t.token = .openParen → held = some (name, start) → Enters held t (.call name start)

/-- A token that is taken over a stack and a name held back leads to the state `b`. -/
structure Moves (stack : List Waiting) (held : Option (String × Nat)) (t : Located) (b : Assembler) :
    Prop where
  stack : ∃ rest, rest <:+ stack ∧ (b.stack = rest ∨ ∃ w, b.stack = w :: rest ∧ Enters held t w)
  lookahead : ∀ name start, b.lookahead = some (name, start) → t = ⟨.identifier name, start⟩
  wantsOperator : b.wantsOperator = t.token.endsOperand
  seenAny : b.seenAny = true

inductive Blames (t : Located) : SyntaxError → Prop where
  | misplaced : Blames t (.misplaced t.token.display t.offset)
  | unbalancedParen :
      t.token = .closeParen ∨ t.token = .comma → Blames t (.unbalancedParen t.offset)
  | otherwiseAlone : t.token = .operator .otherwise → Blames t (.otherwiseAlone t.offset)

def Follows (stack : List Waiting) (held : Option (String × Nat)) (t : Located) :
    Except Refusal Assembler → Prop
  | .ok b => Moves stack held t b
  | .error r => Blames t r.error

section

variable {a : Assembler} {held : Option (String × Nat)} {t : Located}

theorem follows_closeGroup (hl : a.lookahead = none) (hseen : a.seenAny = true)
    (ht : t.token = .closeParen) : Follows a.stack held t (a.closeGroup t.offset) := by
  have hsuffix := spill_suffix a.stack a.output
  have hends : true = t.token.endsOperand := by rw [ht]; rfl
  unfold closeGroup
  split
  · next he =>
    rw [he] at hsuffix
    have hrest := (List.suffix_cons _ _).trans hsuffix
    exact ⟨⟨_, hrest, .inl rfl⟩, by simp [hl], hends, hseen⟩
  · next he =>
    rw [he] at hsuffix
    have hrest := (List.suffix_cons _ _).trans hsuffix
    exact ⟨⟨_, hrest, .inl rfl⟩, by simp [hl], hends, hseen⟩
  · exact .unbalancedParen (.inl ht)
  · exact .unbalancedParen (.inl ht)

theorem follows_closeArgument (hl : a.lookahead = none) (hseen : a.seenAny = true)
    (ht : t.token = .comma) : Follows a.stack held t (a.closeArgument t.offset) := by
  have hsuffix := spill_suffix a.stack a.output
  have hends : false = t.token.endsOperand := by rw [ht]; rfl
  have hdisplay : "," = t.token.display := by rw [ht]; rfl
  unfold closeArgument
  split
  · next he =>
    rw [he] at hsuffix
    exact ⟨⟨_, hsuffix, .inl rfl⟩, by simp [hl], hends, hseen⟩
  · exact .unbalancedParen (.inr ht)
  · rw [hdisplay]
    exact .misplaced

theorem follows_closeChoice (hl : a.lookahead = none) (hseen : a.seenAny = true)
    (ht : t.token = .operator .otherwise) : Follows a.stack held t (a.closeChoice t.offset) := by
  have hsuffix := spill_suffix a.stack a.output
  have hends : false = t.token.endsOperand := by rw [ht]; rfl
  unfold closeChoice
  split
  · next he =>
    rw [he] at hsuffix
    have hrest := (List.suffix_cons _ _).trans hsuffix
    exact ⟨⟨_, hrest, .inr ⟨_, rfl, .operator _ ht⟩⟩, by simp [hl], hends, hseen⟩
  · exact .otherwiseAlone ht
  · exact .otherwiseAlone ht

theorem follows_await (op : Operator) (wants : Bool) (hl : a.lookahead = none)
    (hseen : a.seenAny = true) (ht : t.token = .operator op) (hwants : wants = false) :
    Follows a.stack held t (.ok { a.await op t.offset with wantsOperator := wants }) := by
  have hsuffix := spillTo_suffix op a.stack a.output
  have hends : wants = t.token.endsOperand := by rw [hwants, ht]; rfl
  exact ⟨⟨_, hsuffix, .inr ⟨_, rfl, .operator op ht⟩⟩, by simp [await, hl], hends, hseen⟩

/-- A token that is placed when no name is held back. -/
theorem follows_place (opened : Bool) (hl : a.lookahead = none) (hseen : a.seenAny = true) :
    Follows a.stack held t (a.place opened t) := by
  have hself : a.stack <:+ a.stack := List.suffix_refl a.stack
  have hnone : ∀ name start, a.lookahead = some (name, start) → t = ⟨.identifier name, start⟩ := by
    simp [hl]
  unfold place
  split
  · next v ht =>
    split
    · exact .misplaced
    · exact ⟨⟨_, hself, .inl rfl⟩, hnone, by rw [ht]; rfl, hseen⟩
  · next name ht =>
    split
    · exact .misplaced
    · refine ⟨⟨_, hself, .inl rfl⟩, ?_, by rw [ht]; rfl, hseen⟩
      rintro _ _ ⟨⟩
      rw [← ht]
  · next ht =>
    split
    · exact .misplaced
    · next hwants =>
      have hends : a.wantsOperator = t.token.endsOperand := by
        rw [Bool.not_eq_true] at hwants
        rw [hwants, ht]
        rfl
      exact ⟨⟨_, hself, .inr ⟨_, rfl, .group ht⟩⟩, hnone, hends, hseen⟩
  · next ht =>
    split
    · exact follows_closeGroup hl hseen ht
    · exact .misplaced
  · next ht =>
    split
    · exact follows_closeArgument hl hseen ht
    · exact .misplaced
  · next op ht =>
    split
    · exact .misplaced
    · next hwants =>
      rw [Bool.not_eq_true] at hwants
      exact follows_await (.unary op) a.wantsOperator hl hseen ht hwants
  · next ht =>
    split
    · exact follows_closeChoice hl hseen ht
    · exact .misplaced
  · next op _ _ ht =>
    split
    · exact follows_await op false hl hseen ht rfl
    · exact .misplaced
  · exact .misplaced

/-- Every token either moves the assembler on or is blamed. -/
theorem follows_push (a : Assembler) (t : Located) : Follows a.stack a.lookahead t (a.push t) := by
  by_cases ht : t.token = .openParen
  · cases hl : a.lookahead with
    | none =>
      rw [push_of_lookahead_none hl]
      exact follows_place (a := { a with callOpened := false, seenAny := true }) _ hl rfl
    | some held =>
      obtain ⟨name, start⟩ := held
      have hpush : a.push t = .ok { a with
          stack := .call name start :: a.stack
          output := a.output.push .openParen
          lookahead := none
          wantsOperator := false
          callOpened := true
          seenAny := true } := by
        unfold push
        rw [hl, ht]
      rw [hpush]
      have hcall : Enters (some (name, start)) t (.call name start) := .call name start ht rfl
      exact ⟨⟨_, List.suffix_refl a.stack, .inr ⟨_, rfl, hcall⟩⟩, nofun, by rw [ht]; rfl, rfl⟩
  · rw [push_of_ne_openParen ht]
    rw [← stack_settle a]
    exact follows_place (a := { a.settle with callOpened := false, seenAny := true }) _
      (lookahead_settle a) rfl

end

theorem moves_of_push {a b : Assembler} {t : Located} (h : a.push t = .ok b) :
    Moves a.stack a.lookahead t b := by
  have hfollows := follows_push a t
  rwa [h] at hfollows

theorem blames_of_push {a : Assembler} {t : Located} {r : Refusal} (h : a.push t = .error r) :
    Blames t r.error := by
  have hfollows := follows_push a t
  rwa [h] at hfollows

/-! ### Runs of tokens -/

theorem exists_push_of_pushAll {a b : Assembler} {t : Located} {ts : List Located}
    (h : a.pushAll (t :: ts) = .ok b) : ∃ c, a.push t = .ok c ∧ c.pushAll ts = .ok b := by
  rw [pushAll_cons] at h
  cases ht : a.push t with
  | error r => rw [ht] at h; cases h
  | ok c =>
    rw [ht] at h
    exact ⟨c, rfl, h⟩

theorem exists_pushAll_of_append {a b : Assembler} {ts us : List Located}
    (h : a.pushAll (ts ++ us) = .ok b) : ∃ c, a.pushAll ts = .ok c ∧ c.pushAll us = .ok b := by
  rw [pushAll_append] at h
  cases hts : a.pushAll ts with
  | error r => rw [hts] at h; cases h
  | ok c =>
    rw [hts] at h
    exact ⟨c, rfl, h⟩

theorem exists_push_of_concat {a b : Assembler} {ts : List Located} {t : Located}
    (h : a.pushAll (ts ++ [t]) = .ok b) : ∃ c, a.pushAll ts = .ok c ∧ c.push t = .ok b := by
  obtain ⟨c, hts, hlast⟩ := exists_pushAll_of_append h
  obtain ⟨d, ht, hnil⟩ := exists_push_of_pushAll hlast
  cases hnil
  exact ⟨c, hts, ht⟩

/-- An operator is wanted exactly where an operand ends. -/
theorem wantsOperator_pushAll {a b : Assembler} {ts : List Located} (h : a.pushAll ts = .ok b) :
    b.wantsOperator = operandPast a.wantsOperator ts := by
  induction ts generalizing a with
  | nil => cases h; rfl
  | cons t ts ih =>
    obtain ⟨c, ht, hts⟩ := exists_push_of_pushAll h
    rw [ih hts, (moves_of_push ht).wantsOperator]
    rfl

theorem seenAny_pushAll {b : Assembler} {ts : List Located} (h : pushAll {} ts = .ok b) :
    b.seenAny = true ↔ ts ≠ [] := by
  rcases List.eq_nil_or_concat ts with rfl | ⟨before, t, rfl⟩
  · cases h
    decide
  · rw [List.concat_eq_append] at h
    obtain ⟨c, -, ht⟩ := exists_push_of_concat h
    simp [(moves_of_push ht).seenAny]

/-- Tokens that are refused are taken up to one that is. -/
theorem exists_refused {a : Assembler} {ts : List Located} {r : Refusal}
    (h : a.pushAll ts = .error r) :
    ∃ before t after b, ts = before ++ t :: after ∧ a.pushAll before = .ok b ∧ b.push t = .error r := by
  induction ts generalizing a with
  | nil => cases h
  | cons t ts ih =>
    cases ht : a.push t with
    | error s =>
      rw [pushAll_cons, ht] at h
      cases h
      exact ⟨[], t, ts, a, rfl, rfl, ht⟩
    | ok c =>
      rw [pushAll_cons_of_ok ht] at h
      obtain ⟨before, u, after, b, rfl, hb, hu⟩ := ih h
      exact ⟨t :: before, u, after, b, rfl, by rw [pushAll_cons_of_ok ht, hb], hu⟩

end Gauge.Assembler
