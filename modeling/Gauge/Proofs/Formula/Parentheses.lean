import Mathlib.Data.List.Infix
import Gauge.Proofs.Formula.Step

/-! # Parentheses that are not closed

An opening parenthesis is not closed as long as the tokens after it close no more parentheses than they open.
The markers on the stack of an assembler are those of these parentheses: a token that opens one adds its
marker, a token that closes one takes away the last, and no other token touches a marker.
-/
namespace Gauge

def Located.name? (t : Located) : Option (String × Nat) :=
  match t.token with
  | .identifier name => some (name, t.offset)
  | _ => none

namespace Waiting

def isMarker : Waiting → Bool
  | .operator _ _ => false
  | .group _ | .call _ _ => true

def marker (name? : Option (String × Nat)) (offset : Nat) : Waiting :=
  match name? with
  | some (name, start) => .call name start
  | none => .group offset

end Waiting

namespace Parentheses

def openings (ts : List Located) : Nat := ts.countP fun t => t.token = .openParen

def closings (ts : List Located) : Nat := ts.countP fun t => t.token = .closeParen

/-- A parenthesis that is opened before `ts` is not closed there. -/
def StaysOpen (ts : List Located) : Prop := ∀ front ∈ ts.inits, closings front ≤ openings front

instance (ts : List Located) : Decidable (StaysOpen ts) := List.decidableBAll ..

/-- The markers of the parentheses that are opened in `ts` and not closed, in order; `before` is the name
right before `ts`. -/
def unclosed (before : Option (String × Nat)) : List Located → List Waiting
  | [] => []
  | t :: ts =>
    if t.token = .openParen ∧ StaysOpen ts then .marker before t.offset :: unclosed t.name? ts
    else unclosed t.name? ts

def unmatched : List Located → Nat
  | [] => 0
  | t :: ts =>
    match t.token with
    | .openParen => unmatched ts - 1
    | .closeParen => unmatched ts + 1
    | _ => unmatched ts

/-! ### Front parts of a list -/

section

variable {t : Located}

theorem openings_cons (ht : t.token = .openParen) (ts : List Located) :
    openings (t :: ts) = openings ts + 1 := List.countP_cons_of_pos (by rw [ht]; rfl)

theorem openings_cons_of_ne (ht : t.token ≠ .openParen) (ts : List Located) :
    openings (t :: ts) = openings ts := List.countP_cons_of_neg (by rwa [decide_eq_true_eq])

theorem closings_cons (ht : t.token = .closeParen) (ts : List Located) :
    closings (t :: ts) = closings ts + 1 := List.countP_cons_of_pos (by rw [ht]; rfl)

theorem closings_cons_of_ne (ht : t.token ≠ .closeParen) (ts : List Located) :
    closings (t :: ts) = closings ts := List.countP_cons_of_neg (by rwa [decide_eq_true_eq])

theorem unmatched_cons_openParen (ht : t.token = .openParen) (ts : List Located) :
    unmatched (t :: ts) = unmatched ts - 1 := by
  rw [unmatched, ht]

theorem unmatched_cons_closeParen (ht : t.token = .closeParen) (ts : List Located) :
    unmatched (t :: ts) = unmatched ts + 1 := by
  rw [unmatched, ht]

theorem unmatched_cons_other (ho : t.token ≠ .openParen) (hc : t.token ≠ .closeParen) (ts : List Located) :
    unmatched (t :: ts) = unmatched ts := by
  rw [unmatched]
  split
  · next ht => exact absurd ht ho
  · next ht => exact absurd ht hc
  · rfl

/-- A list closes at most `k` parentheses that it does not open, exactly if each of its front parts closes at most
`k` more than it opens. -/
theorem closings_le_iff (ts : List Located) (k : Nat) :
    (∀ front ∈ ts.inits, closings front ≤ openings front + k) ↔ unmatched ts ≤ k := by
  induction ts generalizing k with
  | nil => simp [closings, openings, unmatched]
  | cons t ts ih =>
    rw [List.inits_cons, List.forall_mem_cons, List.forall_mem_map]
    have hnil : closings [] ≤ openings [] + k := Nat.zero_le _
    by_cases ho : t.token = .openParen
    · have hc : t.token ≠ .closeParen := by rw [ho]; nofun
      simp only [closings_cons_of_ne hc, openings_cons ho, unmatched_cons_openParen ho]
      rw [Nat.sub_le_iff_le_add, ← ih]
      constructor
      · rintro ⟨-, h⟩ front hm
        have hfront := h front hm
        omega
      · intro h
        refine ⟨hnil, fun front hm => ?_⟩
        have hfront := h front hm
        omega
    · by_cases hc : t.token = .closeParen
      · simp only [closings_cons hc, openings_cons_of_ne ho, unmatched_cons_closeParen hc]
        cases k with
        | zero =>
          -- The front part that holds only this token misses one.
          constructor
          · rintro ⟨-, h⟩
            have hone := h [] ((List.mem_inits [] ts).mpr List.nil_prefix)
            cases hone
          · nofun
        | succ k =>
          rw [Nat.add_le_add_iff_right, ← ih]
          constructor
          · rintro ⟨-, h⟩ front hm
            exact Nat.le_of_succ_le_succ (h front hm)
          · intro h
            exact ⟨hnil, fun front hm => Nat.succ_le_succ (h front hm)⟩
      · simp only [closings_cons_of_ne hc, openings_cons_of_ne ho, unmatched_cons_other ho hc]
        exact ⟨fun h => (ih k).mp h.2, fun h => ⟨hnil, (ih k).mpr h⟩⟩

theorem staysOpen_iff {ts : List Located} : StaysOpen ts ↔ unmatched ts = 0 := by
  have hle := closings_le_iff ts 0
  rwa [Nat.le_zero] at hle

end

/-! ### One token more at the end -/

section

variable {t : Located} {ts : List Located}

theorem unclosed_cons (ht : t.token = .openParen) (hts : unmatched ts = 0) (before : Option (String × Nat)) :
    unclosed before (t :: ts) = .marker before t.offset :: unclosed t.name? ts :=
  if_pos ⟨ht, staysOpen_iff.mpr hts⟩

theorem unclosed_cons_of_unmatched (hts : unmatched ts ≠ 0) (before : Option (String × Nat)) :
    unclosed before (t :: ts) = unclosed t.name? ts :=
  if_neg fun h => hts (staysOpen_iff.mp h.2)

theorem unclosed_cons_of_ne (ht : t.token ≠ .openParen) (before : Option (String × Nat)) :
    unclosed before (t :: ts) = unclosed t.name? ts :=
  if_neg fun h => ht h.1

def lastName (before : Option (String × Nat)) (ts : List Located) : Option (String × Nat) :=
  ts.foldl (fun _ t => t.name?) before

theorem lastName_concat (before : Option (String × Nat)) (ts : List Located) (t : Located) :
    lastName before (ts ++ [t]) = t.name? :=
  List.foldl_concat ..

/-- A closing parenthesis has no opening one where none is left to close. -/
theorem unmatched_concat_closeParen {c : Located} (hc : c.token = .closeParen)
    (before : Option (String × Nat)) (ts : List Located) :
    unmatched (ts ++ [c]) = if unclosed before ts = [] then unmatched ts + 1 else unmatched ts := by
  induction ts generalizing before with
  | nil => exact unmatched_cons_closeParen hc []
  | cons t ts ih =>
    have hcount := ih t.name?
    rw [List.cons_append]
    by_cases ho : t.token = .openParen
    · rw [unmatched_cons_openParen ho, unmatched_cons_openParen ho, hcount]
      by_cases hz : unmatched ts = 0
      · -- Where no later parenthesis is open, the new one closes this one and counts for nothing.
        rw [unclosed_cons ho hz, if_neg (List.cons_ne_nil _ _)]
        split <;> omega
      · rw [unclosed_cons_of_unmatched hz]
        split <;> omega
    · rw [unclosed_cons_of_ne ho]
      by_cases hcl : t.token = .closeParen
      · rw [unmatched_cons_closeParen hcl, unmatched_cons_closeParen hcl, hcount]
        split <;> rfl
      · rw [unmatched_cons_other ho hcl, unmatched_cons_other ho hcl]
        exact hcount

/-- A closing parenthesis closes the last of those that are open. -/
theorem unclosed_concat_closeParen {c : Located} (hc : c.token = .closeParen)
    (before : Option (String × Nat)) (ts : List Located) :
    unclosed before (ts ++ [c]) = (unclosed before ts).dropLast := by
  induction ts generalizing before with
  | nil =>
    have hne : c.token ≠ .openParen := by rw [hc]; nofun
    exact unclosed_cons_of_ne hne before
  | cons t ts ih =>
    have hcount := unmatched_concat_closeParen hc t.name? ts
    rw [List.cons_append]
    by_cases ho : t.token = .openParen
    · by_cases hz : unmatched ts = 0
      · rw [unclosed_cons ho hz]
        by_cases hnil : unclosed t.name? ts = []
        · rw [if_pos hnil] at hcount
          have hclosed : unmatched (ts ++ [c]) ≠ 0 := by omega
          rw [unclosed_cons_of_unmatched hclosed, ih, hnil]
          rfl
        · rw [if_neg hnil] at hcount
          rw [unclosed_cons ho (hcount.trans hz), ih, List.dropLast_cons_of_ne_nil hnil]
      · have hclosed : unmatched (ts ++ [c]) ≠ 0 := by
          rw [hcount]
          split <;> omega
        rw [unclosed_cons_of_unmatched hz, unclosed_cons_of_unmatched hclosed, ih]
    · rw [unclosed_cons_of_ne ho, unclosed_cons_of_ne ho, ih]

theorem unmatched_concat (ht : t.token ≠ .closeParen) (ts : List Located) :
    unmatched (ts ++ [t]) = unmatched ts := by
  induction ts with
  | nil =>
    by_cases ho : t.token = .openParen
    · exact unmatched_cons_openParen ho []
    · exact unmatched_cons_other ho ht []
  | cons u us ih => rw [List.cons_append, unmatched, unmatched, ih]

/-- A token that closes none leaves all open that are. -/
theorem unclosed_concat (ht : t.token ≠ .closeParen) (before : Option (String × Nat)) (ts : List Located) :
    unclosed before (ts ++ [t]) = unclosed before ts ++ unclosed (lastName before ts) [t] := by
  induction ts generalizing before with
  | nil => rfl
  | cons u us ih =>
    have hcount := unmatched_concat ht us
    have htail : unclosed u.name? (us ++ [t]) =
        unclosed u.name? us ++ unclosed (lastName before (u :: us)) [t] := ih u.name?
    rw [List.cons_append]
    by_cases ho : u.token = .openParen
    · by_cases hz : unmatched us = 0
      · rw [unclosed_cons ho hz, unclosed_cons ho (hcount.trans hz), htail, List.cons_append]
      · have hz' : unmatched (us ++ [t]) ≠ 0 := by rwa [hcount]
        rw [unclosed_cons_of_unmatched hz, unclosed_cons_of_unmatched hz', htail]
    · rw [unclosed_cons_of_ne ho, unclosed_cons_of_ne ho, htail]

def passed (held : Option (String × Nat)) (t : Located) (markers : List Waiting) : List Waiting :=
  match t.token with
  | .openParen => .marker held t.offset :: markers
  | .closeParen => markers.tail
  | _ => markers

theorem passed_openParen (ht : t.token = .openParen) (held : Option (String × Nat)) (markers : List Waiting) :
    passed held t markers = .marker held t.offset :: markers := by
  rw [passed, ht]

theorem passed_closeParen (ht : t.token = .closeParen) (held : Option (String × Nat))
    (markers : List Waiting) : passed held t markers = markers.tail := by
  rw [passed, ht]

theorem passed_other (ho : t.token ≠ .openParen) (hc : t.token ≠ .closeParen)
    (held : Option (String × Nat)) (markers : List Waiting) : passed held t markers = markers := by
  rw [passed]
  split
  · next ht => exact absurd ht ho
  · next ht => exact absurd ht hc
  · rfl

theorem passed_of_ne_openParen (ho : t.token ≠ .openParen) (held held' : Option (String × Nat))
    (markers : List Waiting) : passed held t markers = passed held' t markers := by
  rw [passed, passed]
  split
  · next ht => exact absurd ht ho
  · rfl
  · rfl

theorem reverse_unclosed_concat (before : Option (String × Nat)) (ts : List Located) (t : Located) :
    (unclosed before (ts ++ [t])).reverse = passed (lastName before ts) t (unclosed before ts).reverse := by
  by_cases hc : t.token = .closeParen
  · rw [passed_closeParen hc, List.tail_reverse, unclosed_concat_closeParen hc before ts]
  · rw [unclosed_concat hc, List.reverse_append]
    by_cases ho : t.token = .openParen
    · rw [passed_openParen ho, unclosed_cons ho rfl]
      rfl
    · rw [passed_other ho hc, unclosed_cons_of_ne ho]
      rfl

end

end Parentheses

namespace Assembler

/-! ### The markers of an assembler -/

theorem markers_spill (stack : List Waiting) (output : Array Token) :
    (spill stack output).1.filter Waiting.isMarker = stack.filter Waiting.isMarker := by
  induction stack generalizing output with
  | nil => rfl
  | cons w stack ih =>
    match w with
    | .group _ | .call _ _ | .operator .choose _ => rfl
    | .operator (.unary _) _ | .operator (.binary _) _ | .operator .otherwise _ => exact ih _

theorem markers_spillTo (op : Operator) (stack : List Waiting) (output : Array Token) :
    (spillTo op stack output).1.filter Waiting.isMarker = stack.filter Waiting.isMarker := by
  induction stack generalizing output with
  | nil => rfl
  | cons w stack ih =>
    match w with
    | .group _ | .call _ _ => rfl
    | .operator top offset =>
      unfold spillTo
      split
      · exact ih _
      · rfl

variable {a b : Assembler} {t : Located}

theorem markers_closeGroup {offset : Nat} (h : a.closeGroup offset = .ok b) :
    b.stack.filter Waiting.isMarker = (a.stack.filter Waiting.isMarker).tail ∧ b.lookahead = a.lookahead := by
  have hspill := markers_spill a.stack a.output
  unfold closeGroup at h
  split at h
  · next he =>
    cases h
    rw [he] at hspill
    exact ⟨congrArg List.tail hspill, rfl⟩
  · next he =>
    cases h
    rw [he] at hspill
    exact ⟨congrArg List.tail hspill, rfl⟩
  · cases h
  · cases h

theorem markers_closeArgument {offset : Nat} (h : a.closeArgument offset = .ok b) :
    b.stack.filter Waiting.isMarker = a.stack.filter Waiting.isMarker ∧ b.lookahead = a.lookahead := by
  have hspill := markers_spill a.stack a.output
  unfold closeArgument at h
  split at h
  · next he =>
    cases h
    rw [he] at hspill
    exact ⟨hspill, rfl⟩
  · cases h
  · cases h

theorem markers_closeChoice {offset : Nat} (h : a.closeChoice offset = .ok b) :
    b.stack.filter Waiting.isMarker = a.stack.filter Waiting.isMarker ∧ b.lookahead = a.lookahead := by
  have hspill := markers_spill a.stack a.output
  unfold closeChoice at h
  split at h
  · next he =>
    cases h
    rw [he] at hspill
    exact ⟨hspill, rfl⟩
  · cases h
  · cases h

/-- A token that is placed when no name is held back. -/
theorem markers_place {opened : Bool} (hl : a.lookahead = none) (h : a.place opened t = .ok b) :
    b.stack.filter Waiting.isMarker = Parentheses.passed none t (a.stack.filter Waiting.isMarker) ∧
      b.lookahead = t.name? := by
  obtain ⟨token, offset⟩ := t
  have hawait : ∀ op : Operator, (a.await op offset).stack.filter Waiting.isMarker =
      a.stack.filter Waiting.isMarker := fun op => markers_spillTo op a.stack a.output
  cases token with
  | number v =>
    simp only [place] at h
    split at h
    · cases h
    · cases h
      exact ⟨rfl, hl⟩
  | identifier name =>
    simp only [place] at h
    split at h
    · cases h
    · cases h
      exact ⟨rfl, rfl⟩
  | openParen =>
    simp only [place] at h
    split at h
    · cases h
    · cases h
      exact ⟨rfl, hl⟩
  | closeParen =>
    simp only [place] at h
    split at h
    · obtain ⟨hm, hb⟩ := markers_closeGroup h
      exact ⟨hm, hb.trans hl⟩
    · cases h
  | comma =>
    simp only [place] at h
    split at h
    · obtain ⟨hm, hb⟩ := markers_closeArgument h
      exact ⟨hm, hb.trans hl⟩
    · cases h
  | call name => cases h
  | operator op =>
    cases op with
    | unary op =>
      simp only [place] at h
      split at h
      · cases h
      · cases h
        exact ⟨hawait (.unary op), hl⟩
    | otherwise =>
      simp only [place] at h
      split at h
      · obtain ⟨hm, hb⟩ := markers_closeChoice h
        exact ⟨hm, hb.trans hl⟩
      · cases h
    | choose =>
      simp only [place] at h
      split at h
      · cases h
        exact ⟨hawait .choose, hl⟩
      · cases h
    | binary op =>
      simp only [place] at h
      split at h
      · cases h
        exact ⟨hawait (.binary op), hl⟩
      · cases h

theorem markers_push (h : a.push t = .ok b) :
    b.stack.filter Waiting.isMarker = Parentheses.passed a.lookahead t (a.stack.filter Waiting.isMarker) ∧
      b.lookahead = t.name? := by
  by_cases ho : t.token = .openParen
  · cases hl : a.lookahead with
    | none =>
      rw [push_of_lookahead_none hl] at h
      exact markers_place (a := { a with callOpened := false, seenAny := true }) hl h
    | some held =>
      obtain ⟨token, offset⟩ := t
      obtain rfl : token = .openParen := ho
      unfold push at h
      rw [hl] at h
      cases h
      exact ⟨rfl, rfl⟩
  · rw [push_of_ne_openParen ho] at h
    rw [Parentheses.passed_of_ne_openParen ho a.lookahead none, ← stack_settle a]
    exact markers_place (a := { a.settle with callOpened := false, seenAny := true }) (lookahead_settle a) h

/-- The markers on the stack are those of the parentheses that are not closed. -/
theorem markers_pushAll {ts : List Located} (h : pushAll {} ts = .ok b) :
    b.stack.filter Waiting.isMarker = (Parentheses.unclosed none ts).reverse ∧
      b.lookahead = Parentheses.lastName none ts := by
  induction ts using List.reverseRecOn generalizing b with
  | nil => cases h; exact ⟨rfl, rfl⟩
  | append_singleton ts t ih =>
    obtain ⟨c, hts, ht⟩ := exists_push_of_concat h
    obtain ⟨hmarkers, hname⟩ := ih hts
    obtain ⟨hpush, hnext⟩ := markers_push ht
    rw [Parentheses.reverse_unclosed_concat, ← hmarkers, ← hname, Parentheses.lastName_concat]
    exact ⟨hpush, hnext⟩

end Assembler
end Gauge
