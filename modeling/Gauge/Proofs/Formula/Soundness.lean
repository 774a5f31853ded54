import Gauge.Proofs.Formula.Stack

/-! # What an assembler has read

The tokens that an assembler has taken determine its stack and output up to offsets. Either an operand is
awaited: every operator on the stack has its left side, and every call its arguments so far. Or an operand
has just ended, which stands on such a stack and spells an expression of a level that fits there. Each
token keeps this, so an assembler that finishes has read one expression and listed it.
-/
namespace Gauge

/-- `Awaits ts stack output`: the tokens `ts` end where an operand is to come, and leave the stack and
the output. -/
inductive Awaits : List Token → List Waiting → List Token → Prop where
  | start : Awaits [] [] []
  | group {ts : List Token} {stack : List Waiting} {output : List Token} (offset : Nat) :
      Awaits ts stack output → Awaits (ts ++ [.openParen]) (.group offset :: stack) output
  | call {ts : List Token} {stack : List Waiting} {output : List Token} (name : String)
      (offset : Nat) (parts : List (List Token × Expr)) :
      Awaits ts stack output → (∀ p ∈ parts, Derives 12 p.1 p.2) →
      Awaits (ts ++ .identifier name :: .openParen :: parts.flatMap fun p => p.1 ++ [.comma])
        (.call name offset :: stack)
        (output ++ .openParen :: Expr.instructionsOf (parts.map Prod.snd))
  | unary {ts : List Token} {stack : List Waiting} {output : List Token} (op : UnaryOp)
      (offset : Nat) :
      Awaits ts stack output →
      Awaits (ts ++ [.operator (.unary op)]) (.operator (.unary op) offset :: stack) output
  | binary {ts us : List Token} {stack : List Waiting} {output : List Token} {l : Expr}
      (op : BinaryOp) (offset : Nat) :
      Awaits ts stack output → Derives op.rank us l → Fits op.rank stack →
      Awaits (ts ++ (us ++ [.operator (.binary op)])) (.operator (.binary op) offset :: stack)
        (output ++ l.instructions)
  | choose {ts cs : List Token} {stack : List Waiting} {output : List Token} {c : Expr}
      (offset : Nat) :
      Awaits ts stack output → Derives 11 cs c → Fits 12 stack →
      Awaits (ts ++ (cs ++ [.operator .choose])) (.operator .choose offset :: stack)
        (output ++ c.instructions)
  | otherwise {ts cs us : List Token} {stack : List Waiting} {output : List Token} {c t : Expr}
      (offset : Nat) :
      Awaits ts stack output → Derives 11 cs c → Derives 12 us t → Fits 12 stack →
      Awaits (ts ++ (cs ++ .operator .choose :: (us ++ [.operator .otherwise])))
        (.operator .otherwise offset :: stack)
        (output ++ (c.instructions ++ (t.instructions ++ [.operator .choose])))

/-- `Stands n ts stack output`: the tokens `ts` end with an operand of level `n` that stands on the
stack, and the output ends with its listing. -/
def Stands (n : Nat) (ts : List Token) (stack : List Waiting) (output : List Token) : Prop :=
  ∃ before us before' e, Awaits before stack before' ∧ Derives n us e ∧ Fits n stack ∧
    ts = before ++ us ∧ output = before' ++ e.instructions

namespace Stands

variable {n : Nat} {ts : List Token} {stack : List Waiting} {output : List Token}

theorem mono {m : Nat} (h : Stands n ts stack output) (hnm : n ≤ m) (hm : m ≤ 12)
    (hf : Fits m stack) : Stands m ts stack output := by
  obtain ⟨before, us, before', e, ha, hd, -, rfl, rfl⟩ := h
  exact ⟨before, us, before', e, ha, hd.mono hnm hm, hf, rfl, rfl⟩

/-- An operator that leaves the stack takes its operands with it. -/
theorem reduce {op : Operator} {offset : Nat} (h : Stands n ts (.operator op offset :: stack) output)
    (hop : op ≠ .choose) : Stands op.rank ts stack (output ++ [.operator op]) := by
  obtain ⟨before, us, before', e, ha, hd, hf, rfl, rfl⟩ := h
  cases ha with
  | unary op _ ha =>
    exact ⟨_, _, _, _, ha, .unary op (hd.mono hf (by decide)), fits_one stack, by simp,
      by simp [Expr.instructions]⟩
  | binary op _ ha hl hfit =>
    have hr := op.rank_le
    have hr' : n ≤ op.rank - 1 := hf
    exact ⟨_, _, _, _, ha, .binary op hl (hd.mono hr' (by omega)), hfit, by simp,
      by simp [Expr.instructions]⟩
  | choose => exact absurd rfl hop
  | otherwise _ ha hc ht hfit =>
    exact ⟨_, _, _, _, ha, .choice hc ht (hd.mono hf (Nat.le_refl 12)), hfit, by simp,
      by simp [Expr.instructions]⟩

/-- After the operators that give way to the next one, its left side stands on the stack. -/
theorem spillTo {next : Operator} {output : Array Token} (h : Stands n ts stack output.toList)
    (hn : n ≤ next.leftLevel) :
    ∃ m ≤ next.leftLevel, Stands m ts (Assembler.spillTo next stack output).1
        (Assembler.spillTo next stack output).2.toList ∧
      Fits next.rank (Assembler.spillTo next stack output).1 := by
  induction stack generalizing n output with
  | nil => exact ⟨n, hn, h, trivial⟩
  | cons w stack ih =>
    match w with
    | .group _ | .call _ _ => exact ⟨n, hn, h, trivial⟩
    | .operator top offset =>
      unfold Assembler.spillTo
      split
      · next hy =>
        have htop : top ≠ .choose := by
          rintro rfl
          have hr := next.rank_le
          rw [Operator.yieldsTo_iff] at hy
          simp only [Operator.operandLevel] at hy
          omega
        refine ih (n := top.rank) ?_ (Operator.rank_le_leftLevel hy)
        rw [Array.toList_push]
        exact h.reduce htop
      · next hy =>
        rw [Operator.yieldsTo_iff, Nat.not_lt] at hy
        exact ⟨n, hn, h, hy⟩

/-- After every operator down to a `?` or a marker, an expression stands on the stack. -/
theorem spill {output : Array Token} (h : Stands n ts stack output.toList) (hn : n ≤ 12) :
    Stands 12 ts (Assembler.spill stack output).1 (Assembler.spill stack output).2.toList := by
  induction stack generalizing n output with
  | nil => exact h.mono hn (Nat.le_refl 12) trivial
  | cons w stack ih =>
    match w with
    | .group _ | .call _ _ => exact h.mono hn (Nat.le_refl 12) trivial
    | .operator .choose _ => exact h.mono hn (Nat.le_refl 12) (Nat.le_refl 12)
    | .operator (.unary op) _ | .operator (.binary op) _ | .operator .otherwise _ =>
      have hr := h.reduce nofun
      rw [← Array.toList_push] at hr
      exact ih hr (Operator.rank_le _)

end Stands

inductive Reads : List Token → Assembler → Prop where
  | operand {ts : List Token} {stack : List Waiting} {output : Array Token} (seen : Bool) :
      Awaits ts stack output.toList → Reads ts ⟨stack, output, none, false, false, seen⟩
  | opened {ts : List Token} {stack : List Waiting} {output : Array Token} (name : String)
      (offset : Nat) :
      Awaits ts stack output.toList →
      Reads (ts ++ [.identifier name, .openParen])
        ⟨.call name offset :: stack, output.push .openParen, none, false, true, true⟩
  | held {ts : List Token} {stack : List Waiting} {output : Array Token} (name : String)
      (offset : Nat) :
      Awaits ts stack output.toList →
      Reads (ts ++ [.identifier name]) ⟨stack, output, some (name, offset), true, false, true⟩
  | operator {ts : List Token} {stack : List Waiting} {output : Array Token} :
      Stands 0 ts stack output.toList → Reads ts ⟨stack, output, none, true, false, true⟩

/-- A primary that follows what an operand is awaited by stands there. -/
theorem Awaits.stands {ts us : List Token} {stack : List Waiting} {output : List Token} {e : Expr}
    (h : Awaits ts stack output) (hd : Derives 0 us e) :
    Stands 0 (ts ++ us) stack (output ++ e.instructions) :=
  ⟨ts, us, output, e, h, hd, fits_zero stack, rfl, rfl⟩

theorem derives_concat {parts : List (List Token × Expr)} {us : List Token} {e : Expr}
    (hp : ∀ p ∈ parts, Derives 12 p.1 p.2) (hd : Derives 12 us e) :
    ∀ p ∈ parts ++ [(us, e)], Derives 12 p.1 p.2 := by
  intro p hm
  rcases List.mem_append.mp hm with hm | hm
  · exact hp p hm
  · rwa [List.mem_singleton.mp hm]

namespace Stands

variable {ts : List Token} {stack : List Waiting} {output : List Token}

theorem closeGroup {offset : Nat} (h : Stands 12 ts (.group offset :: stack) output) :
    Stands 0 (ts ++ [.closeParen]) stack output := by
  obtain ⟨before, us, before', e, ha, hd, -, rfl, rfl⟩ := h
  cases ha with
  | group _ ha =>
    have hs := ha.stands (.group hd)
    simpa using hs

theorem closeCall {name : String} {offset : Nat}
    (h : Stands 12 ts (.call name offset :: stack) output) :
    Stands 0 (ts ++ [.closeParen]) stack (output ++ [.call name]) := by
  obtain ⟨before, us, before', e, ha, hd, -, rfl, rfl⟩ := h
  cases ha with
  | call _ _ parts ha hp =>
    have hs := ha.stands (.call name (parts ++ [(us, e)]) ?_)
    · rw [List.map_append, List.map_singleton, intercalate_comma_concat] at hs
      simpa [Expr.instructions, Expr.instructionsOf, Expr.instructionsOf_append] using hs
    · exact derives_concat hp hd

theorem closeArgument {name : String} {offset : Nat}
    (h : Stands 12 ts (.call name offset :: stack) output) :
    Awaits (ts ++ [.comma]) (.call name offset :: stack) output := by
  obtain ⟨before, us, before', e, ha, hd, -, rfl, rfl⟩ := h
  cases ha with
  | call _ _ parts ha hp =>
    have hs := Awaits.call name offset (parts ++ [(us, e)]) ha (derives_concat hp hd)
    simpa [Expr.instructionsOf, Expr.instructionsOf_append] using hs

theorem closeChoice {offset : Nat} (next : Nat)
    (h : Stands 12 ts (.operator .choose offset :: stack) output) :
    Awaits (ts ++ [.operator .otherwise]) (.operator .otherwise next :: stack)
      (output ++ [.operator .choose]) := by
  obtain ⟨before, us, before', e, ha, hd, -, rfl, rfl⟩ := h
  cases ha with
  | choose _ ha hc hf => simpa using Awaits.otherwise next ha hc hd hf

theorem await {next : Operator} {offset : Nat} {m : Nat} (h : Stands m ts stack output)
    (hm : m ≤ next.leftLevel) (hf : Fits next.rank stack)
    (hn : next = .choose ∨ ∃ op, next = .binary op) :
    Awaits (ts ++ [.operator next]) (.operator next offset :: stack) output := by
  obtain ⟨before, us, before', e, ha, hd, -, rfl, rfl⟩ := h
  rcases hn with rfl | ⟨op, rfl⟩
  · simpa using Awaits.choose offset ha (hd.mono hm (by decide)) hf
  · have hr := Nat.le_trans op.rank_le (by decide : 11 ≤ 12)
    simpa using Awaits.binary op offset ha (hd.mono hm hr) hf

end Stands

namespace Assembler

variable {ts : List Token} {stack : List Waiting} {output : Array Token} {b : Assembler}

theorem reads_closeGroup {offset : Nat} (h : Stands 0 ts stack output.toList)
    (hb : closeGroup ⟨stack, output, none, true, false, true⟩ offset = .ok b) :
    Reads (ts ++ [.closeParen]) b := by
  have hs := h.spill (by decide)
  unfold closeGroup at hb
  split at hb
  · next rest out he =>
    rw [he] at hs
    cases hb
    exact .operator hs.closeGroup
  · next name start rest out he =>
    rw [he] at hs
    cases hb
    refine .operator ?_
    rw [Array.toList_push]
    exact hs.closeCall
  · cases hb
  · cases hb

theorem reads_closeArgument {offset : Nat} (h : Stands 0 ts stack output.toList)
    (hb : closeArgument ⟨stack, output, none, true, false, true⟩ offset = .ok b) :
    Reads (ts ++ [.comma]) b := by
  have hs := h.spill (by decide)
  unfold closeArgument at hb
  split at hb
  · next name start rest out he =>
    rw [he] at hs
    cases hb
    exact .operand true hs.closeArgument
  · cases hb
  · cases hb

theorem reads_closeChoice {offset : Nat} (h : Stands 0 ts stack output.toList)
    (hb : closeChoice ⟨stack, output, none, true, false, true⟩ offset = .ok b) :
    Reads (ts ++ [.operator .otherwise]) b := by
  have hs := h.spill (by decide)
  unfold closeChoice at hb
  split at hb
  · next op start rest out he =>
    obtain rfl := spill_operator (congrArg Prod.fst he)
    rw [he] at hs
    cases hb
    refine .operand true ?_
    rw [Array.toList_push]
    exact hs.closeChoice offset
  · cases hb
  · cases hb

theorem reads_place_operator {opened : Bool} {t : Located} (h : Stands 0 ts stack output.toList)
    (hb : place ⟨stack, output, none, true, false, true⟩ opened t = .ok b) :
    Reads (ts ++ [t.token]) b := by
  obtain ⟨token, offset⟩ := t
  have hawait : ∀ next : Operator, next = .choose ∨ (∃ op, next = .binary op) →
      Reads (ts ++ [.operator next])
        { await ⟨stack, output, none, true, false, true⟩ next offset with wantsOperator := false } := by
    intro next hn
    obtain ⟨m, hm, hs, hf⟩ := h.spillTo (Nat.zero_le next.leftLevel)
    exact .operand true (hs.await hm hf hn)
  cases token with
  | number v => cases hb
  | identifier name => cases hb
  | openParen => cases hb
  | call name => cases hb
  | closeParen => exact reads_closeGroup h hb
  | comma => exact reads_closeArgument h hb
  | operator op =>
    cases op with
    | unary op => cases hb
    | otherwise => exact reads_closeChoice h hb
    | choose => cases hb; exact hawait .choose (.inl rfl)
    | binary op => cases hb; exact hawait (.binary op) (.inr ⟨op, rfl⟩)

/-- A token where an operand is wanted; a call that is open without arguments may also end. -/
theorem reads_place_operand {opened : Bool} {t : Located} (h : Awaits ts stack output.toList)
    (ho : opened = true → t.token ≠ .closeParen)
    (hb : place ⟨stack, output, none, false, false, true⟩ opened t = .ok b) :
    Reads (ts ++ [t.token]) b := by
  obtain ⟨token, offset⟩ := t
  cases token with
  | number v =>
    cases hb
    refine .operator ?_
    rw [Array.toList_push]
    exact h.stands (.number v)
  | identifier name => cases hb; exact .held name offset h
  | openParen => cases hb; exact .operand true (.group offset h)
  | call name => cases hb
  | closeParen =>
    cases opened with
    | true => exact absurd rfl (ho rfl)
    | false => cases hb
  | comma => cases hb
  | operator op =>
    cases op with
    | unary op =>
      cases hb
      simp only [await, spillTo_unary]
      exact .operand true (.unary op offset h)
    | otherwise => cases hb
    | choose => cases hb
    | binary op => cases hb

/-- Each token that is taken is read. -/
theorem reads_push {a : Assembler} {t : Located} (h : Reads ts a) (hb : a.push t = .ok b) :
    Reads (ts ++ [t.token]) b := by
  cases h with
  | operand seen h =>
    rw [push_of_lookahead_none rfl] at hb
    have hn : false = true → t.token ≠ .closeParen := nofun
    exact reads_place_operand h hn hb
  | operator h => exact reads_place_operator h hb
  | @held ts stack output name start h =>
    have hs : Stands 0 (ts ++ [.identifier name]) stack (output.push (.identifier name)).toList := by
      rw [Array.toList_push]
      exact h.stands (.identifier name)
    by_cases ht : t.token = .openParen
    · obtain ⟨token, offset⟩ := t
      obtain rfl : token = .openParen := ht
      cases hb
      rw [List.append_assoc]
      exact .opened name start h
    · rw [push_of_ne_openParen ht] at hb
      exact reads_place_operator hs hb
  | @opened ts stack output name start h =>
    have hc : Awaits (ts ++ [.identifier name, .openParen]) (.call name start :: stack)
        (output.push .openParen).toList := by
      rw [Array.toList_push]
      exact .call name start [] h nofun
    by_cases ht : t.token = .closeParen
    · obtain ⟨token, offset⟩ := t
      obtain rfl : token = .closeParen := ht
      cases hb
      have hs : Stands 0 (ts ++ [.identifier name, .openParen, .closeParen]) stack
          (output.toList ++ (Expr.call name []).instructions) := h.stands (.call name [] nofun)
      have ho : ((output.push .openParen).push (.call name)).toList =
          output.toList ++ (Expr.call name []).instructions := by
        simp [Expr.instructions, Expr.instructionsOf]
      rw [← ho] at hs
      rw [List.append_assoc]
      exact .operator hs
    · exact reads_place_operand hc (fun _ => ht) hb

theorem reads_pushAll {a : Assembler} {us : List Located} (h : Reads ts a)
    (hb : a.pushAll us = .ok b) : Reads (ts ++ us.map Located.token) b := by
  induction us generalizing ts a with
  | nil => cases hb; simpa using h
  | cons t us ih =>
    rw [pushAll_cons] at hb
    cases hp : a.push t with
    | error e => rw [hp] at hb; cases hb
    | ok c =>
      rw [hp] at hb
      simpa using ih (reads_push h hp) hb

theorem reads_start : Reads [] {} := .operand false .start

/-- An assembler that finishes has read an expression and lists its instructions. -/
theorem derives_of_finish {a : Assembler} {f : Formula} (h : Reads ts a) (hf : a.finish = .ok f) :
    ∃ e, Derives 12 ts e ∧ f.instructions = e.instructions := by
  have hstands : ∃ stack output, Stands 0 ts stack output.toList ∧ a.finish =
      (unwind stack output).map fun out => .ofInstructions out.toList := by
    cases h with
    | operand seen h => cases seen <;> cases hf
    | opened => cases hf
    | operator h => exact ⟨_, _, h, rfl⟩
    | @held ts stack output name start h =>
      refine ⟨_, output.push (.identifier name), ?_, rfl⟩
      rw [Array.toList_push]
      exact h.stands (.identifier name)
  obtain ⟨stack, output, hs, he⟩ := hstands
  cases hu : unwind stack output with
  | error e => rw [he, hu] at hf; cases hf
  | ok out =>
    rw [he, hu] at hf
    cases hf
    have hsp := hs.spill (by decide)
    rw [unwind_eq_ok_iff.mp hu] at hsp
    obtain ⟨before, us, before', e, ha, hd, -, rfl, ho⟩ := hsp
    cases ha
    exact ⟨e, hd, ho⟩

end Assembler
end Gauge
