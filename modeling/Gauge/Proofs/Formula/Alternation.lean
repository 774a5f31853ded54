import Gauge.Proofs.Formula.Refusal
import Gauge.Proofs.Token.Stream

/-! # Operands and operators in turn

The scanner reads a sign by the token before it, the assembler by what it has taken. Both come to the same:
an operator is wanted exactly after a number, a name or a closing parenthesis. So a sign is never refused,
neither the one before an operand nor the one between two.
-/
namespace Gauge

def Token.IsSign (t : Token) : Prop := t.symbol? = some "+" ∨ t.symbol? = some "-"

theorem Token.IsSign.cases {t : Token} (h : t.IsSign) :
    t = .operator (.unary .plus) ∨ t = .operator (.unary .minus) ∨
      t = .operator (.binary .add) ∨ t = .operator (.binary .subtract) := by
  cases t with
  | operator op =>
    cases op with
    | unary op => cases op <;> simp_all [Token.IsSign, Token.symbol?, Operator.symbol, UnaryOp.symbol]
    | binary op => cases op <;> simp_all [Token.IsSign, Token.symbol?, Operator.symbol, BinaryOp.symbol]
    | choose | otherwise => simp [Token.IsSign, Token.symbol?, Operator.symbol] at h
  | _ => simp [Token.IsSign, Token.symbol?] at h

/-- A sign that suits its place is unary where no operand ends, and binary where one does. -/
theorem Token.IsSign.unary_or_binary {t : Token} (h : t.IsSign) {operand : Bool}
    (hsuits : t.Suits operand) :
    (∃ op, t = .operator (.unary op)) ∧ operand = false ∨
      (∃ op, t = .operator (.binary op)) ∧ operand = true := by
  rcases h.cases with rfl | rfl | rfl | rfl
  · exact .inl ⟨⟨.plus, rfl⟩, hsuits⟩
  · exact .inl ⟨⟨.minus, rfl⟩, hsuits⟩
  · exact .inr ⟨⟨.add, rfl⟩, hsuits⟩
  · exact .inr ⟨⟨.subtract, rfl⟩, hsuits⟩

namespace Assembler

variable {a : Assembler} {t : Located}

theorem exists_push_unary {op : UnaryOp} (ht : t.token = .operator (.unary op))
    (hwants : a.wantsOperator = false) : ∃ b, a.push t = .ok b := by
  rw [push_of_ne_openParen (by simp [ht])]
  simp [place, ht, hwants]

theorem exists_push_binary {op : BinaryOp} (ht : t.token = .operator (.binary op))
    (hwants : a.wantsOperator = true) : ∃ b, a.push t = .ok b := by
  rw [push_of_ne_openParen (by simp [ht])]
  simp [place, ht, hwants]

theorem exists_push_sign (hsign : t.token.IsSign) (hsuits : t.token.Suits a.wantsOperator) :
    ∃ b, a.push t = .ok b := by
  rcases hsign.unary_or_binary hsuits with ⟨⟨op, ht⟩, hwants⟩ | ⟨⟨op, ht⟩, hwants⟩
  · exact exists_push_unary ht hwants
  · exact exists_push_binary ht hwants

end Assembler

namespace Formula

/-- The tokens `ts` are handed out first for the text, and taking them all leads to `a`. -/
def Reaches (source : String) (ts : List Located) (a : Assembler) : Prop :=
  (TokenStream.ofString source).Begins ts ∧ Assembler.pushAll {} ts = .ok a

variable {source : String} {ts : List Located} {a : Assembler}

theorem Reaches.wantsOperator_iff (h : Reaches source ts a) :
    a.wantsOperator = true ↔ ∃ t ∈ ts.getLast?, t.token.endsOperand = true := by
  rw [Assembler.wantsOperator_pushAll h.2]
  exact operandPast_false_iff

/-- What the scanner takes the next token to be fits what the assembler wants. -/
theorem Reaches.suits (h : Reaches source ts a) {t : Located}
    (hnext : (TokenStream.ofString source).Begins (ts ++ [t])) : t.token.Suits a.wantsOperator := by
  obtain ⟨after, htokens⟩ := TokenStream.begins_ofString_iff.mp hnext
  rw [List.append_assoc, List.singleton_append] at htokens
  rw [Assembler.wantsOperator_pushAll h.2]
  exact Scan.suits htokens.symm

theorem not_isSign_of_misplaced {text : String} {offset : Nat}
    (h : parse source = .error (.misplaced text offset)) {t : Located}
    (ht : t ∈ (Scan.ofString source).tokens) (hoffset : t.offset = offset) : ¬ t.token.IsSign := by
  intro hsign
  obtain ⟨before, u, after, a, r, htokens, ha, hu, -, huoffset⟩ := exists_misplaced_of_parse h
  have hmem : u ∈ (Scan.ofString source).tokens := by rw [htokens]; simp
  -- The error has only an offset, but no other token stands there.
  obtain rfl : t = u := Scan.eq_of_offset_eq ht hmem (hoffset.trans huoffset.symm)
  have hsuits : t.token.Suits a.wantsOperator := by
    rw [Assembler.wantsOperator_pushAll ha]
    exact Scan.suits htokens
  obtain ⟨b, hb⟩ := Assembler.exists_push_sign hsign hsuits
  rw [hb] at hu
  cases hu

/-- Wherever the tokens handed out so far have been taken, an operator is wanted exactly after a number, a
name or a closing parenthesis; a sign that comes next is binary exactly there, and is taken. So no text
fails at a sign that is misplaced. -/
theorem signs_follow_alternation (source : String) :
    (∀ ts a, Reaches source ts a →
      (a.wantsOperator = true ↔ ∃ t ∈ ts.getLast?, t.token.endsOperand = true)) ∧
    (∀ ts a t, Reaches source ts a → (TokenStream.ofString source).Begins (ts ++ [t]) →
      t.token.IsSign →
        ((∃ op, t.token = .operator (.binary op)) ↔ a.wantsOperator = true) ∧
        ((∃ op, t.token = .operator (.unary op)) ↔ a.wantsOperator = false) ∧
        ∃ b, a.push t = .ok b) ∧
    (∀ text offset, parse source = .error (.misplaced text offset) →
      ∀ ts t, (TokenStream.ofString source).Begins (ts ++ [t]) → t.offset = offset →
        ¬ t.token.IsSign) := by
  refine ⟨fun ts a h => h.wantsOperator_iff, ?_, ?_⟩
  · intro ts a t hreaches hnext hsign
    have hsuits := hreaches.suits hnext
    refine ⟨?_, ?_, Assembler.exists_push_sign hsign hsuits⟩
    all_goals
      rcases hsign.unary_or_binary hsuits with ⟨⟨op, ht⟩, hwants⟩ | ⟨⟨op, ht⟩, hwants⟩
      · simp [ht, hwants]
      · simp [ht, hwants]
  · intro text offset hparse ts t hnext hoffset
    have hfront := TokenStream.begins_ofString_iff.mp hnext
    exact not_isSign_of_misplaced hparse (hfront.subset (by simp)) hoffset

/-- Both minus signs of `(-a)-b c` are taken, and what is misplaced is the name behind them. -/
theorem signs_follow_alternation_both :
    parse "(-a)-b c" = .error (.misplaced "c" 7) ∧
    (∃ a, Reaches "(-a)-b c"
        [⟨.openParen, 0⟩, ⟨.operator (.unary .minus), 1⟩, ⟨.identifier "a", 2⟩, ⟨.closeParen, 3⟩] a ∧
      a.wantsOperator = true ∧
      (∃ b, a.push ⟨.operator (.binary .subtract), 4⟩ = .ok b)) ∧
    ¬ (Token.identifier "c").IsSign := by
  obtain ⟨hwants, hsign, hmisplaced⟩ := signs_follow_alternation "(-a)-b c"
  have hparse : parse "(-a)-b c" = .error (.misplaced "c" 7) := rfl
  have hfront : Reaches "(-a)-b c"
      [⟨.openParen, 0⟩, ⟨.operator (.unary .minus), 1⟩, ⟨.identifier "a", 2⟩, ⟨.closeParen, 3⟩]
      { output := #[.identifier "a", .operator (.unary .minus)], wantsOperator := true,
        seenAny := true } := ⟨rfl, rfl⟩
  refine ⟨hparse, ⟨_, hfront, (hwants _ _ hfront).mpr ⟨_, rfl, rfl⟩, ?_⟩, ?_⟩
  · exact (hsign _ _ ⟨.operator (.binary .subtract), 4⟩ hfront rfl (.inr rfl)).2.2
  · exact hmisplaced _ _ hparse
      [⟨.openParen, 0⟩, ⟨.operator (.unary .minus), 1⟩, ⟨.identifier "a", 2⟩, ⟨.closeParen, 3⟩,
        ⟨.operator (.binary .subtract), 4⟩, ⟨.identifier "b", 5⟩] ⟨.identifier "c", 7⟩ rfl rfl

end Formula
end Gauge
