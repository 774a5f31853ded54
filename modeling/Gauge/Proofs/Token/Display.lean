import Gauge.Proofs.Decimal.ReadBack
import Gauge.Proofs.Text.Lowercase
import Gauge.Proofs.Token.Failure

/-! # Tokens read from their texts

A token that comes from a text can be told from how a listing writes it. A number is written with digits and
points, and a name has something else in it. Operators and punctuation have at most two characters, with a symbol
among them, and a call has the two parentheses after its name.
-/
namespace Gauge

/-! ### Names in small letters -/

namespace Text

def IsSmall (c : Char) : Prop := 'a'.toNat ≤ c.toNat ∧ (c.toNat ≤ 'z'.toNat ∨ 128 ≤ c.toNat)

theorem small_lowercaseSpans : ∀ s ∈ lowercaseSpans,
    'a'.toNat ≤ (image s).1 ∧ ((image s).2 ≤ 'z'.toNat ∨ 128 ≤ (image s).1) := by
  decide +kernel

instance : DecidablePred IsSmall := fun _ => inferInstanceAs (Decidable (_ ∧ _))

theorem isSmall_sigma : IsSmall 'σ' ∧ IsSmall 'ς' := by decide

theorem eq_or_isSmall_of_mem_lowerChar {c d : Char} (hd : d ∈ lowerChar c) : d = c ∨ IsSmall d := by
  rw [lowerChar] at hd
  split_ifs at hd with hdot hsigma
  · have hsmall : IsSmall 'i' ∧ IsSmall (Char.ofNat 0x307) := by decide
    rw [List.mem_cons, List.mem_singleton] at hd
    rcases hd with rfl | rfl
    · exact .inr hsmall.1
    · exact .inr hsmall.2
  · exact .inr (List.mem_singleton.mp hd ▸ isSmall_sigma.1)
  · cases hlookup : lookup c.toNat lowercaseSpans with
    | none =>
      rw [hlookup, List.mem_singleton] at hd
      exact .inl hd
    | some distance =>
      rw [hlookup, List.mem_singleton] at hd
      obtain ⟨s, hs, hlow, hhigh, -⟩ := image_of_lookup hlookup
      rw [← hd] at hlow hhigh
      obtain ⟨hfirst, hrange⟩ := small_lowercaseSpans s hs
      exact .inr ⟨by omega, by omega⟩

theorem lowerChar_ne_nil (c : Char) : lowerChar c ≠ [] := by
  rw [lowerChar]
  split_ifs
  · simp
  · simp
  · cases lookup c.toNat lowercaseSpans <;> simp

theorem mem_or_isSmall_of_mem_lowerFrom {before cs : List Char} :
    ∀ d ∈ lowerFrom before cs, d ∈ cs ∨ IsSmall d := by
  induction cs generalizing before with
  | nil => simp [lowerFrom]
  | cons c cs ih =>
    have htail : ∀ d ∈ lowerFrom (c :: before) cs, d ∈ c :: cs ∨ IsSmall d := fun d hd =>
      (ih d hd).imp (List.mem_cons_of_mem c) id
    rw [lowerFrom]
    by_cases hsigma : c = capitalSigma
    · rw [if_pos hsigma]
      refine List.forall_mem_cons.mpr ⟨.inr ?_, htail⟩
      split
      · exact isSmall_sigma.2
      · exact isSmall_sigma.1
    · rw [if_neg hsigma]
      refine List.forall_mem_append.mpr ⟨fun d hd => ?_, htail⟩
      exact (eq_or_isSmall_of_mem_lowerChar hd).imp (fun heq => List.mem_cons.mpr (.inl heq)) id

theorem exists_mem_lowerFrom (before : List Char) (c : Char) (cs : List Char) :
    ∃ d ∈ lowerFrom before (c :: cs), d = c ∨ IsSmall d := by
  rw [lowerFrom]
  by_cases hsigma : c = capitalSigma
  · rw [if_pos hsigma]
    refine ⟨_, List.mem_cons_self, .inr ?_⟩
    split
    · exact isSmall_sigma.2
    · exact isSmall_sigma.1
  · rw [if_neg hsigma]
    obtain ⟨d, hd⟩ := List.exists_mem_of_ne_nil _ (lowerChar_ne_nil c)
    exact ⟨d, List.mem_append_left _ hd, eq_or_isSmall_of_mem_lowerChar hd⟩

end Text

structure IsPlainName (name : String) : Prop where
  plain : ∀ c ∈ name.toList, c ∉ symbolChars ∧ c ≠ ' '
  letter : ∃ c ∈ name.toList, isNumeralChar c = false

theorem isNumeralChar_of_isNameStart {c : Char} (h : isNameStart c = true) : isNumeralChar c = false := by
  rw [← Bool.not_eq_true, CharKind.isNumeralChar_iff_of, CharKind.of_isNameStart h]
  decide

theorem plain_of_isNameChar {c : Char} (h : isNameChar c = true) : c ∉ symbolChars ∧ c ≠ ' ' := by
  rw [CharKind.isNameChar_iff_of] at h
  constructor
  · intro hsymbol
    rw [CharKind.mem_symbolChars_iff_of.mp hsymbol] at h
    contradiction
  · rintro rfl
    contradiction

namespace Text.IsSmall

variable {c : Char} (h : IsSmall c)

include h

theorem plain : c ∉ symbolChars ∧ c ≠ ' ' := by
  have hsymbols : symbolChars.all (fun d => d.toNat < 'a'.toNat || 'z'.toNat < d.toNat && d.toNat < 128) = true := by
    decide
  obtain ⟨hlow, hhigh⟩ := h
  constructor
  · intro hc
    have hout := List.all_eq_true.mp hsymbols c hc
    simp only [Bool.or_eq_true, Bool.and_eq_true, decide_eq_true_eq] at hout
    omega
  · rintro rfl
    contradiction

theorem isNumeralChar : isNumeralChar c = false := by
  rw [← Bool.not_eq_true, isNumeralChar_iff]
  rintro (hdigit | rfl)
  · simp only [Char.isDigit, Bool.and_eq_true, decide_eq_true_eq] at hdigit
    have hle : c.toNat ≤ 57 := hdigit.2
    have hlow : 97 ≤ c.toNat := h.1
    omega
  · exact absurd h.1 (by decide)

end Text.IsSmall

theorem isPlainName_lowercase {cs : List Char} (h : IsName cs) : IsPlainName (Text.lowercase (String.ofList cs)) := by
  rw [Text.lowercase, String.toList_ofList]
  constructor
  · intro d hd
    rw [String.toList_ofList] at hd
    rcases Text.mem_or_isSmall_of_mem_lowerFrom d hd with hname | hsmall
    · exact plain_of_isNameChar (isNameChar_of_isName h d hname)
    · exact hsmall.plain
  · rw [String.toList_ofList]
    cases cs with
    | nil => exact h.elim
    | cons c cs =>
      obtain ⟨d, hd, heq | hsmall⟩ := Text.exists_mem_lowerFrom [] c cs
      · exact ⟨d, hd, heq ▸ isNumeralChar_of_isNameStart h.1⟩
      · exact ⟨d, hd, hsmall.isNumeralChar⟩

/-! ### Numbers -/

namespace Decimal

theorem isDigitRun_of_numeral? {cs : List Char} {v : Float} (h : numeral? cs = some v) : IsDigitRun cs := by
  rw [numeral?, Option.ite_none_right_eq_some, Bool.and_eq_true, List.isEmpty_iff] at h
  obtain ⟨⟨hdigit, hrest⟩, -⟩ := h
  constructor
  · rintro rfl
    exact absurd hdigit (by decide)
  · -- After the digits nothing is left, or a point with nothing but digits after it.
    have hsplit := List.takeWhile_append_dropWhile (p := Char.isDigit) (l := cs)
    rw [← hsplit, List.forall_mem_append]
    refine ⟨fun c hc => isNumeralChar_iff.mpr (.inl (List.mem_takeWhile_imp hc)), ?_⟩
    rw [split] at hrest
    split at hrest
    · rename_i after hafter
      rw [hafter, List.forall_mem_cons]
      exact ⟨rfl, fun c hc => isNumeralChar_iff.mpr (.inl (List.dropWhile_eq_nil_iff.mp hrest c hc))⟩
    · have hnone : cs.dropWhile Char.isDigit = [] := hrest
      rw [hnone]
      exact List.forall_mem_nil _

theorem isNegative_of_numeral? {cs : List Char} {v : Float} (h : numeral? cs = some v) :
    Signal.isNegative v = false := by
  rw [numeral?, Option.ite_none_right_eq_some] at h
  obtain ⟨-, hvalue⟩ := h
  rw [← Option.some.inj hvalue]
  exact isNegative_nearest ..

end Decimal

/-! ### Reading a token -/

namespace Token

/-- A token as texts have it, or the call of a name, where numbers are in range. -/
def Written : Token → Prop
  | .number v => v.isFinite = true ∧ Signal.isNegative v = false
  | .identifier name | .call name => IsPlainName name
  | .operator _ | .openParen | .closeParen | .comma => True

def signs : List Token := Operator.all.map .operator ++ [.openParen, .closeParen, .comma]

def ofDisplay (text : String) : Token :=
  match signs.find? fun t => t.display = text with
  | some t => t
  | none =>
    match Decimal.numeral? text.toList with
    | some v => .number v
    | none =>
      if ['(', ')'].isSuffixOf text.toList then .call (String.ofList (text.toList.take (text.toList.length - 2)))
      else .identifier text

theorem ofDisplay_signs : ∀ t ∈ signs, ofDisplay t.display = t := by
  decide +kernel

theorem display_signs : ∀ t ∈ signs, t.display.toList.length ≤ 2 ∧ ' ' ∉ t.display.toList ∧
    ∃ c ∈ t.display.toList, c ∈ symbolChars := by
  have hall : signs.all (fun t => t.display.toList.length ≤ 2 && !t.display.toList.contains ' ' &&
      t.display.toList.any (symbolChars.contains ·)) = true := by
    decide +kernel
  intro t ht
  simpa [and_assoc] using List.all_eq_true.mp hall t ht

theorem mem_signs {op : Operator} : .operator op ∈ signs := by
  refine List.mem_append_left _ (List.mem_map_of_mem ?_)
  cases op with
  | unary op => cases op <;> decide
  | binary op => cases op <;> decide
  | choose | otherwise => decide

theorem find_signs_eq_none {text : String} (h : 2 < text.toList.length ∨ ∀ c ∈ text.toList, c ∉ symbolChars) :
    (signs.find? fun t => t.display = text) = none := by
  rw [List.find?_eq_none]
  intro t ht hsame
  obtain ⟨hlength, -, c, hc, hsymbol⟩ := display_signs t ht
  rw [of_decide_eq_true hsame] at hlength hc
  rcases h with hlong | hplain
  · omega
  · exact hplain c hc hsymbol

theorem numeral?_eq_none {cs : List Char} (h : ∃ c ∈ cs, isNumeralChar c = false) : Decimal.numeral? cs = none := by
  obtain ⟨c, hc, hletter⟩ := h
  by_contra hsome
  obtain ⟨v, hv⟩ := Option.ne_none_iff_exists'.mp hsome
  have hdigit := (Decimal.isDigitRun_of_numeral? hv).2 c hc
  rw [hletter] at hdigit
  cases hdigit

theorem not_mem_symbolChars {c : Char} (h : isNumeralChar c = true) : c ∉ symbolChars ∧ c ≠ ' ' :=
  plain_of_isNameChar (by rw [isNameChar, h, Bool.or_true])

/-- A token is read from what a listing writes for it. -/
theorem ofDisplay_display {t : Token} (h : t.Written) : ofDisplay t.display = t := by
  cases t with
  | operator op => exact ofDisplay_signs _ mem_signs
  | openParen | closeParen | comma => exact ofDisplay_signs _ (by decide +kernel)
  | number v =>
    have hread := Decimal.numeral?_text h.1 h.2
    have hplain : ∀ c ∈ (Decimal.text v).toList, c ∉ symbolChars := fun c hc =>
      (not_mem_symbolChars ((Decimal.isDigitRun_of_numeral? hread).2 c hc)).1
    rw [display, ofDisplay, find_signs_eq_none (.inr hplain), hread]
  | identifier name =>
    have hplain : ∀ c ∈ name.toList, c ∉ symbolChars := fun c hc => (h.plain c hc).1
    have hcall : ['(', ')'].isSuffixOf name.toList = false := by
      rw [← Bool.not_eq_true, List.isSuffixOf_iff_suffix]
      intro hsuffix
      exact hplain '(' (hsuffix.subset List.mem_cons_self) (by decide)
    rw [display, ofDisplay, find_signs_eq_none (.inr hplain), numeral?_eq_none h.letter, hcall]
    rfl
  | call name =>
    have htext : (name ++ "()").toList = name.toList ++ ['(', ')'] := String.toList_append
    obtain ⟨c, hc, hletter⟩ := h.letter
    have hlong : 2 < (name ++ "()").toList.length := by
      rw [htext, List.length_append]
      exact Nat.lt_add_of_pos_left (List.length_pos_of_mem hc)
    have hsome : ∃ c ∈ (name ++ "()").toList, isNumeralChar c = false :=
      ⟨c, htext ▸ List.mem_append_left _ hc, hletter⟩
    have hcall : ['(', ')'].isSuffixOf (name ++ "()").toList = true := by
      rw [List.isSuffixOf_iff_suffix, htext]
      exact List.suffix_append ..
    have hname : (name ++ "()").toList.take ((name ++ "()").toList.length - 2) = name.toList := by
      rw [htext]
      exact List.take_left' (by simp)
    rw [display, ofDisplay, find_signs_eq_none (.inl hlong), numeral?_eq_none hsome, hcall, hname,
      String.ofList_toList]
    rfl

theorem space_not_mem_display {t : Token} (h : t.Written) : ' ' ∉ t.display.toList := by
  cases t with
  | operator op => exact (display_signs _ mem_signs).2.1
  | openParen | closeParen | comma => exact (display_signs _ (by decide +kernel)).2.1
  | number v =>
    have hread := Decimal.numeral?_text h.1 h.2
    intro hspace
    exact (not_mem_symbolChars ((Decimal.isDigitRun_of_numeral? hread).2 _ hspace)).2 rfl
  | identifier name => exact fun hspace => (h.plain _ hspace).2 rfl
  | call name =>
    have htext : (name ++ "()").toList = name.toList ++ ['(', ')'] := String.toList_append
    rw [display, htext, List.mem_append]
    rintro (hspace | hspace)
    · exact (h.plain _ hspace).2 rfl
    · exact absurd hspace (by decide)

def isFinite : Token → Bool
  | .number v => v.isFinite
  | _ => true

theorem written_of_mem_scan {text : String} {t : Located} (ht : t ∈ (Scan.ofString text).tokens)
    (hfinite : t.token.isFinite = true) : t.token.Written := by
  obtain ⟨run, operand, rest, hmeans, -⟩ := Scan.exists_lexeme ht
  generalize t.token = u at hmeans hfinite
  cases hmeans with
  | number _ _ hvalue => exact ⟨hfinite, Decimal.isNegative_of_numeral? hvalue⟩
  | name hfront => exact isPlainName_lowercase hfront.1
  | symbol _ hsymbol _ =>
    cases u with
    | operator | openParen | closeParen | comma => trivial
    | number | identifier | call => cases hsymbol

end Token
end Gauge
