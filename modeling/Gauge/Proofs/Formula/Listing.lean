import Gauge.Proofs.Formula.Parts
import Gauge.Proofs.Formula.Recognition
import Gauge.Proofs.Token.Display

/-! # Formulas read from their listings

Every instruction of a formula stands among the tokens of its text, or is the call of a name that does. So what
stands between the blanks of a listing tells the instructions.
-/
namespace Gauge

/-! ### Where instructions come from -/

theorem subset_intercalate (separator : List Token) {parts : List (List Token)} {ts : List Token} (h : ts ∈ parts) :
    ts ⊆ separator.intercalate parts := by
  induction parts with
  | nil => cases h
  | cons us parts ih =>
    by_cases hlast : parts = []
    · subst hlast
      rw [List.mem_singleton.mp h, List.intercalate_singleton]
      exact List.Subset.refl _
    · rw [List.intercalate_cons_of_ne_nil hlast]
      rcases List.mem_cons.mp h with rfl | hrest
      · rw [List.append_assoc]
        exact List.subset_append_left ..
      · exact List.subset_append_of_subset_right _ (ih hrest)

theorem Expr.instructions_ne_nil (e : Expr) : e.instructions ≠ [] := by
  cases e <;> simp [instructions]

/-- What holds of some tokens, and of a call if of its name, holds of the instructions that the tokens spell. -/
theorem Derives.forall_instructions {P : Token → Prop} (hcalls : ∀ name, P (.identifier name) → P (.call name))
    {n : ℕ} {ts : List Token} {e : Expr} (h : Derives n ts e) (hts : ∀ t ∈ ts, P t) :
    ∀ t ∈ e.instructions, P t := by
  induction h with
  | number v | identifier name => exact hts
  | call name parts _ ih =>
    simp only [List.forall_mem_cons, List.forall_mem_append] at hts
    obtain ⟨hname, hopen, hparts, -⟩ := hts
    have harguments : ∀ t ∈ Expr.instructionsOf (parts.map Prod.snd), P t := by
      intro t ht
      rw [Expr.instructionsOf_eq_flatMap] at ht
      obtain ⟨e, he, ht⟩ := List.mem_flatMap.mp ht
      obtain ⟨p, hp, rfl⟩ := List.mem_map.mp he
      have hsubset := subset_intercalate [.comma] (List.mem_map_of_mem (f := Prod.fst) hp)
      exact ih p hp (fun u hu => hparts u (hsubset hu)) t ht
    rw [Expr.instructions, List.forall_mem_cons, List.forall_mem_append, List.forall_mem_singleton]
    exact ⟨hopen, harguments, hcalls name hname⟩
  | group _ ih =>
    rw [List.forall_mem_cons, List.forall_mem_append] at hts
    exact ih hts.2.1
  | unary op _ ih =>
    rw [List.forall_mem_cons] at hts
    rw [Expr.instructions, List.forall_mem_append, List.forall_mem_singleton]
    exact ⟨ih hts.2, hts.1⟩
  | binary op _ _ ihl ihr =>
    rw [List.forall_mem_append, List.forall_mem_cons] at hts
    obtain ⟨hl, hop, hr⟩ := hts
    rw [Expr.instructions, List.forall_mem_append, List.forall_mem_append, List.forall_mem_singleton]
    exact ⟨ihl hl, ihr hr, hop⟩
  | choice _ _ _ ihc iht ihe =>
    rw [List.forall_mem_append, List.forall_mem_cons, List.forall_mem_append, List.forall_mem_cons] at hts
    obtain ⟨hc, hchoose, ht, hotherwise, he⟩ := hts
    rw [Expr.instructions, List.forall_mem_append, List.forall_mem_append, List.forall_mem_cons,
      List.forall_mem_append, List.forall_mem_singleton]
    exact ⟨ihc hc, iht ht, hchoose, ihe he, hotherwise⟩
  | loosen _ _ ih => exact ih hts

/-! ### Blanks between displays -/

/-- Texts without blanks can be told from the text that has them with blanks between. -/
theorem eq_of_intercalate_eq {as bs : List String} (ha : ∀ a ∈ as, ' ' ∉ a.toList) (hb : ∀ b ∈ bs, ' ' ∉ b.toList)
    (hane : as ≠ []) (hbne : bs ≠ []) (h : String.intercalate " " as = String.intercalate " " bs) : as = bs := by
  have hsplit : ∀ cs : List String, (∀ c ∈ cs, ' ' ∉ c.toList) → cs ≠ [] →
      (String.intercalate " " cs).toList.splitOn ' ' = cs.map String.toList := by
    intro cs hcs hne
    rw [String.toList_intercalate]
    refine List.splitOn_intercalate ' ' ?_ (by simpa using hne)
    simpa using hcs
  have hlists : as.map String.toList = bs.map String.toList := by
    rw [← hsplit as ha hane, h, hsplit bs hb hbne]
  exact List.map_injective_iff.mpr (fun _ _ => String.toList_inj.mp) hlists

namespace Formula

def NumbersFinite (text : String) : Prop := ∀ t ∈ (Scan.ofString text).tokens, t.token.isFinite = true

instance (text : String) : Decidable (NumbersFinite text) := List.decidableBAll ..

theorem written_of_parse {text : String} {f : Formula} (hf : parse text = .ok f) (hfinite : NumbersFinite text) :
    ∀ t ∈ f.instructions, t.Written := by
  obtain ⟨e, he, hinstructions⟩ := derives_of_parse hf
  rw [hinstructions]
  refine he.forall_instructions (fun _ hname => hname) (List.forall_mem_map.mpr fun t ht => ?_)
  exact Token.written_of_mem_scan ht (hfinite t ht)

theorem instructions_ne_nil {text : String} {f : Formula} (hf : parse text = .ok f) : f.instructions ≠ [] := by
  obtain ⟨e, -, hinstructions⟩ := derives_of_parse hf
  rw [hinstructions]
  exact e.instructions_ne_nil

/-- Instructions are read back from the displays of a listing. -/
theorem map_ofDisplay {ts : List Token} (h : ∀ t ∈ ts, t.Written) :
    (ts.map Token.display).map Token.ofDisplay = ts := by
  have hback : ts.map (Token.ofDisplay ∘ Token.display) = ts.map id :=
    List.map_congr_left fun t ht => Token.ofDisplay_display (h t ht)
  rw [List.map_map, hback, List.map_id]

/-- The postfix listing determines the instructions, for any two texts that compile. -/
theorem instructions_eq_of_listing_eq {s t : String} {f g : Formula} (hf : parse s = .ok f) (hg : parse t = .ok g)
    (hs : NumbersFinite s) (ht : NumbersFinite t) (h : f.listing = g.listing) : f.instructions = g.instructions := by
  have hfwritten := written_of_parse hf hs
  have hgwritten := written_of_parse hg ht
  have hdisplays : f.instructions.map Token.display = g.instructions.map Token.display := by
    have hfne := instructions_ne_nil hf
    have hgne := instructions_ne_nil hg
    refine eq_of_intercalate_eq ?_ ?_ (by simpa using hfne) (by simpa using hgne) h
    · exact List.forall_mem_map.mpr fun t ht => Token.space_not_mem_display (hfwritten t ht)
    · exact List.forall_mem_map.mpr fun t ht => Token.space_not_mem_display (hgwritten t ht)
  rw [← map_ofDisplay hfwritten, hdisplays, map_ofDisplay hgwritten]

/-- The sign, the grouping, the letters and the zeros of the two texts differ, their listings do not. -/
theorem instructions_eq_of_listing_eq_spellings : ∃ f g : Formula,
    parse "-A + Max(b, 1.50)" = .ok f ∧ parse "(-a)+(mAX(B,1.5))" = .ok g ∧ NumbersFinite "-A + Max(b, 1.50)" ∧
      NumbersFinite "(-a)+(mAX(B,1.5))" ∧ f.listing = g.listing ∧ f.instructions = g.instructions := by
  let ts : List Token := [.identifier "a", .operator (.unary .minus), .openParen, .identifier "b",
    .number (Decimal.nearest 15 (-1)), .call "max", .operator (.binary .add)]
  have hf : parse "-A + Max(b, 1.50)" = .ok ⟨ts, "-A + Max(b, 1.50)"⟩ := rfl
  have hg : parse "(-a)+(mAX(B,1.5))" = .ok ⟨ts, "(-a)+(mAX(B,1.5))"⟩ := rfl
  have hs : NumbersFinite "-A + Max(b, 1.50)" := by decide +kernel
  have ht : NumbersFinite "(-a)+(mAX(B,1.5))" := by decide +kernel
  exact ⟨_, _, hf, hg, hs, ht, rfl, instructions_eq_of_listing_eq hf hg hs ht rfl⟩

end Formula
end Gauge
