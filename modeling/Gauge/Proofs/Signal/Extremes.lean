import Gauge.Proofs.Signal.Order

/-! # The least and the greatest signal

Signals are reduced from the left by a choice between two. If the choice takes the one that comes first in an
order, the result is the first of the whole list. It depends neither on the order of the list nor on the way in which
the list is divided, up to the sign of a zero. The minimum and the maximum are such reductions, one in the order of
signals and one in its dual.
-/
namespace Gauge.Signal

section

variable {κ : Type} [LinearOrder κ] {rank : ℤ ×ₗ ℤ ×ₗ ℤ → κ} {f : Float → Float → Float}

structure Picks (rank : ℤ ×ₗ ℤ ×ₗ ℤ → κ) (f : Float → Float → Float) : Prop where
  choice (v w : Float) : f v w = v ∨ f v w = w
  le_left {v w : Float} : v.isNaN = false → w.isNaN = false → rank (height (f v w)) ≤ rank (height v)
  le_right {v w : Float} : v.isNaN = false → w.isNaN = false → rank (height (f v w)) ≤ rank (height w)

/-- `m` is the signal of `vs` whose height comes first by rank, or equals it. -/
structure IsFirst (rank : ℤ ×ₗ ℤ ×ₗ ℤ → κ) (vs : List Float) (m : Float) : Prop where
  mem : m ∈ vs
  le : ∀ v ∈ vs, rank (height m) ≤ rank (height v)

theorem picks_of_iff {before : Float → Float → Prop} [DecidableRel before]
    (h : ∀ {v w : Float}, v.isNaN = false → w.isNaN = false →
      (before w v ↔ rank (height w) < rank (height v))) :
    Picks rank fun v w => if before w v then w else v where
  choice v w := by
    by_cases hbefore : before w v
    · exact .inr (if_pos hbefore)
    · exact .inl (if_neg hbefore)
  le_left := by
    intro v w hv hw
    by_cases hbefore : before w v
    · rw [if_pos hbefore]
      exact ((h hv hw).mp hbefore).le
    · rw [if_neg hbefore]
  le_right := by
    intro v w hv hw
    by_cases hbefore : before w v
    · rw [if_pos hbefore]
    · rw [if_neg hbefore]
      exact not_lt.mp fun hless => hbefore ((h hv hw).mpr hless)

theorem picks_smaller : Picks id smaller := picks_of_iff fun hv hw => lt_iff_height hw hv

theorem picks_larger : Picks OrderDual.toDual larger := picks_of_iff fun hv hw => lt_iff_height hv hw

/-- A first signal stays first when one signal was picked of two. -/
theorem IsFirst.of_picked (hf : Picks rank f) {v w m : Float} {vs : List Float} (hv : v.isNaN = false)
    (hw : w.isNaN = false) (h : IsFirst rank (f v w :: vs) m) : IsFirst rank (v :: w :: vs) m := by
  have hpicked := h.le (f v w) List.mem_cons_self
  constructor
  · rcases List.mem_cons.mp h.mem with rfl | hmem
    · rcases hf.choice v w with heq | heq
      · exact List.mem_cons.mpr (.inl heq)
      · exact List.mem_cons_of_mem v (List.mem_cons.mpr (.inl heq))
    · exact List.mem_cons_of_mem v (List.mem_cons_of_mem w hmem)
  · intro x hx
    rcases List.mem_cons.mp hx with rfl | hx
    · exact hpicked.trans (hf.le_left hv hw)
    · rcases List.mem_cons.mp hx with rfl | hx
      · exact hpicked.trans (hf.le_right hv hw)
      · exact h.le x (List.mem_cons_of_mem _ hx)

theorem isFirst_foldl (hf : Picks rank f) {v : Float} {vs : List Float} (hv : v.isNaN = false)
    (hvs : ∀ w ∈ vs, w.isNaN = false) : IsFirst rank (v :: vs) (vs.foldl f v) := by
  induction vs generalizing v with
  | nil =>
    refine ⟨List.mem_singleton_self v, ?_⟩
    intro w hw
    rw [List.mem_singleton.mp hw]
    exact le_rfl
  | cons w vs ih =>
    obtain ⟨hw, hrest⟩ := List.forall_mem_cons.mp hvs
    have hpresent : (f v w).isNaN = false := by
      rcases hf.choice v w with heq | heq
      · rwa [heq]
      · rwa [heq]
    exact (ih hpresent hrest).of_picked hf hv hw

/-- What is left of present signals comes first among them. -/
theorem isFirst_reduce (hf : Picks rank f) {vs : List Float} (hne : vs ≠ [])
    (h : ∀ v ∈ vs, v.isNaN = false) : IsFirst rank vs (reduce f vs) := by
  cases vs with
  | nil => exact absurd rfl hne
  | cons v vs =>
    have hmissing : ¬ anyMissing (v :: vs) = true := by
      intro hany
      obtain ⟨w, hw, hnan⟩ := List.any_eq_true.mp hany
      rw [h w hw] at hnan
      cases hnan
    rw [reduce, if_neg hmissing]
    obtain ⟨hv, hvs⟩ := List.forall_mem_cons.mp h
    exact isFirst_foldl hf hv hvs

theorem IsFirst.beq {vs ws : List Float} {m n : Float} (hm : IsFirst rank vs m) (hn : IsFirst rank ws n)
    (hrank : Function.Injective rank) (h : ∀ v ∈ vs, v.isNaN = false) (hmem : ∀ v, v ∈ ws ↔ v ∈ vs) :
    (n == m) = true := by
  have hn' := (hmem n).mp hn.mem
  rw [beq_iff_height (h n hn') (h m hm.mem)]
  apply hrank
  apply le_antisymm
  · exact hn.le m ((hmem m).mpr hm.mem)
  · exact hm.le n hn'

/-- The first of two firsts comes first in both lists. -/
theorem IsFirst.append {vs ws : List Float} {m n k : Float} (hm : IsFirst rank vs m)
    (hn : IsFirst rank ws n) (hk : IsFirst rank [m, n] k) : IsFirst rank (vs ++ ws) k := by
  constructor
  · rcases List.mem_cons.mp hk.mem with rfl | hmem
    · exact List.mem_append_left ws hm.mem
    · rw [List.mem_singleton.mp hmem]
      exact List.mem_append_right vs hn.mem
  · intro v hv
    rcases List.mem_append.mp hv with hv | hv
    · exact (hk.le m List.mem_cons_self).trans (hm.le v hv)
    · exact (hk.le n (List.mem_cons_of_mem m List.mem_cons_self)).trans (hn.le v hv)

theorem reduce_perm (hf : Picks rank f) (hrank : Function.Injective rank) {vs ws : List Float} (hne : vs ≠ [])
    (h : ∀ v ∈ vs, v.isNaN = false) (hperm : ws.Perm vs) : (reduce f ws == reduce f vs) = true := by
  have hne' : ws ≠ [] := by
    rintro rfl
    exact hne hperm.nil_eq.symm
  have h' : ∀ w ∈ ws, w.isNaN = false := fun w hw => h w (hperm.mem_iff.mp hw)
  exact (isFirst_reduce hf hne h).beq (isFirst_reduce hf hne' h') hrank h fun v => hperm.mem_iff

theorem reduce_append (hf : Picks rank f) (hrank : Function.Injective rank) {vs ws : List Float}
    (hvs : vs ≠ []) (hws : ws ≠ []) (h : ∀ v ∈ vs, v.isNaN = false) (h' : ∀ w ∈ ws, w.isNaN = false) :
    (reduce f (vs ++ ws) == reduce f [reduce f vs, reduce f ws]) = true := by
  have hv := isFirst_reduce hf hvs h
  have hw := isFirst_reduce hf hws h'
  have hboth : ∀ v ∈ [reduce f vs, reduce f ws], v.isNaN = false :=
    List.forall_mem_cons.mpr ⟨h _ hv.mem, List.forall_mem_singleton.mpr (h' _ hw.mem)⟩
  have hall : ∀ v ∈ vs ++ ws, v.isNaN = false := List.forall_mem_append.mpr ⟨h, h'⟩
  have htwo := hv.append hw (isFirst_reduce hf (List.cons_ne_nil _ _) hboth)
  exact htwo.beq (isFirst_reduce hf (List.append_ne_nil_of_left_ne_nil hvs ws) hall) hrank hall fun v => Iff.rfl

end

theorem isNaN_reduce_of_missing (f : Float → Float → Float) {vs : List Float}
    (h : vs = [] ∨ ∃ v ∈ vs, v.isNaN = true) : (reduce f vs).isNaN = true := by
  rcases h with rfl | ⟨v, hv, hnan⟩
  · exact isNaN_missing
  · exact isNaN_reduce (List.any_eq_true.mpr ⟨v, hv, hnan⟩)

/-- The minimum and the maximum of present signals are among them, and no signal of the list is less or
greater; up to the sign of a zero they depend neither on the order of the signals nor on how these are divided into two
lists. Without a signal, or with one that is missing, they are missing. -/
theorem extremes_of_signals :
    (∀ vs : List Float, vs ≠ [] → (∀ v ∈ vs, v.isNaN = false) →
      (minimum vs ∈ vs ∧ ∀ v ∈ vs, minimum vs ≤ v) ∧
      (maximum vs ∈ vs ∧ ∀ v ∈ vs, v ≤ maximum vs) ∧
      (∀ ws, ws.Perm vs → (minimum ws == minimum vs) = true ∧ (maximum ws == maximum vs) = true) ∧
      ∀ ws, ws ≠ [] → (∀ w ∈ ws, w.isNaN = false) →
        (minimum (vs ++ ws) == minimum [minimum vs, minimum ws]) = true ∧
        (maximum (vs ++ ws) == maximum [maximum vs, maximum ws]) = true) ∧
    ∀ vs : List Float, vs = [] ∨ (∃ v ∈ vs, v.isNaN = true) →
      (minimum vs).isNaN = true ∧ (maximum vs).isNaN = true := by
  constructor
  · intro vs hne h
    have hmin : IsFirst id vs (minimum vs) := isFirst_reduce picks_smaller hne h
    have hmax : IsFirst OrderDual.toDual vs (maximum vs) := isFirst_reduce picks_larger hne h
    refine ⟨⟨hmin.mem, ?_⟩, ⟨hmax.mem, ?_⟩, ?_, ?_⟩
    · intro v hv
      exact (le_iff_height (h _ hmin.mem) (h v hv)).mpr (hmin.le v hv)
    · intro v hv
      exact (le_iff_height (h v hv) (h _ hmax.mem)).mpr (hmax.le v hv)
    · intro ws hperm
      exact ⟨reduce_perm picks_smaller Function.injective_id hne h hperm,
        reduce_perm picks_larger OrderDual.toDual.injective hne h hperm⟩
    · intro ws hws h'
      exact ⟨reduce_append picks_smaller Function.injective_id hne hws h h',
        reduce_append picks_larger OrderDual.toDual.injective hne hws h h'⟩
  · intro vs h
    exact ⟨isNaN_reduce_of_missing smaller h, isNaN_reduce_of_missing larger h⟩

/-- Two lists with zeros of both signs, and one in which a signal is missing. -/
theorem extremes_of_signals_zeros :
    let vs : List Float := [2, -0]
    let ws : List Float := [0, -1.5]
    let gap : List Float := [1, missing, 3]
    ((∀ v ∈ vs, v.isNaN = false) ∧ (∀ w ∈ ws, w.isNaN = false) ∧ vs.reverse.Perm vs) ∧
      (minimum vs ∈ vs ∧ (maximum vs.reverse == maximum vs) = true ∧
        (minimum (vs ++ ws) == minimum [minimum vs, minimum ws]) = true) ∧
      (∃ v ∈ gap, v.isNaN = true) ∧ (maximum gap).isNaN = true := by
  intro vs ws gap
  have hvs : ∀ v ∈ vs, v.isNaN = false := by decide +kernel
  have hws : ∀ w ∈ ws, w.isNaN = false := by decide +kernel
  have hreverse : vs.reverse.Perm vs := List.reverse_perm vs
  have hgap : ∃ v ∈ gap, v.isNaN = true := ⟨missing, by simp [gap], isNaN_missing⟩
  obtain ⟨hpresent, hmissing⟩ := extremes_of_signals
  obtain ⟨⟨hmem, -⟩, -, hperm, happend⟩ := hpresent vs (List.cons_ne_nil _ _) hvs
  exact ⟨⟨hvs, hws, hreverse⟩,
    ⟨hmem, (hperm vs.reverse hreverse).2, (happend ws (List.cons_ne_nil _ _) hws).1⟩,
    hgap, (hmissing gap (.inr hgap)).2⟩

end Gauge.Signal
