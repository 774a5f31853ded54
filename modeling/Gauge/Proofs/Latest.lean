import Mathlib.Data.List.Basic
import Mathlib.Data.List.Induction
import Mathlib.Tactic.SplitIfs

/-! # The latest of several entries

A list of entries in the order in which they were made. The value of a key is that of the last entry with
this key. In a list with distinct keys that is the only one, so there the order does not count.
-/
namespace Gauge

variable {κ α : Type} [DecidableEq κ]

def latest? (key : κ) (entries : List (κ × α)) : Option α := entries.reverse.lookup key

theorem latest?_append (key : κ) (older newer : List (κ × α)) :
    latest? key (older ++ newer) = (latest? key newer).or (latest? key older) := by
  rw [latest?, List.reverse_append, List.lookup_append]
  rfl

theorem latest?_singleton_or (key k : κ) (a : α) (older : Option α) :
    (latest? key [(k, a)]).or older = if k = key then some a else older := by
  rw [latest?, List.reverse_singleton, List.lookup_cons, List.lookup_nil, beq_eq_decide]
  split_ifs with h
  · rw [h, decide_eq_true rfl]
    rfl
  · rw [decide_eq_false (Ne.symm h)]
    rfl

theorem latest?_eq_none_iff {key : κ} {entries : List (κ × α)} :
    latest? key entries = none ↔ key ∉ entries.map Prod.fst := by
  rw [latest?, List.lookup_eq_none_iff, List.mem_map]
  constructor
  · rintro h ⟨e, he, rfl⟩
    have hne := h e (List.mem_reverse.mpr he)
    simp at hne
  · intro h e he
    exact bne_iff_ne.mpr fun heq => h ⟨e, List.mem_reverse.mp he, heq.symm⟩

/-- Of entries with one value for each key, the latest with a key has its value. -/
theorem latest?_map_eq_some {key : κ} {keys : List κ} (h : key ∈ keys) (f : κ → α) :
    latest? key (keys.map fun k => (k, f k)) = some (f key) := by
  rw [latest?, ← List.map_reverse, List.lookup_graph f (List.mem_reverse.mpr h)]

theorem latest?_concat (key k : κ) (a : α) (entries : List (κ × α)) :
    latest? key (entries ++ [(k, a)]) = if k = key then some a else latest? key entries := by
  rw [latest?_append, latest?_singleton_or]

theorem latest?_eq_some_iff {key : κ} {a : α} {entries : List (κ × α)}
    (h : (entries.map Prod.fst).Nodup) : latest? key entries = some a ↔ (key, a) ∈ entries := by
  induction entries using List.reverseRecOn with
  | nil => exact iff_of_false nofun List.not_mem_nil
  | append_singleton entries e ih =>
    obtain ⟨k, b⟩ := e
    rw [List.map_append, List.nodup_append] at h
    obtain ⟨hentries, -, hapart⟩ := h
    rw [latest?_concat, List.mem_append, List.mem_singleton]
    split_ifs with hkey
    · subst hkey
      have hnew : (k, a) ∉ entries := by
        intro hmem
        exact hapart k (List.mem_map_of_mem hmem) k List.mem_cons_self rfl
      constructor
      · rintro ⟨⟩
        exact .inr rfl
      · intro hmem
        cases hmem.resolve_left hnew
        rfl
    · rw [ih hentries]
      constructor
      · exact .inl
      · rintro (hmem | heq)
        · exact hmem
        · exact absurd (congrArg Prod.fst heq).symm hkey

end Gauge
