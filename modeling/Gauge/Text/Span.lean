/-! # Sets of code points

A property of characters is a list of spans in ascending order. A span holds every code point from
its first to its last one; in a stepped span only each `step`-th one counts.
-/
namespace Gauge.Text

def covers (n : Nat) : List (Nat × Nat) → Bool
  | [] => false
  | (first, last) :: rest => if n < first then false else if n ≤ last then true else covers n rest

/-- Code points `first, first + step, …, last`, with a payload that all of them share. -/
structure Stepped (α : Type) where
  first : Nat
  last : Nat
  step : Nat
  payload : α

def lookup {α : Type} (n : Nat) : List (Stepped α) → Option α
  | [] => none
  | s :: rest =>
    if n < s.first then none
    else if n ≤ s.last then (if (n - s.first) % s.step = 0 then some s.payload else none)
    else lookup n rest

theorem covers_of_mem {n : Nat} {spans : List (Nat × Nat)} (h : covers n spans = true) :
    ∃ s ∈ spans, s.1 ≤ n ∧ n ≤ s.2 := by
  induction spans with
  | nil => simp [covers] at h
  | cons s rest ih =>
    obtain ⟨first, last⟩ := s
    simp only [covers] at h
    split at h
    · simp at h
    · split at h
      · exact ⟨_, List.mem_cons_self, by omega, by omega⟩
      · obtain ⟨s, hs, hn⟩ := ih h
        exact ⟨s, List.mem_cons_of_mem _ hs, hn⟩

def members (spans : List (Nat × Nat)) : List Nat :=
  spans.flatMap fun s => List.range' s.1 (s.2 + 1 - s.1)

theorem mem_members_of_covers {n : Nat} {spans : List (Nat × Nat)} (h : covers n spans = true) :
    n ∈ members spans := by
  obtain ⟨s, hs, hfirst, hlast⟩ := covers_of_mem h
  exact List.mem_flatMap.mpr ⟨s, hs, List.mem_range'_1.mpr ⟨hfirst, by omega⟩⟩

theorem lookup_of_mem {α : Type} {n : Nat} {spans : List (Stepped α)} {a : α}
    (h : lookup n spans = some a) :
    ∃ s ∈ spans, s.first ≤ n ∧ n ≤ s.last ∧ (n - s.first) % s.step = 0 ∧ s.payload = a := by
  induction spans with
  | nil => simp [lookup] at h
  | cons s rest ih =>
    simp only [lookup] at h
    split at h
    · simp at h
    · split at h
      · split at h
        · exact ⟨s, List.mem_cons_self, by omega, by omega, by assumption, by simpa using h⟩
        · simp at h
      · obtain ⟨s, hs, hn⟩ := ih h
        exact ⟨s, List.mem_cons_of_mem _ hs, hn⟩

end Gauge.Text
