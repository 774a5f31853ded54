/-! # Ring buffers

A growable sequence with two ends in a circular array of slots. The positions `head` and `tail` meet
when the ring is empty and when it is full; the flag `full` tells the two apart. Removed elements may
stay behind in their slots, so a ring is read only through its live region, whose slots are filled.
-/
namespace Gauge

namespace Ring

/-- The slot `i` positions after slot zero, for `i` below twice the capacity. -/
def wrap (capacity i : Nat) : Nat := if i < capacity then i else i - capacity

def extent (capacity head tail : Nat) (full : Bool) : Nat :=
  if full then capacity else if head ≤ tail then tail - head else capacity - head + tail

/-- The least power of two that is at least `n` and at least eight. -/
def capacityFor (n : Nat) : Nat := Nat.pow 2 ((max 7 (n - 1)).log2 + 1)

end Ring

/-- A ring of elements. The capacity is a power of two and at least eight, and each live slot is
filled. -/
structure Ring (α : Type) where
  slots : Array (Option α)
  head : Nat
  tail : Nat
  full : Bool
  capacity_eq : ∃ k, slots.size = Nat.pow 2 (k + 3)
  head_lt : head < slots.size
  tail_lt : tail < slots.size
  head_eq_tail : full = true → head = tail
  live : ∀ i, i < Ring.extent slots.size head tail full →
    (slots[Ring.wrap slots.size (head + i)]?.join).isSome

namespace Ring

variable {α : Type}

theorem wrap_lt {capacity i : Nat} (h : i < 2 * capacity) : wrap capacity i < capacity := by
  unfold wrap; split <;> omega

theorem wrap_of_lt {capacity i : Nat} (h : i < capacity) : wrap capacity i = i := if_pos h

theorem wrap_add_inj {capacity head i j : Nat} (hi : i < capacity) (hj : j < capacity)
    (h : wrap capacity (head + i) = wrap capacity (head + j)) : i = j := by
  unfold wrap at h; split at h <;> split at h <;> omega

theorem extent_le {capacity head tail : Nat} {full : Bool} (ht : tail < capacity) :
    extent capacity head tail full ≤ capacity := by
  unfold extent; split
  · omega
  · split <;> omega

theorem extent_lt {capacity head tail : Nat} (ht : tail < capacity) :
    extent capacity head tail false < capacity := by
  simp only [extent, Bool.false_eq_true, if_false]; split <;> omega

theorem wrap_extent {capacity head tail : Nat} {full : Bool} (hh : head < capacity)
    (ht : tail < capacity) (hm : full = true → head = tail) :
    wrap capacity (head + extent capacity head tail full) = tail := by
  unfold extent wrap
  cases full
  · simp only [Bool.false_eq_true, if_false]; split <;> split <;> omega
  · have := hm rfl; simp only [if_true]; split <;> omega

theorem capacityFor_eq (n : Nat) : ∃ k, capacityFor n = Nat.pow 2 (k + 3) := by
  have h : (2 : Nat) ≤ (max 7 (n - 1)).log2 := (Nat.le_log2 (by omega)).2 (by omega)
  exact ⟨(max 7 (n - 1)).log2 - 2, by unfold capacityFor; congr 1; omega⟩

theorem capacityFor_pos (n : Nat) : 0 < capacityFor n := Nat.two_pow_pos _

def capacity (r : Ring α) : Nat := r.slots.size

def size (r : Ring α) : Nat := extent r.slots.size r.head r.tail r.full

def isEmpty (r : Ring α) : Bool := !r.full && r.head == r.tail

def isFull (r : Ring α) : Bool := r.full

theorem size_le (r : Ring α) : r.size ≤ r.slots.size := extent_le r.tail_lt

theorem size_lt_of_not_full (r : Ring α) (h : r.full = false) : r.size < r.slots.size := by
  unfold size; rw [h]; exact extent_lt r.tail_lt

theorem wrap_lt_slots (r : Ring α) {i : Nat} (h : i ≤ r.slots.size) :
    wrap r.slots.size (r.head + i) < r.slots.size :=
  wrap_lt (by have := r.head_lt; omega)

def withCapacity (n : Nat) : Ring α where
  slots := Array.replicate (capacityFor n) none
  head := 0
  tail := 0
  full := false
  capacity_eq := by simpa using capacityFor_eq n
  head_lt := by simpa using capacityFor_pos n
  tail_lt := by simpa using capacityFor_pos n
  head_eq_tail := by simp
  live := by simp [extent]

def empty : Ring α := withCapacity 0

instance : Inhabited (Ring α) := ⟨empty⟩

def get (r : Ring α) (i : Nat) (h : i < r.size) : α :=
  (r.slots[wrap r.slots.size (r.head + i)]?.join).get (r.live i h)

def get? (r : Ring α) (i : Nat) : Option α := if h : i < r.size then some (r.get i h) else none

def toList (r : Ring α) : List α := List.ofFn fun i : Fin r.size => r.get i i.isLt

@[simp] theorem length_toList (r : Ring α) : r.toList.length = r.size := by simp [toList]

theorem getElem?_toList (r : Ring α) (i : Nat) : r.toList[i]? = r.get? i := by
  unfold toList get?
  split
  · next h => simp [h]
  · next h => simp [h]

def front? (r : Ring α) : Option α := r.get? 0

def back? (r : Ring α) : Option α := if r.size = 0 then none else r.get? (r.size - 1)

theorem join_set_self {s : Array (Option α)} {p : Nat} (v : Option α) (h : p < s.size) :
    ((s.set p v h)[p]?).join = v := by simp

theorem join_set_ne {s : Array (Option α)} {p q : Nat} (v : Option α) (h : p < s.size) (hne : p ≠ q) :
    ((s.set p v h)[q]?).join = (s[q]?).join := by simp [Array.getElem?_set_ne, hne]

/-- Twice as many slots, with the live elements in the first ones. -/
def grow (r : Ring α) : Ring α where
  slots := Array.ofFn fun i : Fin (2 * r.slots.size) => r.get? i
  head := 0
  tail := r.size
  full := false
  capacity_eq := by
    obtain ⟨k, hk⟩ := r.capacity_eq
    exact ⟨k + 1, by simp [hk, Nat.pow_succ]; omega⟩
  head_lt := by have := r.head_lt; simp; omega
  tail_lt := by have := r.head_lt; have := r.size_le; simp; omega
  head_eq_tail := by simp
  live := by
    intro i hi
    have h := r.size_le
    have h0 := r.head_lt
    simp only [extent, Array.size_ofFn, Bool.false_eq_true, if_false, Nat.zero_le, if_true,
      Nat.sub_zero] at hi
    have hw : wrap (2 * r.slots.size) i = i := by unfold wrap; split <;> omega
    have hlt : i < 2 * r.slots.size := by omega
    simp [hw, hlt, get?, hi]

@[simp] theorem size_grow (r : Ring α) : r.grow.size = r.size := by simp [grow, size, extent]

@[simp] theorem full_grow (r : Ring α) : r.grow.full = false := rfl

def reserve (r : Ring α) : Ring α := if r.full then r.grow else r

theorem full_reserve (r : Ring α) : r.reserve.full = false := by
  unfold reserve; split
  · rfl
  · next h => simpa using h

theorem extent_next {capacity head tail : Nat} (hh : head < capacity) (ht : tail < capacity) :
    extent capacity head (wrap capacity (tail + 1)) (wrap capacity (tail + 1) == head) =
      extent capacity head tail false + 1 := by
  unfold extent wrap
  simp only [Bool.false_eq_true, if_false, beq_iff_eq]
  split <;> split <;> (try split) <;> (try split) <;> omega

theorem extent_prev {capacity head tail : Nat} (hh : head < capacity) (ht : tail < capacity) :
    extent capacity (wrap capacity (head + capacity - 1)) tail
        (tail == wrap capacity (head + capacity - 1)) =
      extent capacity head tail false + 1 := by
  unfold extent wrap
  simp only [Bool.false_eq_true, if_false, beq_iff_eq]
  split <;> split <;> (try split) <;> (try split) <;> omega

def putBack (r : Ring α) (h : r.full = false) (v : α) : Ring α where
  slots := r.slots.set r.tail (some v) r.tail_lt
  head := r.head
  tail := wrap r.slots.size (r.tail + 1)
  full := wrap r.slots.size (r.tail + 1) == r.head
  capacity_eq := by simpa using r.capacity_eq
  head_lt := by simpa using r.head_lt
  tail_lt := by simpa using wrap_lt (by have := r.tail_lt; omega)
  head_eq_tail := by simp only [beq_iff_eq]; exact Eq.symm
  live := by
    intro i hi
    simp only [Array.size_set] at hi ⊢
    rw [extent_next r.head_lt r.tail_lt] at hi
    have hlt := r.size_lt_of_not_full h
    have hw := wrap_extent r.head_lt r.tail_lt r.head_eq_tail
    have hsize : extent r.slots.size r.head r.tail false = r.size := by rw [size, h]
    rw [hsize] at hi
    by_cases heq : i = r.size
    · have : wrap r.slots.size (r.head + i) = r.tail := by rw [heq]; exact hw
      rw [this, join_set_self]; rfl
    · have hne : r.tail ≠ wrap r.slots.size (r.head + i) := by
        intro hc
        exact heq (wrap_add_inj (by omega) hlt (hc.symm.trans hw.symm))
      rw [join_set_ne _ _ hne]
      exact r.live i (by unfold size at hi heq; omega)

def pushBack (r : Ring α) (v : α) : Ring α := r.reserve.putBack r.full_reserve v

theorem wrap_prev_add {capacity head i : Nat} (hh : head < capacity) (hi : i < capacity) :
    wrap capacity (wrap capacity (head + capacity - 1) + (i + 1)) = wrap capacity (head + i) := by
  unfold wrap; split <;> split <;> (try split) <;> omega

def putFront (r : Ring α) (h : r.full = false) (v : α) : Ring α where
  slots := r.slots.set (wrap r.slots.size (r.head + r.slots.size - 1)) (some v)
    (wrap_lt (by have := r.head_lt; omega))
  head := wrap r.slots.size (r.head + r.slots.size - 1)
  tail := r.tail
  full := r.tail == wrap r.slots.size (r.head + r.slots.size - 1)
  capacity_eq := by simpa using r.capacity_eq
  head_lt := by simpa using wrap_lt (by have := r.head_lt; omega)
  tail_lt := by simpa using r.tail_lt
  head_eq_tail := by simp only [beq_iff_eq]; exact Eq.symm
  live := by
    intro i hi
    simp only [Array.size_set] at hi ⊢
    rw [extent_prev r.head_lt r.tail_lt] at hi
    have hlt := r.size_lt_of_not_full h
    have hsize : extent r.slots.size r.head r.tail false = r.size := by rw [size, h]
    rw [hsize] at hi
    have hp : wrap r.slots.size (r.head + r.slots.size - 1) < r.slots.size :=
      wrap_lt (by have := r.head_lt; omega)
    cases i with
    | zero =>
      rw [Nat.add_zero, wrap_of_lt hp, join_set_self]; rfl
    | succ i =>
      have hne : wrap r.slots.size (r.head + r.slots.size - 1) ≠
          wrap r.slots.size (wrap r.slots.size (r.head + r.slots.size - 1) + (i + 1)) := by
        intro hc
        have h0 := wrap_of_lt hp
        rw [← Nat.add_zero (wrap r.slots.size (r.head + r.slots.size - 1))] at h0
        have := wrap_add_inj (by omega) (by omega) ((h0.trans (by rw [Nat.add_zero])).trans hc)
        omega
      rw [join_set_ne _ _ hne, wrap_prev_add r.head_lt (by omega)]
      exact r.live i (by unfold size at hi; omega)

def pushFront (r : Ring α) (v : α) : Ring α := r.reserve.putFront r.full_reserve v

theorem extent_dropBack {capacity head tail n : Nat} {full : Bool} (hh : head < capacity)
    (ht : tail < capacity) (hm : full = true → head = tail)
    (hn : n ≤ extent capacity head tail full) (hpos : 0 < n) :
    extent capacity head (wrap capacity (tail + capacity - n)) false =
      extent capacity head tail full - n := by
  unfold extent wrap at *
  cases full
  · simp only [Bool.false_eq_true, if_false] at *; split at hn <;> split <;> split <;> omega
  · have := hm rfl; simp only [Bool.false_eq_true, if_false, if_true] at *
    split <;> split <;> omega

theorem extent_dropFront {capacity head tail n : Nat} {full : Bool} (hh : head < capacity)
    (ht : tail < capacity) (hm : full = true → head = tail)
    (hn : n ≤ extent capacity head tail full) (hpos : 0 < n) :
    extent capacity (wrap capacity (head + n)) tail false = extent capacity head tail full - n := by
  unfold extent wrap at *
  cases full
  · simp only [Bool.false_eq_true, if_false] at *; split at hn <;> split <;> split <;> omega
  · have := hm rfl; simp only [Bool.false_eq_true, if_false, if_true] at *
    split <;> split <;> omega

def dropBack (r : Ring α) (n : Nat) (hn : n ≤ r.size) : Ring α :=
  if hpos : 0 < n then
    { r with
      tail := wrap r.slots.size (r.tail + r.slots.size - n)
      full := false
      tail_lt := wrap_lt (by have := r.tail_lt; omega)
      head_eq_tail := by simp
      live := by
        intro i hi
        rw [extent_dropBack r.head_lt r.tail_lt r.head_eq_tail hn hpos] at hi
        exact r.live i (by unfold size at hn; omega) }
  else r

def dropFront (r : Ring α) (n : Nat) (hn : n ≤ r.size) : Ring α :=
  if hpos : 0 < n then
    { r with
      head := wrap r.slots.size (r.head + n)
      full := false
      head_lt := wrap_lt (by have := r.head_lt; have := r.size_le; omega)
      head_eq_tail := by simp
      live := by
        intro i hi
        rw [extent_dropFront r.head_lt r.tail_lt r.head_eq_tail hn hpos] at hi
        have hw : wrap r.slots.size (wrap r.slots.size (r.head + n) + i) =
            wrap r.slots.size (r.head + (n + i)) := by
          have := r.head_lt; have := r.size_le; unfold size at *
          unfold wrap; split <;> split <;> (try split) <;> omega
        rw [hw]
        exact r.live (n + i) (by unfold size at hn; omega) }
  else r

def set (r : Ring α) (i : Nat) (v : α) (h : i < r.size) : Ring α :=
  { r with
    slots := r.slots.set (wrap r.slots.size (r.head + i)) (some v)
      (r.wrap_lt_slots (by have := r.size_le; omega))
    capacity_eq := by simpa using r.capacity_eq
    head_lt := by simpa using r.head_lt
    tail_lt := by simpa using r.tail_lt
    live := by
      intro j hj
      simp only [Array.size_set] at hj ⊢
      by_cases heq : wrap r.slots.size (r.head + i) = wrap r.slots.size (r.head + j)
      · rw [← heq, join_set_self]; rfl
      · rw [join_set_ne _ _ heq]; exact r.live j hj }

/-- Forget every element and leave the slots as they are. -/
def clear (r : Ring α) : Ring α :=
  { r with
    head := 0
    tail := 0
    full := false
    head_lt := by have := r.head_lt; omega
    tail_lt := by have := r.head_lt; omega
    head_eq_tail := by simp
    live := by simp [extent] }

/-- Forget every element and empty the slots. -/
def release (r : Ring α) : Ring α :=
  { r.clear with
    slots := Array.replicate r.slots.size none
    capacity_eq := by simpa using r.capacity_eq
    head_lt := by rw [Array.size_replicate]; exact Nat.zero_lt_of_lt r.head_lt
    tail_lt := by rw [Array.size_replicate]; exact Nat.zero_lt_of_lt r.head_lt
    live := fun i hi => absurd hi (Nat.not_lt_zero i) }

def append (r : Ring α) (vs : List α) : Ring α := vs.foldl pushBack r

def ofList (expected : Nat) (vs : List α) : Ring α := (withCapacity expected).append vs

def rangeMessage (r : Ring α) (i : Nat) : String :=
  s!"index {i} out of bounds for OrderedBuffer of length {r.size}"

def display [ToString α] (r : Ring α) : String :=
  "[" ++ String.intercalate ", " (r.toList.map toString) ++ "]"

end Ring
end Gauge
