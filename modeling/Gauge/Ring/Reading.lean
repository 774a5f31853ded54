import Gauge.Ring

/-! # Reading elements out of rings

A ring gives up elements at either end at once, and a drain then reads them one at a time out of the
slots they lie in, each slot being emptied as it is read. Elements that are not read stay behind in
their slots, outside the live region. A walk reads the elements of a ring and removes none.
-/
namespace Gauge

/-- Elements that a ring has given up and that have not been read. The ring is what remains of it;
none of its live slots holds one of these elements. -/
structure Drain (α : Type) where
  ring : Ring α
  position : Nat
  remaining : Nat
  position_lt : position < ring.slots.size
  remaining_le : remaining ≤ ring.slots.size
  filled : ∀ i, i < remaining →
    (ring.slots[Ring.wrap ring.slots.size (position + i)]?.join).isSome
  apart : ∀ i j, i < remaining → j < ring.size →
    Ring.wrap ring.slots.size (position + i) ≠ Ring.wrap ring.slots.size (ring.head + j)

namespace Ring

variable {α : Type}

theorem wrap_wrap_add {capacity base n i : Nat} (h : base + n + i < 2 * capacity) :
    wrap capacity (wrap capacity (base + n) + i) = wrap capacity (base + (n + i)) := by
  unfold wrap; split <;> split <;> (try split) <;> omega

theorem ne_wrap_add {capacity p i : Nat} (hi : i < capacity) (hpos : 0 < i) :
    p ≠ wrap capacity (p + i) := by
  unfold wrap; split <;> omega

theorem slots_dropBack (r : Ring α) (n : Nat) (hn : n ≤ r.size) : (r.dropBack n hn).slots = r.slots := by
  unfold dropBack; split <;> rfl

theorem slots_dropFront (r : Ring α) (n : Nat) (hn : n ≤ r.size) :
    (r.dropFront n hn).slots = r.slots := by
  unfold dropFront; split <;> rfl

theorem head_dropBack (r : Ring α) (n : Nat) (hn : n ≤ r.size) : (r.dropBack n hn).head = r.head := by
  unfold dropBack; split <;> rfl

theorem head_dropFront (r : Ring α) (n : Nat) (hn : n ≤ r.size) :
    (r.dropFront n hn).head = wrap r.slots.size (r.head + n) := by
  unfold dropFront; split
  · rfl
  · have h : n = 0 := by omega
    rw [h, Nat.add_zero, wrap_of_lt r.head_lt]

theorem size_dropBack (r : Ring α) (n : Nat) (hn : n ≤ r.size) :
    (r.dropBack n hn).size = r.size - n := by
  unfold dropBack; split
  · next hpos => exact extent_dropBack r.head_lt r.tail_lt r.head_eq_tail hn hpos
  · omega

theorem size_dropFront (r : Ring α) (n : Nat) (hn : n ≤ r.size) :
    (r.dropFront n hn).size = r.size - n := by
  unfold dropFront; split
  · next hpos => exact extent_dropFront r.head_lt r.tail_lt r.head_eq_tail hn hpos
  · omega

/-- The slot after the newest element, less `n` slots, lies where the newest `n` elements begin. -/
theorem wrap_back (r : Ring α) {n i : Nat} (hn : n ≤ r.size) (hi : i < n) :
    wrap r.slots.size (wrap r.slots.size (r.tail + r.slots.size - n) + i) =
      wrap r.slots.size (r.head + (r.size - n + i)) := by
  have hh := r.head_lt
  have ht := r.tail_lt
  have hs := r.size_le
  have hw : wrap r.slots.size (r.head + r.size) = r.tail := wrap_extent hh ht r.head_eq_tail
  unfold wrap at *; split at hw <;> split <;> split <;> (try split) <;> omega

/-- Give up the newest `n` elements, or all when there are fewer; they are read oldest first. -/
def drainBack (r : Ring α) (n : Nat) : Drain α where
  ring := r.dropBack (min n r.size) (Nat.min_le_right ..)
  position := wrap r.slots.size (r.tail + r.slots.size - min n r.size)
  remaining := min n r.size
  position_lt := by
    rw [slots_dropBack]
    exact wrap_lt (by have := r.tail_lt; omega)
  remaining_le := by
    rw [slots_dropBack]
    exact Nat.le_trans (Nat.min_le_right ..) r.size_le
  filled := by
    intro i hi
    rw [slots_dropBack, r.wrap_back (Nat.min_le_right ..) hi]
    exact r.live _ (by unfold size at *; omega)
  apart := by
    intro i j hi hj he
    rw [size_dropBack] at hj
    rw [slots_dropBack, head_dropBack, r.wrap_back (Nat.min_le_right ..) hi] at he
    have hs := r.size_le
    have := wrap_add_inj (by omega) (by omega) he
    omega

def drainFront (r : Ring α) (n : Nat) : Drain α where
  ring := r.dropFront (min n r.size) (Nat.min_le_right ..)
  position := r.head
  remaining := min n r.size
  position_lt := by
    rw [slots_dropFront]
    exact r.head_lt
  remaining_le := by
    rw [slots_dropFront]
    exact Nat.le_trans (Nat.min_le_right ..) r.size_le
  filled := by
    intro i hi
    rw [slots_dropFront]
    exact r.live i (by unfold size at hi; omega)
  apart := by
    intro i j hi hj he
    rw [size_dropFront] at hj
    have hs := r.size_le
    have hh := r.head_lt
    rw [slots_dropFront, head_dropFront, wrap_wrap_add (by omega)] at he
    have := wrap_add_inj (by omega) (by omega) he
    omega

def vacate (r : Ring α) (p : Nat) (hp : p < r.slots.size)
    (h : ∀ j, j < r.size → p ≠ wrap r.slots.size (r.head + j)) : Ring α :=
  { r with
    slots := r.slots.set p none hp
    capacity_eq := by simpa using r.capacity_eq
    head_lt := by simpa using r.head_lt
    tail_lt := by simpa using r.tail_lt
    live := by
      intro j hj
      simp only [Array.size_set] at hj ⊢
      rw [join_set_ne _ _ (h j hj)]
      exact r.live j hj }

end Ring

namespace Drain

variable {α : Type}

def first (d : Drain α) (h : 0 < d.remaining) : α :=
  (d.ring.slots[Ring.wrap d.ring.slots.size (d.position + 0)]?.join).get (d.filled 0 h)

def emptied (d : Drain α) (h : 0 < d.remaining) : Ring α :=
  d.ring.vacate d.position d.position_lt fun j hj => by
    rw [← Ring.wrap_of_lt d.position_lt, ← Nat.add_zero d.position]
    exact d.apart 0 j h hj

theorem size_slots_emptied (d : Drain α) (h : 0 < d.remaining) :
    (d.emptied h).slots.size = d.ring.slots.size := Array.size_set d.position_lt

theorem size_emptied (d : Drain α) (h : 0 < d.remaining) : (d.emptied h).size = d.ring.size := by
  simp only [Ring.size, emptied, Ring.vacate, Array.size_set]

theorem next_position_lt (d : Drain α) (h : 0 < d.remaining) :
    Ring.wrap d.ring.slots.size (d.position + 1) < (d.emptied h).slots.size := by
  have hlt := d.position_lt
  rw [size_slots_emptied]
  exact Ring.wrap_lt (by omega)

theorem pred_remaining_le (d : Drain α) (h : 0 < d.remaining) :
    d.remaining - 1 ≤ (d.emptied h).slots.size := by
  rw [size_slots_emptied]
  exact Nat.le_trans (Nat.sub_le ..) d.remaining_le

theorem wrap_next (d : Drain α) (h : 0 < d.remaining) {i : Nat} (hi : i < d.remaining - 1) :
    Ring.wrap (d.emptied h).slots.size (Ring.wrap d.ring.slots.size (d.position + 1) + i) =
      Ring.wrap d.ring.slots.size (d.position + (1 + i)) := by
  have hle := d.remaining_le
  have hlt := d.position_lt
  rw [size_slots_emptied, Ring.wrap_wrap_add (by omega)]

/-- The other elements that are to be read keep their slots. -/
theorem slot_emptied (d : Drain α) (h : 0 < d.remaining) {i : Nat} (hi : i < d.remaining - 1) :
    (d.emptied h).slots[Ring.wrap (d.emptied h).slots.size
        (Ring.wrap d.ring.slots.size (d.position + 1) + i)]?.join =
      d.ring.slots[Ring.wrap d.ring.slots.size (d.position + (1 + i))]?.join := by
  have hle := d.remaining_le
  rw [d.wrap_next h hi]
  exact Ring.join_set_ne none d.position_lt (Ring.ne_wrap_add (by omega) (by omega))

theorem filled_emptied (d : Drain α) (h : 0 < d.remaining) (i : Nat) (hi : i < d.remaining - 1) :
    ((d.emptied h).slots[Ring.wrap (d.emptied h).slots.size
      (Ring.wrap d.ring.slots.size (d.position + 1) + i)]?.join).isSome := by
  rw [d.slot_emptied h hi]
  exact d.filled _ (by omega)

theorem apart_emptied (d : Drain α) (h : 0 < d.remaining) (i j : Nat) (hi : i < d.remaining - 1)
    (hj : j < (d.emptied h).size) :
    Ring.wrap (d.emptied h).slots.size (Ring.wrap d.ring.slots.size (d.position + 1) + i) ≠
      Ring.wrap (d.emptied h).slots.size ((d.emptied h).head + j) := by
  rw [size_emptied] at hj
  rw [d.wrap_next h hi, size_slots_emptied]
  exact d.apart (1 + i) j (by omega) hj

def rest (d : Drain α) (h : 0 < d.remaining) : Drain α where
  ring := d.emptied h
  position := Ring.wrap d.ring.slots.size (d.position + 1)
  remaining := d.remaining - 1
  position_lt := d.next_position_lt h
  remaining_le := d.pred_remaining_le h
  filled := d.filled_emptied h
  apart := d.apart_emptied h

def next? (d : Drain α) : Option (α × Drain α) :=
  if h : 0 < d.remaining then some (d.first h, d.rest h) else none

def read (d : Drain α) : Nat → List α × Drain α
  | 0 => ([], d)
  | n + 1 =>
    match d.next? with
    | none => ([], d)
    | some (v, next) =>
      let (vs, last) := next.read n
      (v :: vs, last)

def finish (d : Drain α) : List α × Ring α :=
  let (vs, last) := d.read d.remaining
  (vs, last.ring)

end Drain

structure Walk (α : Type) where
  ring : Ring α
  index : Nat

namespace Walk

variable {α : Type}

def next? (w : Walk α) : Option (α × Walk α) :=
  (w.ring.get? w.index).map fun v => (v, { w with index := w.index + 1 })

def remaining (w : Walk α) : Nat := w.ring.size - w.index

def read (w : Walk α) : Nat → List α × Walk α
  | 0 => ([], w)
  | n + 1 =>
    match w.next? with
    | none => ([], w)
    | some (v, next) =>
      let (vs, last) := next.read n
      (v :: vs, last)

end Walk

namespace Ring

variable {α : Type}

def popBack? (r : Ring α) : Option (α × Ring α) :=
  (r.drainBack 1).next?.map fun p => (p.1, p.2.ring)

def popFront? (r : Ring α) : Option (α × Ring α) :=
  (r.drainFront 1).next?.map fun p => (p.1, p.2.ring)

/-- Remove the newest `n` elements, or all when there are fewer; they come oldest first. -/
def takeBack (r : Ring α) (n : Nat) : List α × Ring α := (r.drainBack n).finish

def takeFront (r : Ring α) (n : Nat) : List α × Ring α := (r.drainFront n).finish

def walk (r : Ring α) : Walk α := ⟨r, 0⟩

def element (r : Ring α) (i : Nat) : Except String α :=
  match r.get? i with
  | some v => .ok v
  | none => .error (r.rangeMessage i)

def modify? (r : Ring α) (i : Nat) (f : α → α) : Option (α × Ring α) :=
  if h : i < r.size then some (r.get i h, r.set i (f (r.get i h)) h) else none

def modifyBack? (r : Ring α) (f : α → α) : Option (α × Ring α) :=
  if r.size = 0 then none else r.modify? (r.size - 1) f

def modifyElement (r : Ring α) (i : Nat) (f : α → α) : Except String (α × Ring α) :=
  match r.modify? i f with
  | some p => .ok p
  | none => .error (r.rangeMessage i)

end Ring
end Gauge
