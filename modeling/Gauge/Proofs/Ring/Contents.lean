import Gauge.Ring.Reading

/-! # The elements of a ring after each operation

Every operation of a ring acts on the list of its elements, oldest first, as the same operation of lists.
The slots outside the live region, stale elements included, never enter that list.
-/
namespace Gauge

namespace Ring

variable {α : Type}

theorem get?_eq_slot (r : Ring α) {i : Nat} (hi : i < r.size) :
    r.get? i = r.slots[wrap r.slots.size (r.head + i)]?.join := by
  simp only [get?, dif_pos hi, get, Option.some_get]

theorem slot_eq_getElem? (r : Ring α) {i : Nat} (hi : i < r.size) :
    r.slots[wrap r.slots.size (r.head + i)]?.join = r.toList[i]? := by
  rw [getElem?_toList, get?_eq_slot r hi]

/-- A list is that of the elements when it has their number and agrees with the live slots. -/
theorem toList_eq_of_slots (r : Ring α) {vs : List α} (hlen : vs.length = r.size)
    (h : ∀ i, i < r.size → r.slots[wrap r.slots.size (r.head + i)]?.join = vs[i]?) :
    r.toList = vs := by
  apply List.ext_getElem?
  intro i
  by_cases hi : i < r.size
  · rw [← slot_eq_getElem? r hi, h i hi]
  · rw [List.getElem?_eq_none (by rw [length_toList]; omega),
      List.getElem?_eq_none (by rw [hlen]; omega)]

theorem size_eq_length (r : Ring α) : r.size = r.toList.length := (length_toList r).symm

theorem toList_eq_nil_iff (r : Ring α) : r.toList = [] ↔ r.size = 0 := by
  rw [← List.length_eq_zero_iff, length_toList]

theorem isEmpty_iff (r : Ring α) : r.isEmpty = true ↔ r.size = 0 := by
  have hh := r.head_lt
  have ht := r.tail_lt
  unfold isEmpty size extent
  cases r.full with
  | true =>
    simp only [Bool.not_true, Bool.false_and, Bool.false_eq_true, if_true, false_iff]
    omega
  | false =>
    simp only [Bool.not_false, Bool.true_and, beq_iff_eq, Bool.false_eq_true, if_false]
    split <;> omega

theorem isEmpty_eq (r : Ring α) : r.isEmpty = r.toList.isEmpty := by
  rw [Bool.eq_iff_iff, isEmpty_iff, List.isEmpty_iff, toList_eq_nil_iff]

/-! ### Constructors -/

@[simp] theorem toList_withCapacity (n : Nat) : (withCapacity n : Ring α).toList = [] := by
  simp [toList_eq_nil_iff, size, withCapacity, extent]

@[simp] theorem toList_empty : (empty : Ring α).toList = [] := toList_withCapacity 0

@[simp] theorem toList_clear (r : Ring α) : r.clear.toList = [] := by
  simp [toList_eq_nil_iff, size, clear, extent]

@[simp] theorem toList_release (r : Ring α) : r.release.toList = [] := by
  simp [toList_eq_nil_iff, size, release, clear, extent]

/-! ### Adding elements -/

@[simp] theorem toList_grow (r : Ring α) : r.grow.toList = r.toList := by
  apply toList_eq_of_slots
  · rw [length_toList, size_grow]
  · intro i hi
    rw [size_grow] at hi
    have hs := r.size_le
    have hlt : i < 2 * r.slots.size := by omega
    have hslots : r.grow.slots = Array.ofFn fun i : Fin (2 * r.slots.size) => r.get? i := rfl
    have hhead : r.grow.head = 0 := rfl
    rw [hslots, hhead, Array.size_ofFn, Nat.zero_add, wrap_of_lt hlt, getElem?_toList]
    simp [hlt]

@[simp] theorem toList_reserve (r : Ring α) : r.reserve.toList = r.toList := by
  unfold reserve; split
  · exact toList_grow r
  · rfl

theorem toList_putBack (r : Ring α) (h : r.full = false) (v : α) :
    (r.putBack h v).toList = r.toList ++ [v] := by
  have hlt := r.size_lt_of_not_full h
  have hw : wrap r.slots.size (r.head + r.size) = r.tail :=
    wrap_extent r.head_lt r.tail_lt r.head_eq_tail
  have hsize : (r.putBack h v).size = r.size + 1 := by
    simp only [size, putBack, Array.size_set]
    rw [extent_next r.head_lt r.tail_lt, h]
  apply toList_eq_of_slots
  · simp [hsize]
  · intro i hi
    simp only [putBack, Array.size_set]
    rw [hsize] at hi
    by_cases heq : i = r.size
    · rw [heq, hw, join_set_self, size_eq_length, List.getElem?_concat_length]
    · have hne : r.tail ≠ wrap r.slots.size (r.head + i) := by
        intro hc
        exact heq (wrap_add_inj (by omega) hlt (hc.symm.trans hw.symm))
      rw [join_set_ne _ _ hne, slot_eq_getElem? r (by omega),
        List.getElem?_append_left (by rw [length_toList]; omega)]

@[simp] theorem toList_pushBack (r : Ring α) (v : α) : (r.pushBack v).toList = r.toList ++ [v] := by
  rw [pushBack, toList_putBack, toList_reserve]

theorem toList_putFront (r : Ring α) (h : r.full = false) (v : α) :
    (r.putFront h v).toList = v :: r.toList := by
  have hlt := r.size_lt_of_not_full h
  have hp : wrap r.slots.size (r.head + r.slots.size - 1) < r.slots.size :=
    wrap_lt (by have := r.head_lt; omega)
  have hsize : (r.putFront h v).size = r.size + 1 := by
    simp only [size, putFront, Array.size_set]
    rw [extent_prev r.head_lt r.tail_lt, h]
  apply toList_eq_of_slots
  · simp [hsize]
  · intro i hi
    simp only [putFront, Array.size_set]
    rw [hsize] at hi
    cases i with
    | zero => rw [Nat.add_zero, wrap_of_lt hp, join_set_self, List.getElem?_cons_zero]
    | succ i =>
      have hne : wrap r.slots.size (r.head + r.slots.size - 1) ≠
          wrap r.slots.size (wrap r.slots.size (r.head + r.slots.size - 1) + (i + 1)) := by
        intro hc
        have h0 := wrap_of_lt hp
        rw [← Nat.add_zero (wrap r.slots.size (r.head + r.slots.size - 1))] at h0
        have := wrap_add_inj (by omega) (by omega) ((h0.trans (Nat.add_zero _)).trans hc)
        omega
      rw [join_set_ne _ _ hne, wrap_prev_add r.head_lt (by omega), slot_eq_getElem? r (by omega),
        List.getElem?_cons_succ]

@[simp] theorem toList_pushFront (r : Ring α) (v : α) : (r.pushFront v).toList = v :: r.toList := by
  rw [pushFront, toList_putFront, toList_reserve]

@[simp] theorem toList_append (r : Ring α) (vs : List α) : (r.append vs).toList = r.toList ++ vs := by
  induction vs generalizing r with
  | nil => simp [append]
  | cons v vs ih =>
    have h : r.append (v :: vs) = (r.pushBack v).append vs := rfl
    rw [h, ih, toList_pushBack, List.append_assoc, List.singleton_append]

@[simp] theorem toList_ofList (expected : Nat) (vs : List α) : (ofList expected vs).toList = vs := by
  rw [ofList, toList_append, toList_withCapacity, List.nil_append]

/-! ### Giving up and changing elements -/

@[simp] theorem toList_dropBack (r : Ring α) (n : Nat) (hn : n ≤ r.size) :
    (r.dropBack n hn).toList = r.toList.take (r.size - n) := by
  apply toList_eq_of_slots
  · simp [size_dropBack]
  · intro i hi
    rw [size_dropBack] at hi
    rw [slots_dropBack, head_dropBack, slot_eq_getElem? r (by omega), List.getElem?_take_of_lt hi]

@[simp] theorem toList_dropFront (r : Ring α) (n : Nat) (hn : n ≤ r.size) :
    (r.dropFront n hn).toList = r.toList.drop n := by
  apply toList_eq_of_slots
  · simp [size_dropFront]
  · intro i hi
    rw [size_dropFront] at hi
    have hh := r.head_lt
    have hs := r.size_le
    rw [slots_dropFront, head_dropFront, wrap_wrap_add (by omega), slot_eq_getElem? r (by omega),
      List.getElem?_drop]

@[simp] theorem toList_vacate (r : Ring α) (p : Nat) (hp : p < r.slots.size)
    (h : ∀ j, j < r.size → p ≠ wrap r.slots.size (r.head + j)) :
    (r.vacate p hp h).toList = r.toList := by
  have hsize : (r.vacate p hp h).size = r.size := by simp [size, vacate]
  apply toList_eq_of_slots
  · rw [length_toList, hsize]
  · intro i hi
    rw [hsize] at hi
    simp only [vacate, Array.size_set]
    rw [join_set_ne _ _ (h i hi), slot_eq_getElem? r hi]

@[simp] theorem toList_set (r : Ring α) (i : Nat) (v : α) (h : i < r.size) :
    (r.set i v h).toList = r.toList.set i v := by
  have hs := r.size_le
  have hsize : (r.set i v h).size = r.size := by simp [size, set]
  apply toList_eq_of_slots
  · simp [hsize]
  · intro j hj
    rw [hsize] at hj
    simp only [set, Array.size_set]
    by_cases hij : i = j
    · subst hij
      rw [join_set_self, List.getElem?_set_self (by simpa using h)]
    · have hne : wrap r.slots.size (r.head + i) ≠ wrap r.slots.size (r.head + j) := by
        intro hc
        exact hij (wrap_add_inj (by omega) (by omega) hc)
      rw [join_set_ne _ _ hne, slot_eq_getElem? r hj, List.getElem?_set_ne hij]

/-! ### Looking at elements -/

theorem get_eq_getElem (r : Ring α) (i : Nat) (h : i < r.size) (hi : i < r.toList.length) :
    r.get i h = r.toList[i] := by
  apply Option.some.inj
  rw [← List.getElem?_eq_getElem, getElem?_toList, get?, dif_pos h]

theorem get?_eq (r : Ring α) (i : Nat) : r.get? i = r.toList[i]? := (getElem?_toList r i).symm

theorem front?_eq (r : Ring α) : r.front? = r.toList.head? := by
  rw [front?, get?_eq, List.head?_eq_getElem?]

theorem back?_eq (r : Ring α) : r.back? = r.toList.getLast? := by
  rw [back?, List.getLast?_eq_getElem?, length_toList]
  split
  · next h => rw [(toList_eq_nil_iff r).mpr h, List.getElem?_nil]
  · exact get?_eq r _

end Ring

namespace Drain

variable {α : Type}

def toList (d : Drain α) : List α :=
  List.ofFn fun i : Fin d.remaining =>
    (d.ring.slots[Ring.wrap d.ring.slots.size (d.position + i)]?.join).get (d.filled i i.isLt)

@[simp] theorem length_toList (d : Drain α) : d.toList.length = d.remaining := by simp [toList]

theorem slot_eq_getElem? (d : Drain α) {i : Nat} (hi : i < d.remaining) :
    d.ring.slots[Ring.wrap d.ring.slots.size (d.position + i)]?.join = d.toList[i]? := by
  simp [toList, hi]

theorem next?_eq_none (d : Drain α) (h : d.toList = []) : d.next? = none := by
  have hr : d.remaining = 0 := by rw [← length_toList, h, List.length_nil]
  unfold next?
  rw [dif_neg (by omega)]

theorem first_eq (d : Drain α) (h : 0 < d.remaining) : some (d.first h) = d.toList[0]? := by
  rw [first, Option.some_get, slot_eq_getElem? d h]

theorem toList_rest (d : Drain α) (h : 0 < d.remaining) : (d.rest h).toList = d.toList.drop 1 := by
  apply List.ext_getElem?
  intro i
  have hrem : (d.rest h).remaining = d.remaining - 1 := rfl
  by_cases hi : i < d.remaining - 1
  · have hslot := slot_eq_getElem? (d.rest h) hi
    rw [← hslot, List.getElem?_drop, ← slot_eq_getElem? d (by omega)]
    exact d.slot_emptied h hi
  · rw [List.getElem?_eq_none (by rw [length_toList, hrem]; omega),
      List.getElem?_eq_none (by rw [List.length_drop, length_toList]; omega)]

@[simp] theorem toList_ring_rest (d : Drain α) (h : 0 < d.remaining) :
    (d.rest h).ring.toList = d.ring.toList := by
  simp only [rest, emptied, Ring.toList_vacate]

/-- Reading takes the first unread element and leaves the others, and the ring, as they are. -/
theorem next?_eq_some (d : Drain α) {v : α} {vs : List α} (h : d.toList = v :: vs) :
    ∃ next, d.next? = some (v, next) ∧ next.toList = vs ∧ next.ring.toList = d.ring.toList := by
  have hpos : 0 < d.remaining := by rw [← length_toList, h]; exact Nat.succ_pos _
  have hv : d.first hpos = v := by
    have h0 := first_eq d hpos
    rwa [h, List.getElem?_cons_zero, Option.some_inj] at h0
  refine ⟨d.rest hpos, ?_, ?_, toList_ring_rest d hpos⟩
  · rw [next?, dif_pos hpos, hv]
  · rw [toList_rest, h, List.drop_one, List.tail_cons]

/-- Reading up to `n` elements. -/
theorem read_spec (d : Drain α) (n : Nat) :
    (d.read n).1 = d.toList.take n ∧ (d.read n).2.toList = d.toList.drop n ∧
      (d.read n).2.ring.toList = d.ring.toList := by
  induction n generalizing d with
  | zero => simp [read]
  | succ n ih =>
    cases h : d.toList with
    | nil => simp [read, next?_eq_none d h, h]
    | cons v vs =>
      obtain ⟨next, hn, hvs, hring⟩ := next?_eq_some d h
      obtain ⟨h1, h2, h3⟩ := ih next
      simp [read, hn, h1, h2, h3, hvs, hring]

theorem remaining_read (d : Drain α) (n : Nat) :
    (d.read n).2.remaining = d.toList.length - n := by
  rw [← length_toList, (read_spec d n).2.1, List.length_drop]

theorem finish_spec (d : Drain α) : d.finish.1 = d.toList ∧ d.finish.2.toList = d.ring.toList := by
  obtain ⟨h1, -, h3⟩ := read_spec d d.remaining
  exact ⟨by rw [finish, h1, List.take_of_length_le (by simp)], h3⟩

end Drain

namespace Ring

variable {α : Type}

/-! ### Removing elements -/

@[simp] theorem toList_drainBack (r : Ring α) (n : Nat) :
    (r.drainBack n).toList = r.toList.drop (r.size - n) := by
  apply List.ext_getElem?
  intro i
  have hrem : (r.drainBack n).remaining = min n r.size := rfl
  by_cases hi : i < min n r.size
  · have hs := r.size_le
    rw [← Drain.slot_eq_getElem? _ (by rwa [hrem]), List.getElem?_drop]
    simp only [drainBack, slots_dropBack]
    rw [r.wrap_back (Nat.min_le_right ..) hi, slot_eq_getElem? r (by omega)]
    congr 1; omega
  · rw [List.getElem?_eq_none (by rw [Drain.length_toList, hrem]; omega),
      List.getElem?_eq_none (by rw [List.length_drop, length_toList]; omega)]

@[simp] theorem toList_drainFront (r : Ring α) (n : Nat) :
    (r.drainFront n).toList = r.toList.take n := by
  apply List.ext_getElem?
  intro i
  have hrem : (r.drainFront n).remaining = min n r.size := rfl
  by_cases hi : i < min n r.size
  · rw [← Drain.slot_eq_getElem? _ (by rwa [hrem]), List.getElem?_take_of_lt (by omega)]
    simp only [drainFront, slots_dropFront]
    exact slot_eq_getElem? r (by omega)
  · rw [List.getElem?_eq_none (by rw [Drain.length_toList, hrem]; omega),
      List.getElem?_eq_none (by rw [List.length_take, length_toList]; omega)]

@[simp] theorem toList_ring_drainBack (r : Ring α) (n : Nat) :
    (r.drainBack n).ring.toList = r.toList.take (r.size - n) := by
  simp only [drainBack, toList_dropBack]
  congr 1; omega

@[simp] theorem toList_ring_drainFront (r : Ring α) (n : Nat) :
    (r.drainFront n).ring.toList = r.toList.drop n := by
  simp only [drainFront, toList_dropFront]
  by_cases h : n ≤ r.size
  · rw [Nat.min_eq_left h]
  · rw [Nat.min_eq_right (by omega), List.drop_of_length_le (by simp),
      List.drop_of_length_le (by simp; omega)]

theorem popBack?_eq_none (r : Ring α) (h : r.toList = []) : r.popBack? = none := by
  rw [popBack?, Drain.next?_eq_none _ (by rw [toList_drainBack, h, List.drop_nil]), Option.map_none]

theorem popBack?_eq_some (r : Ring α) {v : α} {vs : List α} (h : r.toList = vs ++ [v]) :
    ∃ s, r.popBack? = some (v, s) ∧ s.toList = vs := by
  have hs : r.size - 1 = vs.length := by rw [size_eq_length, h]; simp
  have hlast : (r.drainBack 1).toList = [v] := by rw [toList_drainBack, hs, h, List.drop_left]
  obtain ⟨d, hd, -, hring⟩ := (r.drainBack 1).next?_eq_some hlast
  refine ⟨d.ring, by rw [popBack?, hd, Option.map_some], ?_⟩
  rw [hring, toList_ring_drainBack, hs, h, List.take_left]

theorem popFront?_eq_none (r : Ring α) (h : r.toList = []) : r.popFront? = none := by
  rw [popFront?, Drain.next?_eq_none _ (by rw [toList_drainFront, h, List.take_nil]), Option.map_none]

theorem popFront?_eq_some (r : Ring α) {v : α} {vs : List α} (h : r.toList = v :: vs) :
    ∃ s, r.popFront? = some (v, s) ∧ s.toList = vs := by
  have hfirst : (r.drainFront 1).toList = [v] := by
    rw [toList_drainFront, h, List.take_succ_cons, List.take_zero]
  obtain ⟨d, hd, -, hring⟩ := (r.drainFront 1).next?_eq_some hfirst
  refine ⟨d.ring, by rw [popFront?, hd, Option.map_some], ?_⟩
  rw [hring, toList_ring_drainFront, h, List.drop_succ_cons, List.drop_zero]

theorem takeBack_spec (r : Ring α) (n : Nat) :
    (r.takeBack n).1 = r.toList.drop (r.size - n) ∧
      (r.takeBack n).2.toList = r.toList.take (r.size - n) := by
  obtain ⟨h1, h2⟩ := (r.drainBack n).finish_spec
  exact ⟨h1.trans (toList_drainBack r n), h2.trans (toList_ring_drainBack r n)⟩

theorem takeFront_spec (r : Ring α) (n : Nat) :
    (r.takeFront n).1 = r.toList.take n ∧ (r.takeFront n).2.toList = r.toList.drop n := by
  obtain ⟨h1, h2⟩ := (r.drainFront n).finish_spec
  exact ⟨h1.trans (toList_drainFront r n), h2.trans (toList_ring_drainFront r n)⟩

/-! ### Changing elements -/

theorem modify?_eq_none (r : Ring α) {i : Nat} (f : α → α) (h : r.toList.length ≤ i) :
    r.modify? i f = none := by
  rw [modify?, dif_neg (by rw [size_eq_length]; omega)]

theorem modify?_eq_some (r : Ring α) {i : Nat} (f : α → α) (h : i < r.toList.length) :
    ∃ s, r.modify? i f = some (r.toList[i], s) ∧ s.toList = r.toList.modify i f := by
  have hi : i < r.size := by rwa [size_eq_length]
  refine ⟨r.set i (f (r.get i hi)) hi, ?_, ?_⟩
  · rw [modify?, dif_pos hi, get_eq_getElem r i hi h]
  · rw [toList_set, get_eq_getElem r i hi h]
    apply List.ext_getElem?
    intro j
    rw [List.getElem?_set, List.getElem?_modify]
    by_cases hij : i = j
    · subst hij
      rw [if_pos rfl, if_pos h, List.getElem?_eq_getElem h]
      simp
    · simp [hij]

end Ring

namespace Walk

variable {α : Type}

theorem read_spec (w : Walk α) (n : Nat) :
    (w.read n).1 = (w.ring.toList.drop w.index).take n ∧
      (w.read n).2.remaining = w.remaining - n := by
  induction n generalizing w with
  | zero => simp [read]
  | succ n ih =>
    cases h : w.ring.toList[w.index]? with
    | none =>
      have hle := List.getElem?_eq_none_iff.mp h
      rw [Ring.length_toList] at hle
      have hn : w.next? = none := by rw [next?, Ring.get?_eq, h, Option.map_none]
      refine ⟨by simp [read, hn, List.drop_of_length_le, hle], ?_⟩
      simp only [read, hn, remaining]
      omega
    | some v =>
      obtain ⟨hlt, hv⟩ := List.getElem?_eq_some_iff.mp h
      have hn : w.next? = some (v, { w with index := w.index + 1 }) := by
        rw [next?, Ring.get?_eq, h, Option.map_some]
      obtain ⟨h1, h2⟩ := ih { w with index := w.index + 1 }
      refine ⟨by simp [read, hn, h1, List.drop_eq_getElem_cons hlt, hv], ?_⟩
      simp only [read, hn, h2]
      simp only [remaining]
      omega

end Walk
end Gauge
