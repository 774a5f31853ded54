import Mathlib.Algebra.Group.Nat.Defs
import Mathlib.Data.Nat.Log
import Mathlib.Order.Bounds.Basic
import Gauge.Proofs.Ring.Refinement

/-! # The capacity of a ring

The capacity of a ring is a power of two. Only adding an element to a full ring changes it, and doubles it
then, so a ring to which elements are added grows to the least power of two that has room for all of them.
Elements for which room was made do not let it grow.
-/
namespace Gauge

namespace Ring

variable {α : Type}

def powersFrom (n : Nat) : Set Nat := {c | n ≤ c ∧ c.isPowerOfTwo}

theorem exists_isLeast_powersFrom (n : Nat) : ∃ p, IsLeast (powersFrom n) p := by
  refine ⟨2 ^ Nat.clog 2 n, ⟨Nat.le_pow_clog Nat.one_lt_two n, _, rfl⟩, ?_⟩
  rintro c ⟨hle, k, rfl⟩
  exact Nat.pow_le_pow_right Nat.two_pos (Nat.clog_le_of_le_pow hle)

/-- A power of two above another is at least its double. -/
theorem double_le_of_lt {c d : Nat} (hc : c.isPowerOfTwo) (hd : d.isPowerOfTwo) (h : c < d) : 2 * c ≤ d := by
  obtain ⟨i, rfl⟩ := hc
  obtain ⟨j, rfl⟩ := hd
  have hij : i < j := (Nat.pow_lt_pow_iff_right Nat.one_lt_two).mp h
  rw [← Nat.pow_succ']
  exact Nat.pow_le_pow_right Nat.two_pos hij

theorem isLeast_capacityFor (n : Nat) : IsLeast (powersFrom (max n 8)) (capacityFor n) := by
  have hlow : max 7 (n - 1) < 2 ^ ((max 7 (n - 1)).log2 + 1) := Nat.lt_log2_self
  refine ⟨⟨?_, _, rfl⟩, ?_⟩
  · change max n 8 ≤ 2 ^ _
    omega
  · rintro c ⟨hle, k, rfl⟩
    have hlt : (max 7 (n - 1)).log2 < k := (Nat.log2_lt (by omega)).mpr (by omega)
    exact Nat.pow_le_pow_right Nat.two_pos hlt

/-! ### What the operations do to the capacity -/

theorem isPowerOfTwo_capacity (r : Ring α) : r.capacity.isPowerOfTwo := by
  obtain ⟨k, hk⟩ := r.capacity_eq
  exact ⟨k + 3, hk⟩

/-- A remainder by a power of two is what a mask of ones leaves. -/
theorem and_pred_eq_mod {c : Nat} (hc : c.isPowerOfTwo) (i : Nat) : i &&& (c - 1) = i % c := by
  obtain ⟨k, rfl⟩ := hc
  exact Nat.and_two_pow_sub_one_eq_mod i k

theorem wrap_eq_and (r : Ring α) {i : Nat} (h : i < 2 * r.capacity) :
    wrap r.capacity i = i &&& (r.capacity - 1) := by
  rw [and_pred_eq_mod r.isPowerOfTwo_capacity]
  by_cases hlt : i < r.capacity
  · rw [wrap_of_lt hlt, Nat.mod_eq_of_lt hlt]
  · have hle : r.capacity ≤ i := Nat.le_of_not_lt hlt
    have hrest : i - r.capacity < r.capacity := by omega
    rw [wrap, if_neg hlt, Nat.mod_eq_sub_mod hle, Nat.mod_eq_of_lt hrest]

/-- The distance of two positions, also across the end of the slots. -/
theorem sub_add_mod {c n head tail : Nat} (hdvd : c ∣ n) (hn : 0 < n) (hhead : head < c) (htail : tail < c) :
    (n - head + tail) % c = if head ≤ tail then tail - head else c - head + tail := by
  obtain ⟨q, rfl⟩ := hdvd
  cases q with
  | zero => exact absurd hn (Nat.lt_irrefl 0)
  | succ q =>
    rw [Nat.mul_succ]
    split
    · next hle =>
      have hsum : c * q + c - head + tail = tail - head + c * (q + 1) := by
        rw [Nat.mul_succ]
        omega
      rw [hsum, Nat.add_mul_mod_self_left, Nat.mod_eq_of_lt (by omega)]
    · next hlt =>
      have hsum : c * q + c - head + tail = c - head + tail + c * q := by omega
      rw [hsum, Nat.add_mul_mod_self_left, Nat.mod_eq_of_lt (by omega)]

/-- Counted in words that wrap around, the distance from head to tail under the mask is the size of a ring that
is not full. -/
theorem size_eq_and (r : Ring α) (hfull : r.isFull = false) {w : Nat} (hw : r.capacity ≤ 2 ^ w) :
    r.size = ((BitVec.ofNat w r.tail - BitVec.ofNat w r.head) &&& BitVec.ofNat w (r.capacity - 1)).toNat := by
  have hhead : r.head < r.capacity := r.head_lt
  have htail : r.tail < r.capacity := r.tail_lt
  have hmask : r.capacity - 1 < 2 ^ w := by omega
  have hdvd : r.capacity ∣ 2 ^ w := by
    obtain ⟨k, hk⟩ := r.isPowerOfTwo_capacity
    rw [hk] at hw ⊢
    exact Nat.pow_dvd_pow 2 ((Nat.pow_le_pow_iff_right Nat.one_lt_two).mp hw)
  have hsize : r.size = if r.head ≤ r.tail then r.tail - r.head else r.capacity - r.head + r.tail := by
    have hfull' : r.full = false := hfull
    rw [size, hfull']
    rfl
  rw [BitVec.toNat_and, BitVec.toNat_sub, BitVec.toNat_ofNat, BitVec.toNat_ofNat, BitVec.toNat_ofNat,
    Nat.mod_eq_of_lt (htail.trans_le hw), Nat.mod_eq_of_lt (hhead.trans_le hw), Nat.mod_eq_of_lt hmask,
    and_pred_eq_mod r.isPowerOfTwo_capacity, Nat.mod_mod_of_dvd _ hdvd,
    sub_add_mod hdvd (Nat.two_pow_pos w) hhead htail, hsize]

theorem eight_le_capacity (r : Ring α) : 8 ≤ r.capacity := by
  obtain ⟨k, hk⟩ := r.capacity_eq
  rw [capacity, hk]
  exact Nat.pow_le_pow_right Nat.two_pos (Nat.le_add_left 3 k)

theorem isFull_iff (r : Ring α) : r.isFull = true ↔ r.size = r.capacity := by
  constructor
  · intro h
    exact if_pos h
  · intro h
    by_contra hfull
    exact (r.size_lt_of_not_full (Bool.eq_false_iff.mpr hfull)).ne h

@[simp] theorem capacity_withCapacity (n : Nat) : (withCapacity n : Ring α).capacity = capacityFor n := by
  simp [capacity, withCapacity]

@[simp] theorem capacity_release (r : Ring α) : r.release.capacity = r.capacity := by
  simp [capacity, release]

@[simp] theorem capacity_set (r : Ring α) (i : Nat) (v : α) (h : i < r.size) :
    (r.set i v h).capacity = r.capacity := by
  simp [capacity, set]

theorem capacity_drainBack (r : Ring α) (n : Nat) : (r.drainBack n).ring.capacity = r.capacity :=
  congrArg Array.size (r.slots_dropBack _ (Nat.min_le_right ..))

theorem capacity_drainFront (r : Ring α) (n : Nat) : (r.drainFront n).ring.capacity = r.capacity :=
  congrArg Array.size (r.slots_dropFront _ (Nat.min_le_right ..))

def widened (r : Ring α) : Nat := if r.isFull then 2 * r.capacity else r.capacity

theorem capacity_reserve (r : Ring α) : r.reserve.capacity = r.widened := by
  unfold reserve widened isFull
  split
  · simp [capacity, grow]
  · rfl

theorem capacity_pushBack (r : Ring α) (v : α) : (r.pushBack v).capacity = r.widened := by
  rw [← capacity_reserve]
  simp [capacity, pushBack, putBack]

theorem capacity_pushFront (r : Ring α) (v : α) : (r.pushFront v).capacity = r.widened := by
  rw [← capacity_reserve]
  simp [capacity, pushFront, putFront]

theorem size_pushBack (r : Ring α) (v : α) : (r.pushBack v).size = r.size + 1 := by
  rw [size_eq_length, toList_pushBack, List.length_append, ← size_eq_length, List.length_singleton]

theorem size_pushFront (r : Ring α) (v : α) : (r.pushFront v).size = r.size + 1 := by
  rw [size_eq_length, toList_pushFront, List.length_cons, ← size_eq_length]

/-- A ring has no more room than needed, unless it had it before. -/
theorem capacity_append (r : Ring α) (vs : List α) {p : Nat}
    (hp : IsLeast (powersFrom (r.size + vs.length)) p) : (r.append vs).capacity = max r.capacity p := by
  induction vs generalizing r with
  | nil => exact (max_eq_left (hp.2 ⟨r.size_le, r.isPowerOfTwo_capacity⟩)).symm
  | cons v vs ih =>
    have hlength : (r.pushBack v).size + vs.length = r.size + (v :: vs).length := by
      rw [size_pushBack, List.length_cons, Nat.add_assoc, Nat.add_comm 1]
    rw [← hlength] at hp
    have happend : (r.append (v :: vs)).capacity = max r.widened p := by
      rw [← capacity_pushBack r v]
      exact ih (r.pushBack v) hp
    rw [happend, widened]
    split_ifs with hfull
    · -- A full ring has to grow, and nothing between it and its double is a power of two.
      have hroom : r.capacity < p := by
        have hneeded := hp.1.1
        rw [size_pushBack, r.isFull_iff.mp hfull] at hneeded
        omega
      rw [max_eq_right (double_le_of_lt r.isPowerOfTwo_capacity hp.1.2 hroom), max_eq_right hroom.le]
    · rfl

end Ring

namespace Drain

variable {α : Type}

theorem capacity_next? {d e : Drain α} {v : α} (h : d.next? = some (v, e)) : e.ring.capacity = d.ring.capacity := by
  unfold next? at h
  split_ifs at h with hpos
  cases h
  exact d.size_slots_emptied hpos

theorem capacity_read (d : Drain α) (n : Nat) : (d.read n).2.ring.capacity = d.ring.capacity := by
  induction n generalizing d with
  | zero => rfl
  | succ n ih =>
    rw [read]
    cases h : d.next? with
    | none => rfl
    | some r => exact (ih r.2).trans (capacity_next? h)

end Drain

namespace Ring

variable {α : Type}

/-! ### Operations and runs -/

def Op.added : Op α → List α
  | .pushBack v | .pushFront v => [v]
  | .append vs => vs
  | _ => []

theorem capacity_answered {r : Ring α} {x : Option (α × Ring α)}
    (h : ∀ v s, x = some (v, s) → s.capacity = r.capacity) : (answered r x).2.capacity = r.capacity := by
  cases x with
  | none => rfl
  | some p => exact h p.1 p.2 rfl

theorem capacity_drained (d : Drain α) (reads : Nat) : (drained d reads).2.capacity = d.ring.capacity :=
  d.capacity_read reads

theorem capacity_modify? {r s : Ring α} {i : Nat} {f : α → α} {v : α} (h : r.modify? i f = some (v, s)) :
    s.capacity = r.capacity := by
  unfold modify? at h
  split_ifs at h with hi
  cases h
  exact capacity_set ..

theorem capacity_of_map_next? {d : Drain α} {s : Ring α} {v : α}
    (h : (d.next?.map fun p => (p.1, p.2.ring)) = some (v, s)) : s.capacity = d.ring.capacity := by
  obtain ⟨⟨w, e⟩, hnext, hpair⟩ := Option.map_eq_some_iff.mp h
  cases hpair
  exact Drain.capacity_next? hnext

/-- An operation that adds nothing leaves the capacity as it is. Unloading uses the ring up. -/
theorem capacity_onRing_of_added_nil {op : Op α} (hunload : op ≠ .unload) (hadded : op.added = []) (r : Ring α) :
    (op.onRing r).2.capacity = r.capacity := by
  cases op with
  | pushBack v | pushFront v => cases hadded
  | append vs =>
    obtain rfl : vs = [] := hadded
    rfl
  | popBack =>
    refine capacity_answered fun v s h => ?_
    rw [capacity_of_map_next? h, capacity_drainBack]
  | popFront =>
    refine capacity_answered fun v s h => ?_
    rw [capacity_of_map_next? h, capacity_drainFront]
  | drainBack n reads => exact (capacity_drained _ reads).trans (r.capacity_drainBack n)
  | drainFront n reads => exact (capacity_drained _ reads).trans (r.capacity_drainFront n)
  | modify i f => exact capacity_answered fun v s => capacity_modify?
  | modifyBack f =>
    refine capacity_answered fun v s h => ?_
    unfold modifyBack? at h
    split_ifs at h
    exact capacity_modify? h
  | modifyElement i f =>
    simp only [Op.onRing, modifyElement]
    cases h : r.modify? i f with
    | none => rfl
    | some p => exact capacity_modify? h
  | element i =>
    simp only [Op.onRing]
    cases r.element i with
    | error message => rfl
    | ok v => rfl
  | clear | size | isEmpty | front | back | get | walk => rfl
  | release => exact r.capacity_release
  | unload => exact absurd rfl hunload

theorem capacity_onRing_of_added_singleton {op : Op α} {v : α} (hadded : op.added = [v]) (r : Ring α) :
    (op.onRing r).2.capacity = r.widened := by
  cases op with
  | pushBack w => exact r.capacity_pushBack w
  | pushFront w => exact r.capacity_pushFront w
  | append vs =>
    obtain rfl : vs = [v] := hadded
    exact r.capacity_pushBack v
  | _ => cases hadded

theorem size_onRing_of_added_singleton {op : Op α} {v : α} (hadded : op.added = [v]) (r : Ring α) :
    (op.onRing r).2.size = r.size + 1 := by
  cases op with
  | pushBack w => exact r.size_pushBack w
  | pushFront w => exact r.size_pushFront w
  | append vs =>
    obtain rfl : vs = [v] := hadded
    exact r.size_pushBack v
  | _ => cases hadded

/-- What an operation adds finds room in the least capacity that there can be. -/
theorem capacity_onRing {op : Op α} (hunload : op ≠ .unload) (r : Ring α) {p : Nat}
    (hp : IsLeast (powersFrom (r.size + op.added.length)) p) : (op.onRing r).2.capacity = max r.capacity p := by
  cases op with
  | append vs => exact r.capacity_append vs hp
  | pushBack v => exact r.capacity_append [v] hp
  | pushFront v =>
    have hback : (r.pushFront v).capacity = (r.append [v]).capacity :=
      (r.capacity_pushFront v).trans (r.capacity_pushBack v).symm
    exact hback.trans (r.capacity_append [v] hp)
  | _ =>
    have hsize : r.capacity ∈ powersFrom r.size := ⟨r.size_le, r.isPowerOfTwo_capacity⟩
    rw [max_eq_left (hp.2 hsize)]
    exact capacity_onRing_of_added_nil hunload rfl r

theorem capacity_le_runOps {ops : List (Op α)} (hunload : .unload ∉ ops) (r : Ring α) :
    r.capacity ≤ (runOps Op.onRing ops r).2.capacity := by
  induction ops generalizing r with
  | nil => exact le_rfl
  | cons op ops ih =>
    rw [List.mem_cons, not_or] at hunload
    obtain ⟨p, hp⟩ := exists_isLeast_powersFrom (r.size + op.added.length)
    have hstep : r.capacity ≤ (op.onRing r).2.capacity :=
      (le_max_left _ p).trans_eq (capacity_onRing (Ne.symm hunload.1) r hp).symm
    exact hstep.trans (ih hunload.2 _)

/-- Elements for which there is room are added without growth. -/
theorem capacity_runOps_of_room {ops : List (Op α)} (hops : ∀ op ∈ ops, ∃ v, op.added = [v]) (r : Ring α)
    (hroom : r.size + ops.length ≤ r.capacity) : (runOps Op.onRing ops r).2.capacity = r.capacity := by
  induction ops generalizing r with
  | nil => rfl
  | cons op ops ih =>
    obtain ⟨⟨v, hv⟩, hops⟩ := List.forall_mem_cons.mp hops
    rw [List.length_cons] at hroom
    have hnext : (op.onRing r).2.capacity = r.capacity := by
      rw [capacity_onRing_of_added_singleton hv, widened, if_neg]
      rw [isFull_iff]
      omega
    have hmore : (op.onRing r).2.size + ops.length ≤ (op.onRing r).2.capacity := by
      rw [size_onRing_of_added_singleton hv, hnext]
      omega
    exact (ih hops _ hmore).trans hnext

theorem size_withCapacity (n : Nat) : (withCapacity n : Ring α).size = 0 := by
  rw [size_eq_length, toList_withCapacity, List.length_nil]

theorem le_capacityFor (n : Nat) : n ≤ capacityFor n := (le_max_left n 8).trans (isLeast_capacityFor n).1.1

/-- A ring that was made with room for its elements has not grown. -/
theorem capacity_ofList {n : Nat} {vs : List α} (h : vs.length ≤ n) : (ofList n vs).capacity = capacityFor n := by
  obtain ⟨p, hp⟩ := exists_isLeast_powersFrom ((withCapacity n : Ring α).size + vs.length)
  have hroom : capacityFor n ∈ powersFrom ((withCapacity n : Ring α).size + vs.length) := by
    refine ⟨?_, (isLeast_capacityFor n).1.2⟩
    rw [size_withCapacity, Nat.zero_add]
    exact h.trans (le_capacityFor n)
  rw [ofList, capacity_append _ _ hp, capacity_withCapacity, max_eq_left (hp.2 hroom)]

/-- What the capacity of a ring says of the number `n` of its elements. -/
structure Holds (r : Ring α) (n : Nat) : Prop where
  size_eq : r.size = n
  isPowerOfTwo : r.capacity.isPowerOfTwo
  eight_le : 8 ≤ r.capacity
  le_capacity : n ≤ r.capacity
  isFull_iff : r.isFull = true ↔ n = r.capacity
  isEmpty_iff : r.isEmpty = true ↔ n = 0

/-- What operations do to the capacity of a ring, as long as they do not use it up. -/
structure Grows (r : Ring α) : Prop where
  keeps : ∀ op : Op α, op ≠ .unload → op.added = [] → (op.onRing r).2.capacity = r.capacity
  doubles : ∀ (op : Op α) (v : α), op.added = [v] →
    (op.onRing r).2.capacity = if r.isFull then 2 * r.capacity else r.capacity
  fits : ∀ op : Op α, op ≠ .unload → ∃ p, IsLeast (powersFrom (r.size + op.added.length)) p ∧
    (op.onRing r).2.capacity = max r.capacity p
  never_shrinks : ∀ ops : List (Op α), .unload ∉ ops → r.capacity ≤ (runOps Op.onRing ops r).2.capacity

theorem holds_size (r : Ring α) : r.Holds r.size where
  size_eq := rfl
  isPowerOfTwo := r.isPowerOfTwo_capacity
  eight_le := r.eight_le_capacity
  le_capacity := r.size_le
  isFull_iff := r.isFull_iff
  isEmpty_iff := r.isEmpty_iff

theorem grows (r : Ring α) : r.Grows where
  keeps op hunload hadded := capacity_onRing_of_added_nil hunload hadded r
  doubles op v hadded := capacity_onRing_of_added_singleton hadded r
  fits op hunload := by
    obtain ⟨p, hp⟩ := exists_isLeast_powersFrom (r.size + op.added.length)
    exact ⟨p, hp, capacity_onRing hunload r hp⟩
  never_shrinks ops hunload := capacity_le_runOps hunload r

/-- After any run from any origin the capacity is a power of two with room for the elements that a list would
have, and it changes by doubling only, when an element is added to a full ring. A ring that is made with room
for `n` elements has the least such capacity, and keeps it while it is given that many. -/
theorem capacity_runOps (o : Origin α) (ops : List (Op α)) :
    (runOps Op.onRing ops o.ring).2.Holds (runOps Op.onList ops o.list).2.length ∧
    (runOps Op.onRing ops o.ring).2.Grows ∧
    ∀ n, IsLeast (powersFrom (max n 8)) (withCapacity n : Ring α).capacity ∧
      (∀ vs : List α, vs.length ≤ n → (ofList n vs).capacity = (withCapacity n : Ring α).capacity) ∧
      ∀ pushes : List (Op α), (∀ op ∈ pushes, ∃ v, op.added = [v]) → pushes.length ≤ n →
        (runOps Op.onRing pushes (withCapacity n)).2.capacity = (withCapacity n : Ring α).capacity := by
  have hlist := (runOps_onRing ops o.ring).2
  rw [toList_origin] at hlist
  refine ⟨?_, grows _, fun n => ⟨?_, fun vs hvs => ?_, fun pushes hpushes hlength => ?_⟩⟩
  · rw [← hlist, length_toList]
    exact holds_size _
  · rw [capacity_withCapacity]
    exact isLeast_capacityFor n
  · rw [capacity_ofList hvs, capacity_withCapacity]
  · refine capacity_runOps_of_room hpushes _ ?_
    rw [size_withCapacity, capacity_withCapacity, Nat.zero_add]
    exact hlength.trans (le_capacityFor n)

end Ring
end Gauge
