import Gauge.Proofs.Ring.Contents

/-! # Rings refine lists

A client uses a ring by operations in any order, and all that it learns is their answers. Each operation
on a ring answers as the same operation on the list of its elements, and the lists agree afterwards. So
from any origin no run of operations tells a ring from a list, whatever lies in the slots.
-/
namespace Gauge.Ring

variable {α : Type}

/-- An operation with its arguments. Where elements are read one at a time, `reads` says how many are
asked for; a change applies a function to an element in place. -/
inductive Op (α : Type) where
  | pushBack (v : α)
  | pushFront (v : α)
  | append (vs : List α)
  | popBack
  | popFront
  | drainBack (n reads : Nat)
  | drainFront (n reads : Nat)
  | modify (i : Nat) (f : α → α)
  | modifyBack (f : α → α)
  | modifyElement (i : Nat) (f : α → α)
  | clear
  | release
  | unload
  | size
  | isEmpty
  | front
  | back
  | get (i : Nat)
  | element (i : Nat)
  | walk (reads : Nat)

/-- What an operation answers. A reading says how many elements there were to read, which were read
and how many are left; a refusal is the message of a panic. -/
inductive Answer (α : Type) where
  | done
  | value (v : Option α)
  | reading (count : Nat) (taken : List α) (left : Nat)
  | values (vs : List α)
  | number (n : Nat)
  | truth (b : Bool)
  | refusal (message : String)

def Answer.ofReading (vs : List α) (reads : Nat) : Answer α :=
  .reading vs.length (vs.take reads) (vs.length - reads)

def outOfRange (i n : Nat) : String := s!"index {i} out of bounds for OrderedBuffer of length {n}"

def answered (r : Ring α) : Option (α × Ring α) → Answer α × Ring α
  | some (v, s) => (.value (some v), s)
  | none => (.value none, r)

def drained (d : Drain α) (reads : Nat) : Answer α × Ring α :=
  (.reading d.remaining (d.read reads).1 (d.read reads).2.remaining, (d.read reads).2.ring)

/-- An operation on a ring. Unloading uses the ring up, so an empty one takes its place. -/
def Op.onRing : Op α → Ring α → Answer α × Ring α
  | .pushBack v, r => (.done, r.pushBack v)
  | .pushFront v, r => (.done, r.pushFront v)
  | .append vs, r => (.done, r.append vs)
  | .popBack, r => answered r r.popBack?
  | .popFront, r => answered r r.popFront?
  | .drainBack n reads, r => drained (r.drainBack n) reads
  | .drainFront n reads, r => drained (r.drainFront n) reads
  | .modify i f, r => answered r (r.modify? i f)
  | .modifyBack f, r => answered r (r.modifyBack? f)
  | .modifyElement i f, r =>
    match r.modifyElement i f with
    | .ok (v, s) => (.value (some v), s)
    | .error message => (.refusal message, r)
  | .clear, r => (.done, r.clear)
  | .release, r => (.done, r.release)
  | .unload, r => (.values (r.takeFront r.size).1, empty)
  | .size, r => (.number r.size, r)
  | .isEmpty, r => (.truth r.isEmpty, r)
  | .front, r => (.value r.front?, r)
  | .back, r => (.value r.back?, r)
  | .get i, r => (.value (r.get? i), r)
  | .element i, r =>
    match r.element i with
    | .ok v => (.value (some v), r)
    | .error message => (.refusal message, r)
  | .walk reads, r =>
    (.reading r.walk.remaining (r.walk.read reads).1 (r.walk.read reads).2.remaining, r)

def Op.onList : Op α → List α → Answer α × List α
  | .pushBack v, vs => (.done, vs ++ [v])
  | .pushFront v, vs => (.done, v :: vs)
  | .append ws, vs => (.done, vs ++ ws)
  | .popBack, vs => (.value vs.getLast?, vs.dropLast)
  | .popFront, vs => (.value vs.head?, vs.tail)
  | .drainBack n reads, vs =>
    (.ofReading (vs.drop (vs.length - n)) reads, vs.take (vs.length - n))
  | .drainFront n reads, vs => (.ofReading (vs.take n) reads, vs.drop n)
  | .modify i f, vs => (.value vs[i]?, vs.modify i f)
  | .modifyBack f, vs => (.value vs.getLast?, vs.modify (vs.length - 1) f)
  | .modifyElement i f, vs =>
    if h : i < vs.length then (.value (some vs[i]), vs.modify i f)
    else (.refusal (outOfRange i vs.length), vs)
  | .clear, _ => (.done, [])
  | .release, _ => (.done, [])
  | .unload, vs => (.values vs, [])
  | .size, vs => (.number vs.length, vs)
  | .isEmpty, vs => (.truth vs.isEmpty, vs)
  | .front, vs => (.value vs.head?, vs)
  | .back, vs => (.value vs.getLast?, vs)
  | .get i, vs => (.value vs[i]?, vs)
  | .element i, vs =>
    if h : i < vs.length then (.value (some vs[i]), vs)
    else (.refusal (outOfRange i vs.length), vs)
  | .walk reads, vs => (.ofReading vs reads, vs)

def runOps {σ : Type} (act : Op α → σ → Answer α × σ) : List (Op α) → σ → List (Answer α) × σ
  | [], s => ([], s)
  | op :: ops, s =>
    let (answer, next) := act op s
    let (answers, last) := runOps act ops next
    (answer :: answers, last)

/-- How a ring comes to be: without elements, with room for some, or from a list of elements of which
`expected` were announced. -/
inductive Origin (α : Type) where
  | empty
  | withCapacity (n : Nat)
  | ofList (expected : Nat) (vs : List α)

def Origin.ring : Origin α → Ring α
  | .empty => Ring.empty
  | .withCapacity n => Ring.withCapacity n
  | .ofList expected vs => Ring.ofList expected vs

def Origin.list : Origin α → List α
  | .empty => []
  | .withCapacity _ => []
  | .ofList _ vs => vs

/-! ### One operation -/

theorem drained_spec (d : Drain α) (reads : Nat) :
    (drained d reads).1 = .ofReading d.toList reads ∧
      (drained d reads).2.toList = d.ring.toList := by
  obtain ⟨h1, -, h3⟩ := d.read_spec reads
  refine ⟨?_, h3⟩
  rw [drained, h1, d.remaining_read, Answer.ofReading, d.length_toList]

theorem answered_popBack (r : Ring α) :
    (answered r r.popBack?).1 = .value r.toList.getLast? ∧
      (answered r r.popBack?).2.toList = r.toList.dropLast := by
  rcases List.eq_nil_or_concat r.toList with h | ⟨vs, v, h⟩
  · simp [answered, popBack?_eq_none r h, h]
  · rw [List.concat_eq_append] at h
    obtain ⟨s, hs, hvs⟩ := popBack?_eq_some r h
    simp [answered, hs, hvs, h]

theorem answered_popFront (r : Ring α) :
    (answered r r.popFront?).1 = .value r.toList.head? ∧
      (answered r r.popFront?).2.toList = r.toList.tail := by
  cases h : r.toList with
  | nil => simp [answered, popFront?_eq_none r h, h]
  | cons v vs =>
    obtain ⟨s, hs, hvs⟩ := popFront?_eq_some r h
    simp [answered, hs, hvs]

theorem answered_modify (r : Ring α) (i : Nat) (f : α → α) :
    (answered r (r.modify? i f)).1 = .value r.toList[i]? ∧
      (answered r (r.modify? i f)).2.toList = r.toList.modify i f := by
  by_cases h : i < r.toList.length
  · obtain ⟨s, hs, hvs⟩ := modify?_eq_some r f h
    rw [List.getElem?_eq_getElem h]
    simp [answered, hs, hvs]
  · have hle := Nat.le_of_not_lt h
    rw [List.getElem?_eq_none hle, List.modify_eq_self hle]
    simp [answered, modify?_eq_none r f hle]

theorem answered_modifyBack (r : Ring α) (f : α → α) :
    (answered r (r.modifyBack? f)).1 = .value r.toList.getLast? ∧
      (answered r (r.modifyBack? f)).2.toList = r.toList.modify (r.toList.length - 1) f := by
  unfold modifyBack?
  split
  · next h =>
    have hn := (toList_eq_nil_iff r).mpr h
    simp [answered, hn]
  · rw [List.getLast?_eq_getElem?, size_eq_length]
    exact answered_modify r _ f

/-- Each operation answers as on the list of elements, and the lists agree afterwards. -/
theorem onRing_eq_onList (op : Op α) (r : Ring α) :
    (op.onRing r).1 = (op.onList r.toList).1 ∧
      (op.onRing r).2.toList = (op.onList r.toList).2 := by
  cases op with
  | pushBack v => exact ⟨rfl, toList_pushBack r v⟩
  | pushFront v => exact ⟨rfl, toList_pushFront r v⟩
  | append vs => exact ⟨rfl, toList_append r vs⟩
  | popBack => exact answered_popBack r
  | popFront => exact answered_popFront r
  | drainBack n reads =>
    obtain ⟨h1, h2⟩ := drained_spec (r.drainBack n) reads
    rw [toList_drainBack, size_eq_length] at h1
    rw [toList_ring_drainBack, size_eq_length] at h2
    exact ⟨h1, h2⟩
  | drainFront n reads =>
    obtain ⟨h1, h2⟩ := drained_spec (r.drainFront n) reads
    rw [toList_drainFront] at h1
    rw [toList_ring_drainFront] at h2
    exact ⟨h1, h2⟩
  | modify i f => exact answered_modify r i f
  | modifyBack f => exact answered_modifyBack r f
  | modifyElement i f =>
    simp only [Op.onRing, Op.onList, modifyElement]
    by_cases h : i < r.toList.length
    · obtain ⟨s, hs, hvs⟩ := modify?_eq_some r f h
      simp only [hs, hvs, dif_pos h, and_self]
    · simp only [modify?_eq_none r f (Nat.le_of_not_lt h), dif_neg h, rangeMessage, outOfRange,
        size_eq_length, and_self]
  | clear => exact ⟨rfl, toList_clear r⟩
  | release => exact ⟨rfl, toList_release r⟩
  | unload =>
    refine ⟨?_, toList_empty⟩
    simp only [Op.onRing, Op.onList, (takeFront_spec r r.size).1]
    rw [size_eq_length, List.take_length]
  | size => exact ⟨by simp only [Op.onRing, Op.onList, size_eq_length], rfl⟩
  | isEmpty => exact ⟨by simp only [Op.onRing, Op.onList, isEmpty_eq], rfl⟩
  | front => exact ⟨by simp only [Op.onRing, Op.onList, front?_eq], rfl⟩
  | back => exact ⟨by simp only [Op.onRing, Op.onList, back?_eq], rfl⟩
  | get i => exact ⟨by simp only [Op.onRing, Op.onList, get?_eq], rfl⟩
  | element i =>
    simp only [Op.onRing, Op.onList, element, get?_eq]
    by_cases h : i < r.toList.length
    · simp only [List.getElem?_eq_getElem h, dif_pos h, and_self]
    · simp only [List.getElem?_eq_none (Nat.le_of_not_lt h), dif_neg h, rangeMessage, outOfRange,
        size_eq_length, and_self]
  | walk reads =>
    obtain ⟨h1, h2⟩ := r.walk.read_spec reads
    refine ⟨?_, rfl⟩
    simp only [Op.onRing, Op.onList, h1, h2, Answer.ofReading]
    simp [walk, Walk.remaining]

/-! ### Runs -/

/-- A run of operations answers as on the list of elements, and the lists agree at its end. -/
theorem runOps_onRing (ops : List (Op α)) (r : Ring α) :
    (runOps Op.onRing ops r).1 = (runOps Op.onList ops r.toList).1 ∧
      (runOps Op.onRing ops r).2.toList = (runOps Op.onList ops r.toList).2 := by
  induction ops generalizing r with
  | nil => exact ⟨rfl, rfl⟩
  | cons op ops ih =>
    obtain ⟨h1, h2⟩ := onRing_eq_onList op r
    obtain ⟨h3, h4⟩ := ih (op.onRing r).2
    rw [h2] at h3 h4
    exact ⟨by simp only [runOps, h1, h3], h4⟩

theorem toList_origin (o : Origin α) : o.ring.toList = o.list := by
  cases o with
  | empty => exact toList_empty
  | withCapacity n => exact toList_withCapacity n
  | ofList expected vs => exact toList_ofList expected vs

/-- From any origin, no run of operations tells a ring from the list of its elements. -/
theorem runOps_ring_eq_list (o : Origin α) (ops : List (Op α)) :
    (runOps Op.onRing ops o.ring).1 = (runOps Op.onList ops o.list).1 ∧
      (runOps Op.onRing ops o.ring).2.toList = (runOps Op.onList ops o.list).2 := by
  rw [← toList_origin o]
  exact runOps_onRing ops o.ring

end Gauge.Ring
