import Mathlib
import Gauge.Proofs.Latest
import Gauge.Proofs.Source.Naming

/-! # Updates of tables

A table is changed by updates one after the other. It answers to a name with the signal that was written
last under a name of the same folded form, unless this was removed since. A folded name stays as it is when
it is folded again: so the pairs that a table lists make the same table in whatever order they are collected.
-/
namespace Gauge.Table

/-- A change of a table; a collection puts a new table in its place. -/
inductive Update where
  | set (name : String) (v : Float)
  | remove (name : String)
  | extend (pairs : List (String × Float))
  | collect (pairs : List (String × Float))

def update (t : Table) : Update → Table
  | .set name v => (t.replace name v).2
  | .remove name => (t.remove name).2
  | .extend pairs => t.extend pairs
  | .collect pairs => ofList pairs

def ofUpdates (us : List Update) : Table := us.foldl update empty

/-! ### What was written -/

abbrev Write := String × Option Float

def written (pairs : List (String × Float)) : List Write := pairs.map fun p => (p.1, some p.2)

def Update.writes (ws : List Write) : Update → List Write
  | set name v => ws ++ [(name, some v)]
  | remove name => ws ++ [(name, none)]
  | extend pairs => ws ++ written pairs
  | collect pairs => written pairs

/-- All that was written by updates since the last collection, in order. -/
def writes (us : List Update) : List Write := us.foldl Update.writes []

/-- The signal that was written last under a name of the folded form `key`, unless it was removed since. -/
def latestSignal? (key : String) (ws : List Write) : Option Float :=
  (latest? key (ws.map fun w => (fold w.1, w.2))).join

theorem latestSignal?_concat (key name : String) (signal : Option Float) (ws : List Write) :
    latestSignal? key (ws ++ [(name, signal)]) =
      if fold name = key then signal else latestSignal? key ws := by
  rw [latestSignal?, List.map_append, List.map_singleton, latest?_concat, apply_ite Option.join]
  rfl

theorem fold_fold (name : String) : fold (fold name) = fold name := by
  by_cases hupper : name.toList.any Text.isUppercase = true
  · have hlower : fold name = Text.lowercase name := if_pos hupper
    rw [hlower, fold_lowercase]
  · have hsame : fold name = name := if_neg hupper
    rw [hsame, hsame]

/-- Only folded names were written. -/
theorem fold_of_latestSignal? {key : String} {ws : List Write} {v : Float}
    (h : latestSignal? key ws = some v) : fold key = key := by
  have hkey : key ∈ (ws.map fun w => (fold w.1, w.2)).map Prod.fst := by
    by_contra hnone
    rw [latestSignal?, latest?_eq_none_iff.mpr hnone] at h
    cases h
  rw [List.map_map] at hkey
  obtain ⟨w, -, rfl⟩ := List.mem_map.mp hkey
  exact fold_fold w.1

/-! ### One update -/

def Keeps (t : Table) (ws : List Write) : Prop :=
  ∀ key : String, t.entries[key]? = latestSignal? key ws

theorem keeps_empty : Keeps empty [] := fun _ => Std.TreeMap.getElem?_emptyc

theorem Keeps.set {t : Table} {ws : List Write} (h : Keeps t ws) (name : String) (v : Float) :
    Keeps (t.set name v) (ws ++ [(name, some v)]) := by
  intro key
  rw [latestSignal?_concat, ← h key]
  simp only [Table.set, Std.TreeMap.getElem?_insert, Std.compare_eq_iff_eq]

theorem Keeps.erase {t : Table} {ws : List Write} (h : Keeps t ws) (name : String) :
    Keeps (t.erase name) (ws ++ [(name, none)]) := by
  intro key
  rw [latestSignal?_concat, ← h key]
  simp only [Table.erase, Std.TreeMap.getElem?_erase, Std.compare_eq_iff_eq]

theorem Keeps.extend {t : Table} {ws : List Write} (h : Keeps t ws) (pairs : List (String × Float)) :
    Keeps (t.extend pairs) (ws ++ written pairs) := by
  induction pairs generalizing t ws with
  | nil =>
    intro key
    rw [written, List.map_nil, List.append_nil]
    exact h key
  | cons p pairs ih =>
    have hnext := ih (h.set p.1 p.2)
    rw [List.append_assoc, List.singleton_append] at hnext
    exact hnext

theorem keeps_ofList (pairs : List (String × Float)) : Keeps (ofList pairs) (written pairs) :=
  keeps_empty.extend pairs

theorem Keeps.update {t : Table} {ws : List Write} (h : Keeps t ws) (u : Update) :
    Keeps (t.update u) (u.writes ws) := by
  cases u with
  | set name v => exact h.set name v
  | remove name => exact h.erase name
  | extend pairs => exact h.extend pairs
  | collect pairs => exact keeps_ofList pairs

/-! ### Runs of updates -/

theorem keeps_ofUpdates (us : List Update) : Keeps (ofUpdates us) (writes us) := by
  have hrun (t : Table) (ws : List Write) (h : Keeps t ws) :
      Keeps (us.foldl Table.update t) (us.foldl Update.writes ws) := by
    induction us generalizing t ws with
    | nil => exact h
    | cons u us ih => exact ih _ _ (h.update u)
  exact hrun empty [] keeps_empty

def IsFolded (t : Table) : Prop := ∀ key ∈ t.entries, fold key = key

theorem Keeps.isFolded {t : Table} {ws : List Write} (h : Keeps t ws) : IsFolded t := by
  intro key hkey
  obtain ⟨v, hv⟩ := Option.isSome_iff_exists.mp (Std.TreeMap.mem_iff_isSome_getElem?.mp hkey)
  exact fold_of_latestSignal? ((h key).symm.trans hv)

/-- The size of a table counts the folded names that have a signal. -/
theorem IsFolded.encard_present {t : Table} (h : IsFolded t) :
    {key | ∃ name, fold name = key ∧ (t.get? name).isSome = true}.encard = t.size := by
  have hkeys : {key | ∃ name, fold name = key ∧ (t.get? name).isSome = true} = t.entries.keys.toFinset := by
    ext key
    simp only [List.coe_toFinset, Set.mem_ofPred, Std.TreeMap.mem_keys, Std.TreeMap.mem_iff_isSome_getElem?]
    constructor
    · rintro ⟨name, rfl, hname⟩
      exact hname
    · intro hkey
      refine ⟨key, h key (Std.TreeMap.mem_iff_isSome_getElem?.mpr hkey), ?_⟩
      rwa [get?, h key (Std.TreeMap.mem_iff_isSome_getElem?.mpr hkey)]
  rw [hkeys, Set.encard_coe_eq_coe_finsetCard, List.toFinset_card_of_nodup Std.TreeMap.nodup_keys,
    Std.TreeMap.length_keys]
  rfl

/-- The table of pairs with distinct folded names has these pairs. -/
theorem get?_ofList_eq_some_iff {pairs : List (String × Float)} (hfold : ∀ p ∈ pairs, fold p.1 = p.1)
    (hnodup : (pairs.map Prod.fst).Nodup) {name : String} {v : Float} :
    (ofList pairs).get? name = some v ↔ (fold name, v) ∈ pairs := by
  have hwritten : (written pairs).map (fun w => (fold w.1, w.2)) = written pairs := by
    rw [written, List.map_map]
    apply List.map_congr_left
    intro p hp
    exact Prod.ext (hfold p hp) rfl
  have hnames : ((written pairs).map Prod.fst).Nodup := by
    rw [written, List.map_map]
    exact hnodup
  rw [get?, keeps_ofList, latestSignal?, hwritten, Option.join_eq_some_iff, latest?_eq_some_iff hnames]
  constructor
  · intro h
    obtain ⟨p, hp, heq⟩ := List.mem_map.mp h
    obtain ⟨hname, hsignal⟩ := Prod.mk.inj heq
    rw [← hname, ← Option.some.inj hsignal]
    exact hp
  · intro h
    exact List.mem_map_of_mem h

/-- What a table lists makes the same table again, in whatever order it is collected. -/
theorem IsFolded.get?_ofList {t : Table} (h : IsFolded t) {pairs : List (String × Float)}
    (hpairs : pairs.Perm t.toList) (name : String) : (ofList pairs).get? name = t.get? name := by
  have hmem (key : String) (v : Float) : (key, v) ∈ pairs ↔ t.entries[key]? = some v := by
    rw [hpairs.mem_iff]
    exact Std.TreeMap.mem_toList_iff_getElem?_eq_some
  have hfold : ∀ p ∈ pairs, fold p.1 = p.1 := by
    intro p hp
    apply h
    rw [Std.TreeMap.mem_iff_isSome_getElem?, (hmem p.1 p.2).mp hp]
    rfl
  have hnodup : (pairs.map Prod.fst).Nodup := by
    rw [(hpairs.map Prod.fst).nodup_iff, toList, Std.TreeMap.map_fst_toList_eq_keys]
    exact Std.TreeMap.nodup_keys
  ext v
  rw [get?_ofList_eq_some_iff hfold hnodup, hmem]
  rfl

/-- After every run of updates a table answers to a name with the signal that was written last under a name
of the same folded form, if this was not removed since. Setting and removing hand out what the table answered
before, its size counts the folded names with a signal, and its listing makes a table with the same answers:
for folding a name twice is folding it once. -/
theorem answers_follow_updates (us : List Update) :
    (∀ name, (ofUpdates us).get? name = latestSignal? (fold name) (writes us)) ∧
    (∀ name v, ((ofUpdates us).replace name v).1 = (ofUpdates us).get? name) ∧
    (∀ name, ((ofUpdates us).remove name).1 = (ofUpdates us).get? name) ∧
    {key | ∃ name, fold name = key ∧ ((ofUpdates us).get? name).isSome = true}.encard =
      (ofUpdates us).size ∧
    (∀ pairs, pairs.Perm (ofUpdates us).toList →
      ∀ name, (ofList pairs).get? name = (ofUpdates us).get? name) ∧
    ∀ name, fold (fold name) = fold name := by
  have hkeeps := keeps_ofUpdates us
  refine ⟨?_, ?_, ?_, hkeeps.isFolded.encard_present, ?_, fold_fold⟩
  · intro name
    exact hkeeps (fold name)
  · intro name v
    rfl
  · intro name
    rfl
  · intro pairs hpairs name
    exact hkeeps.isFolded.get?_ofList hpairs name

/-- A name that ends in a sigma, set again in lowercase and listed after one that is removed. -/
theorem answers_follow_updates_sigma :
    let us : List Update := [.collect [("ΣΑΣ", 1), ("Flow", 2)], .extend [("σας", 3), ("X", 4)], .remove "flow"]
    (ofUpdates us).toList.reverse.Perm (ofUpdates us).toList ∧
      (ofList (ofUpdates us).toList.reverse).get? "ΣΑΣ" = some 3 := by
  intro us
  have hperm : (ofUpdates us).toList.reverse.Perm (ofUpdates us).toList := List.reverse_perm _
  obtain ⟨hget, -, -, -, hlisting, -⟩ := answers_follow_updates us
  refine ⟨hperm, ?_⟩
  rw [hlisting _ hperm, hget]
  decide

end Gauge.Table
