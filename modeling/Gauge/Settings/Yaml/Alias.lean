import Gauge.Settings.Yaml.Node

/-! # Anchors and aliases of YAML documents

An anchor gets a number, which is how many anchors of other names there are before it, and an alias has
the number that its anchor has so far. Of two anchors with one number the later one counts, so that an
alias may stand for a node of another name where an anchor is given again.
-/
namespace Gauge.Yaml
namespace Node

abbrev Anchors := List (String × Nat)

def Anchors.count (as : Anchors) : Nat := (as.map Prod.fst).eraseDups.length

def numberProperties (as : Anchors) (p : Properties String) : Properties Nat × Anchors :=
  match p.anchor with
  | some name => (⟨some as.count, p.tag⟩, (name, as.count) :: as)
  | none => (⟨none, p.tag⟩, as)

mutual

def number? (as : Anchors) : Node String → Option (Node Nat × Anchors)
  | .alias name => (as.lookup name).map fun n => (.alias n, as)
  | .scalar p text isPlain =>
    let (p, as) := numberProperties as p
    some (.scalar p text isPlain, as)
  | .sequence p items => do
    let (p, as) := numberProperties as p
    let (items, as) ← numberItems? as items
    pure (.sequence p items, as)
  | .mapping p entries => do
    let (p, as) := numberProperties as p
    let (entries, as) ← numberEntries? as entries
    pure (.mapping p entries, as)

def numberItems? (as : Anchors) : List (Node String) → Option (List (Node Nat) × Anchors)
  | [] => some ([], as)
  | n :: rest => do
    let (n, as) ← number? as n
    let (rest, as) ← numberItems? as rest
    pure (n :: rest, as)

def numberEntries? (as : Anchors) :
    List (Node String × Node String) → Option (List (Node Nat × Node Nat) × Anchors)
  | [] => some ([], as)
  | (k, v) :: rest => do
    let (k, as) ← number? as k
    let (v, as) ← number? as v
    let (rest, as) ← numberEntries? as rest
    pure ((k, v) :: rest, as)

end

def anchored (p : Properties Nat) (n : Node Nat) : List (Nat × Node Nat) :=
  (p.anchor.map fun a => (a, n)).toList

mutual

def targets : Node Nat → List (Nat × Node Nat)
  | .alias _ => []
  | .scalar p text isPlain => anchored p (.scalar p text isPlain)
  | .sequence p items => anchored p (.sequence p items) ++ itemTargets items
  | .mapping p entries => anchored p (.mapping p entries) ++ entryTargets entries

def itemTargets : List (Node Nat) → List (Nat × Node Nat)
  | [] => []
  | n :: rest => targets n ++ itemTargets rest

def entryTargets : List (Node Nat × Node Nat) → List (Nat × Node Nat)
  | [] => []
  | (k, v) :: rest => targets k ++ targets v ++ entryTargets rest

end

mutual

def size {α : Type} : Node α → Nat
  | .alias _ => 1
  | .scalar _ _ _ => 1
  | .sequence _ items => 2 + itemSize items
  | .mapping _ entries => 2 + entrySize entries

def itemSize {α : Type} : List (Node α) → Nat
  | [] => 0
  | n :: rest => size n + itemSize rest

def entrySize {α : Type} : List (Node α × Node α) → Nat
  | [] => 0
  | (k, v) :: rest => size k + size v + entrySize rest

end

end Node
end Gauge.Yaml
