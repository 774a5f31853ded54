import Gauge.Machine
import Gauge.Proofs.Ring.Contents

/-! # The stacks of a machine

Only the contents of the rings count. On any instructions, faulty ones included, a machine does what the
same machine does on plain lists: it has the same effects, ends in the same answer or fault, and leaves
the same contents. What an earlier run has left is therefore of no account.
-/
namespace Gauge

structure Stacks where
  signals : List Float
  markers : List Nat
  conditions : List Bool

namespace Stacks

variable {m : Type → Type} [Monad m]

def empty : Stacks := ⟨[], [], []⟩

def push (s : Stacks) (v : Float) : Stacks := { s with signals := Signal.settle v :: s.signals }

def call (d : Dialect m) (index : Nat) (name : String) (s : Stacks) : m (Except Fault Unit × Stacks) :=
  match s.markers with
  | [] => pure (.error (.noMarker index), s)
  | height :: markers =>
    if s.signals.length < height then pure (.error (.noSignal index), { s with markers })
    else do
      let count := s.signals.length - height
      let v ← Machine.answer ((d.function? name).map (· (s.signals.take count).reverse))
      pure (.ok (), { s with markers, signals := s.signals.drop count }.push v)

def operate (d : Dialect m) (index : Nat) (op : Operator) (s : Stacks) : m (Except Fault Unit × Stacks) :=
  match op, s.signals with
  | .unary op, v :: signals => do
    let w ← Machine.answer ((d.unary op).map (· v))
    pure (.ok (), { s with signals }.push w)
  | .binary op, right :: left :: signals => do
    let w ← Machine.answer ((d.binary op).map (· left right))
    pure (.ok (), { s with signals }.push w)
  | .choose, middle :: condition :: signals =>
    let holds := Signal.holds condition
    pure (.ok (), { s with
      signals := if holds then middle :: signals else signals
      conditions := holds :: s.conditions })
  | .otherwise, signals =>
    match s.conditions, signals with
    | [], _ => pure (.error (.noCondition index), s)
    | false :: conditions, _ => pure (.ok (), { s with conditions })
    | true :: conditions, [] => pure (.error (.noSignal index), { s with conditions })
    | true :: conditions, _ :: signals => pure (.ok (), { s with conditions, signals })
  | _, _ => pure (.error (.noSignal index), { s with signals := [] })

def step (d : Dialect m) (source : Source m) (index : Nat) (i : Token) (s : Stacks) :
    m (Except Fault Unit × Stacks) :=
  match i with
  | .number v => pure (.ok (), s.push v)
  | .identifier name => do
    let v ← source name
    pure (.ok (), s.push v)
  | .openParen => pure (.ok (), { s with markers := s.signals.length :: s.markers })
  | .call name => s.call d index name
  | .operator op => s.operate d index op
  | .closeParen | .comma => pure (.error (.notAnInstruction i.display index), s)

def run (d : Dialect m) (source : Source m) :
    (index : Nat) → List Token → Stacks → m (Except Fault Unit × Stacks)
  | _, [], s => pure (.ok (), s)
  | index, i :: rest, s => do
    match ← step d source index i s with
    | (.ok _, next) => run d source (index + 1) rest next
    | (.error fault, next) => pure (.error fault, next)

def result (s : Stacks) : Except Fault Float × Stacks :=
  match s.signals with
  | [v] => (.ok (Signal.settle v), { s with signals := [] })
  | signals => (.error (.unbalanced signals.length), s)

def evaluate (d : Dialect m) (source : Source m) (p : List Token) : m (Except Fault Float × Stacks) := do
  match ← run d source 0 p empty with
  | (.ok _, s) => pure s.result
  | (.error fault, s) => pure (.error fault, s)

end Stacks

namespace Ring

variable {α : Type} (r : Ring α)

theorem popBack?_cases :
    (r.toList.reverse = [] ∧ r.popBack? = none) ∨
      ∃ v s, r.toList.reverse = v :: s.toList.reverse ∧ r.popBack? = some (v, s) := by
  rcases List.eq_nil_or_concat r.toList with h | ⟨vs, v, h⟩
  · exact .inl ⟨by rw [h, List.reverse_nil], r.popBack?_eq_none h⟩
  · rw [List.concat_eq_append] at h
    obtain ⟨s, hs, rfl⟩ := r.popBack?_eq_some h
    exact .inr ⟨v, s, by rw [h, List.reverse_concat], hs⟩

theorem toList_of_popBack? {v : α} {s : Ring α} (h : r.popBack? = some (v, s)) :
    r.toList = s.toList ++ [v] := by
  rcases r.popBack?_cases with ⟨-, hnone⟩ | ⟨w, t, hlist, hsome⟩
  · rw [hnone] at h
    cases h
  · rw [hsome] at h
    cases h
    rw [← r.toList.reverse_reverse, hlist, List.reverse_cons, List.reverse_reverse]

theorem takeBack_reverse (n : Nat) :
    (r.takeBack n).1 = (r.toList.reverse.take n).reverse ∧
      (r.takeBack n).2.toList.reverse = r.toList.reverse.drop n := by
  obtain ⟨h1, h2⟩ := r.takeBack_spec n
  rw [h1, h2, size_eq_length, List.take_reverse, List.reverse_reverse, List.drop_reverse]
  exact ⟨rfl, rfl⟩

end Ring

namespace Machine

variable {m : Type → Type} [Monad m]

def view (s : Machine) : Stacks :=
  ⟨s.signals.toList.reverse, s.markers.toList.reverse, s.conditions.toList.reverse⟩

def seen {β : Type} (r : β × Machine) : β × Stacks := (r.1, r.2.view)

@[simp] theorem view_clear (s : Machine) : s.clear.view = .empty := by
  simp [view, clear, Stacks.empty]

@[simp] theorem view_push (s : Machine) (v : Float) : (s.push v).view = s.view.push v := by
  simp [view, push, Stacks.push]

theorem length_view_signals (s : Machine) : s.view.signals.length = s.signals.size := by
  rw [view, List.length_reverse, Ring.size_eq_length]

variable [LawfulMonad m] (d : Dialect m) (source : Source m) (index : Nat)

theorem seen_call (name : String) (s : Machine) :
    seen <$> s.call d index name = s.view.call d index name := by
  rcases s.markers.popBack?_cases with ⟨hm, hp⟩ | ⟨height, markers, hm, hp⟩
  · simp [call, Stacks.call, view, seen, hm, hp]
  · have hlen : s.signals.toList.reverse.length = s.signals.size := s.length_view_signals
    obtain ⟨harg, hrest⟩ := s.signals.takeBack_reverse (s.signals.size - height)
    simp only [call, hp, Stacks.call, view, hm, hlen]
    split
    · simp [seen, view]
    · simp [seen, view, Stacks.push, push, harg, hrest]

theorem seen_unary (op : UnaryOp) (s : Machine) :
    seen <$> s.operate d index (.unary op) = s.view.operate d index (.unary op) := by
  rcases s.signals.popBack?_cases with ⟨hs, hp⟩ | ⟨v, r, hs, hp⟩
  · simp [operate, Stacks.operate, view, seen, hs, hp]
  · simp [operate, Stacks.operate, view, seen, hs, hp, push, Stacks.push]

theorem seen_binary (op : BinaryOp) (s : Machine) :
    seen <$> s.operate d index (.binary op) = s.view.operate d index (.binary op) := by
  rcases s.signals.popBack?_cases with ⟨hs, hp⟩ | ⟨right, r, hs, hp⟩
  · simp [operate, Stacks.operate, view, seen, hs, hp]
  · rcases r.popBack?_cases with ⟨hr, hq⟩ | ⟨left, t, hr, hq⟩
    · simp [operate, Stacks.operate, view, seen, hs, hp, hr, hq]
    · simp [operate, Stacks.operate, view, seen, hs, hp, hr, hq, push, Stacks.push]

theorem seen_choose (s : Machine) :
    seen <$> s.operate d index .choose = s.view.operate d index .choose := by
  rcases s.signals.popBack?_cases with ⟨hs, hp⟩ | ⟨middle, r, hs, hp⟩
  · simp [operate, Stacks.operate, view, seen, hs, hp]
  · rcases r.popBack?_cases with ⟨hr, hq⟩ | ⟨condition, t, hr, hq⟩
    · simp [operate, Stacks.operate, view, seen, hs, hp, hr, hq]
    · cases hc : Signal.holds condition with
      | true => simp [operate, Stacks.operate, view, seen, hs, hp, hr, hq, hc]
      | false => simp [operate, Stacks.operate, view, seen, hs, hp, hr, hq, hc]

theorem seen_otherwise (s : Machine) :
    seen <$> s.operate d index .otherwise = s.view.operate d index .otherwise := by
  rcases s.conditions.popBack?_cases with ⟨hc, hp⟩ | ⟨holds, conditions, hc, hp⟩
  · simp [operate, Stacks.operate, view, seen, hc, hp]
  · cases holds with
    | false => simp [operate, Stacks.operate, view, seen, hc, hp]
    | true =>
      rcases s.signals.popBack?_cases with ⟨hs, hq⟩ | ⟨v, r, hs, hq⟩
      · simp [operate, Stacks.operate, view, seen, hc, hp, hs, hq]
      · simp [operate, Stacks.operate, view, seen, hc, hp, hs, hq]

theorem seen_operate (op : Operator) (s : Machine) :
    seen <$> s.operate d index op = s.view.operate d index op := by
  cases op with
  | unary op => exact seen_unary d index op s
  | binary op => exact seen_binary d index op s
  | choose => exact seen_choose d index s
  | otherwise => exact seen_otherwise d index s

theorem seen_step (i : Token) (s : Machine) :
    seen <$> s.step d source index i = s.view.step d source index i := by
  cases i with
  | number v => simp [step, Stacks.step, seen]
  | identifier name => simp [step, Stacks.step, seen]
  | call name => exact seen_call d index name s
  | operator op => exact seen_operate d index op s
  | openParen => simp [step, Stacks.step, seen, view]
  | closeParen | comma => simp [step, Stacks.step, seen]

theorem seen_run (p : List Token) (s : Machine) :
    seen <$> s.run d source index p = s.view.run d source index p := by
  induction p generalizing index s with
  | nil => simp [run, Stacks.run, seen]
  | cons i p ih =>
    rw [Stacks.run, ← seen_step, bind_map_left, run, map_bind]
    congr 1
    funext r
    obtain ⟨outcome, next⟩ := r
    cases outcome with
    | error fault => simp [seen]
    | ok _ => exact ih (index + 1) next

theorem seen_result (s : Machine) : seen s.result = s.view.result := by
  have hlen : s.signals.toList.reverse.length = s.signals.size := s.length_view_signals
  rcases s.signals.popBack?_cases with ⟨hs, hp⟩ | ⟨v, r, hs, hp⟩
  · rw [hs] at hlen
    simp [result, Stacks.result, seen, view, hs, ← hlen]
  · rw [hs] at hlen
    cases hr : r.toList.reverse with
    | nil =>
      rw [hr] at hlen hs
      simp [result, Stacks.result, seen, view, hs, ← hlen, hp, hr]
    | cons w vs =>
      rw [hr] at hlen hs
      simp [result, Stacks.result, seen, view, hs, ← hlen]

/-- A machine in any state runs a formula as lists do that are empty at first. -/
theorem seen_evaluate (f : Formula) (s : Machine) :
    seen <$> s.evaluate d source f = Stacks.evaluate d source f.instructions := by
  rw [Stacks.evaluate, ← view_clear s, ← seen_run, bind_map_left, evaluate, map_bind]
  congr 1
  funext r
  obtain ⟨outcome, next⟩ := r
  cases outcome with
  | error fault => simp [seen]
  | ok _ => simp [seen, ← seen_result]

theorem fst_evaluate (f : Formula) (s : Machine) :
    Prod.fst <$> s.evaluate d source f = Prod.fst <$> Stacks.evaluate d source f.instructions := by
  rw [← seen_evaluate, Functor.map_map]
  rfl

end Machine
end Gauge
