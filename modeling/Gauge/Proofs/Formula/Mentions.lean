import Gauge.Formula
import Gauge.Proofs.Formula.Grammar

/-! # What a formula mentions

The variables and the calls of a formula can be read off its tokens without a tree: a name that an opening
parenthesis follows opens a call, every other name is a variable, and a call is complete where its
parenthesis closes. The postfix listing has them in the same order.
-/
namespace Gauge

def variablesRead : List Token → List String
  | [] => []
  | .identifier name :: ts =>
    if ts.head? = some .openParen then variablesRead ts else name :: variablesRead ts
  | _ :: ts => variablesRead ts

/-- The names of the calls in the order of their closing parentheses. `opened` are the parentheses that are
open, the innermost first, each with the name of its call if it has one. -/
def callsClosed : List (Option String) → List Token → List String
  | _, [] => []
  | opened, .identifier name :: .openParen :: ts => callsClosed (some name :: opened) ts
  | opened, .openParen :: ts => callsClosed (none :: opened) ts
  | some name :: opened, .closeParen :: ts => name :: callsClosed opened ts
  | none :: opened, .closeParen :: ts => callsClosed opened ts
  | opened, _ :: ts => callsClosed opened ts

/-- `read` goes over tokens with the open parentheses in hand, and `pick` tells what it picks out: something of
a name that stands alone, and of a call where its parenthesis closes. -/
structure ReadsOff (read : List (Option String) → List Token → List String)
    (pick : Token → Option String) : Prop where
  number (opened : List (Option String)) (v : Float) (ts : List Token) :
    read opened (.number v :: ts) = read opened ts
  operator (opened : List (Option String)) (op : Operator) (ts : List Token) :
    read opened (.operator op :: ts) = read opened ts
  comma (opened : List (Option String)) (ts : List Token) : read opened (.comma :: ts) = read opened ts
  loneName (opened : List (Option String)) (name : String) (ts : List Token) :
    ts.head? ≠ some .openParen →
      read opened (.identifier name :: ts) = (pick (.identifier name)).toList ++ read opened ts
  openCall (opened : List (Option String)) (name : String) (ts : List Token) :
    read opened (.identifier name :: .openParen :: ts) = read (some name :: opened) ts
  openGroup (opened : List (Option String)) (ts : List Token) :
    read opened (.openParen :: ts) = read (none :: opened) ts
  closeCall (opened : List (Option String)) (name : String) (ts : List Token) :
    read (some name :: opened) (.closeParen :: ts) = (pick (.call name)).toList ++ read opened ts
  closeGroup (opened : List (Option String)) (ts : List Token) :
    read (none :: opened) (.closeParen :: ts) = read opened ts
  pick_number (v : Float) : pick (.number v) = none
  pick_operator (op : Operator) : pick (.operator op) = none
  pick_marker : pick .openParen = none

theorem readsOff_variables : ReadsOff (fun _ => variablesRead) Formula.variableRead? where
  number _ _ _ := rfl
  operator _ _ _ := rfl
  comma _ _ := rfl
  loneName _ _ _ h := if_neg h
  openCall _ _ _ := if_pos rfl
  openGroup _ _ := rfl
  closeCall _ _ _ := rfl
  closeGroup _ _ := rfl
  pick_number _ := rfl
  pick_operator _ := rfl
  pick_marker := rfl

theorem callsClosed_loneName (opened : List (Option String)) (name : String) {ts : List Token}
    (h : ts.head? ≠ some .openParen) :
    callsClosed opened (.identifier name :: ts) = callsClosed opened ts := by
  cases ts with
  | nil => rfl
  | cons t ts =>
    cases t with
    | openParen => exact absurd rfl h
    | _ => rfl

theorem readsOff_calls : ReadsOff callsClosed Formula.functionCalled? where
  number _ _ _ := rfl
  operator _ _ _ := rfl
  comma _ _ := rfl
  loneName opened name _ h := callsClosed_loneName opened name h
  openCall _ _ _ := rfl
  openGroup _ _ := rfl
  closeCall _ _ _ := rfl
  closeGroup _ _ := rfl
  pick_number _ := rfl
  pick_operator _ := rfl
  pick_marker := rfl

namespace ReadsOff

variable {read : List (Option String) → List Token → List String} {pick : Token → Option String}

theorem arguments (hread : ReadsOff read pick) {parts : List (List Token × Expr)}
    (hparts : ∀ p ∈ parts, ∀ (opened : List (Option String)) (rest : List Token),
      rest.head? ≠ some .openParen →
        read opened (p.1 ++ rest) = p.2.instructions.filterMap pick ++ read opened rest)
    (opened : List (Option String)) {rest : List Token} (hrest : rest.head? ≠ some .openParen) :
    read opened ([Token.comma].intercalate (parts.map Prod.fst) ++ rest) =
      (Expr.instructionsOf (parts.map Prod.snd)).filterMap pick ++ read opened rest := by
  induction parts with
  | nil => rfl
  | cons p parts ih =>
    obtain ⟨hp, hparts⟩ := List.forall_mem_cons.mp hparts
    rw [List.map_cons, List.map_cons, Expr.instructionsOf, List.filterMap_append, List.append_assoc]
    -- A comma follows every argument but the last, and what follows the list follows that one.
    by_cases hlast : parts = []
    · subst hlast
      rw [List.map_nil, List.intercalate_singleton, hp opened rest hrest]
      rfl
    · have hmore : parts.map Prod.fst ≠ [] := by simpa using hlast
      rw [List.intercalate_cons_of_ne_nil hmore, List.append_assoc, List.append_assoc,
        List.singleton_append, hp opened _ (by simp), hread.comma, ih hparts]

/-- What a reader picks out of tokens that spell an expression is what the listing of the expression has, in
the same order. No parenthesis follows the tokens, which would make their last name a call. -/
theorem derives (hread : ReadsOff read pick) {n : Nat} {ts : List Token} {e : Expr} (h : Derives n ts e)
    (opened : List (Option String)) {rest : List Token} (hrest : rest.head? ≠ some .openParen) :
    read opened (ts ++ rest) = e.instructions.filterMap pick ++ read opened rest := by
  induction h generalizing opened rest with
  | number v =>
    rw [List.singleton_append, hread.number]
    simp [Expr.instructions, hread.pick_number]
  | identifier name =>
    rw [List.singleton_append, hread.loneName opened name rest hrest]
    cases hpick : pick (.identifier name) <;> simp [Expr.instructions, hpick]
  | call name parts _ ih =>
    rw [List.cons_append, List.cons_append, List.append_assoc, List.singleton_append, hread.openCall,
      hread.arguments ih _ (by simp), hread.closeCall]
    cases hpick : pick (.call name) <;> simp [Expr.instructions, hread.pick_marker, hpick]
  | group _ ih =>
    rw [List.cons_append, List.append_assoc, hread.openGroup, ih _ (by simp)]
    rw [List.singleton_append, hread.closeGroup]
  | unary op _ ih =>
    rw [List.cons_append, hread.operator, ih opened hrest]
    simp [Expr.instructions, hread.pick_operator]
  | binary op _ _ ihl ihr =>
    rw [List.append_assoc, List.cons_append, ihl opened (by simp), hread.operator, ihr opened hrest]
    simp [Expr.instructions, hread.pick_operator]
  | choice _ _ _ ihc iht ihe =>
    rw [List.append_assoc, List.cons_append, List.append_assoc, List.cons_append, ihc opened (by simp),
      hread.operator, iht opened (by simp), hread.operator, ihe opened hrest]
    simp [Expr.instructions, hread.pick_operator]
  | loosen _ _ ih => exact ih opened hrest

end ReadsOff

/-- Tokens that spell an expression mention its variables and calls in the order of its listing. -/
theorem mentions_of_derives {n : Nat} {ts : List Token} {e : Expr} (h : Derives n ts e) :
    variablesRead ts = e.instructions.filterMap Formula.variableRead? ∧
      callsClosed [] ts = e.instructions.filterMap Formula.functionCalled? := by
  have hend : ([] : List Token).head? ≠ some .openParen := by simp
  have hvariables := readsOff_variables.derives h [] hend
  have hcalls := readsOff_calls.derives h [] hend
  rw [List.append_nil] at hvariables hcalls
  constructor
  · simpa [variablesRead] using hvariables
  · simpa [callsClosed] using hcalls

end Gauge
