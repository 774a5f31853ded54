import Gauge.Formula
import Gauge.Proofs.Formula.Grammar

/-! # Parts of expressions

A part of an expression is what a path leads to. A path steps through operators and into the arguments of
calls but not into conditionals, so that an expression without conditionals has a path to each of its calls.
-/
namespace Gauge

namespace Expr

inductive Frame where
  | unary (op : UnaryOp)
  | left (op : BinaryOp) (right : Expr)
  | right (op : BinaryOp) (left : Expr)
  | argument (name : String) (before after : List Expr)

def Frame.plug : Frame → Expr → Expr
  | .unary op, e => .unary op e
  | .left op r, e => .binary op e r
  | .right op l, e => .binary op l e
  | .argument name before after, e => .call name (before ++ e :: after)

def plugAll : List Frame → Expr → Expr
  | [], e => e
  | frame :: path, e => frame.plug (plugAll path e)

theorem instructionsOf_eq_flatMap (es : List Expr) :
    instructionsOf es = es.flatMap instructions := by
  induction es with
  | nil => rfl
  | cons e es ih => rw [instructionsOf, ih, List.flatMap_cons]

/-- Where there is no conditional, a path leads to every call. -/
theorem exists_path_of_call {name : String} (e : Expr) (hchoose : .operator .choose ∉ e.instructions)
    (hcall : .call name ∈ e.instructions) : ∃ path es, e = plugAll path (.call name es) := by
  match e with
  | .number v => simp [instructions] at hcall
  | .identifier x => simp [instructions] at hcall
  | .unary op e =>
    have he : .call name ∈ e.instructions := by simpa [instructions] using hcall
    have hc : .operator .choose ∉ e.instructions := fun h => hchoose (List.mem_append_left _ h)
    obtain ⟨path, es, rfl⟩ := exists_path_of_call e hc he
    exact ⟨.unary op :: path, es, rfl⟩
  | .binary op l r =>
    have hlr : .call name ∈ l.instructions ∨ .call name ∈ r.instructions := by
      simpa [instructions] using hcall
    have hcl : .operator .choose ∉ l.instructions := fun h => hchoose (List.mem_append_left _ h)
    have hcr : .operator .choose ∉ r.instructions := fun h =>
      hchoose (List.mem_append_right _ (List.mem_append_left _ h))
    rcases hlr with hl | hr
    · obtain ⟨path, es, rfl⟩ := exists_path_of_call l hcl hl
      exact ⟨.left op r :: path, es, rfl⟩
    · obtain ⟨path, es, rfl⟩ := exists_path_of_call r hcr hr
      exact ⟨.right op l :: path, es, rfl⟩
  | .call key fs =>
    simp only [instructions, instructionsOf_eq_flatMap, List.mem_cons, List.mem_append,
      List.mem_flatMap, List.not_mem_nil, reduceCtorEq, Token.call.injEq, false_or, or_false]
      at hchoose hcall
    -- The call is in an argument, or it is the expression itself.
    rcases hcall with ⟨f, hf, hi⟩ | rfl
    · have hc : .operator .choose ∉ f.instructions := fun h => hchoose ⟨f, hf, h⟩
      obtain ⟨path, es, hpath⟩ := exists_path_of_call f hc hi
      obtain ⟨before, after, rfl⟩ := List.append_of_mem hf
      exact ⟨.argument key before after :: path, es, by rw [plugAll, ← hpath, Frame.plug]⟩
    · exact ⟨[], fs, rfl⟩
  | .choice c t f => simp [instructions] at hchoose

end Expr

/-! ### The functions of a formula -/

namespace Formula

theorem firstUses_eq_eraseDups (names : List String) : firstUses names = names.eraseDups := by
  have hfold (seen : List String) :
      names.foldl (fun seen x => if x ∈ seen then seen else seen ++ [x]) seen =
        seen ++ (names.filter (· ∉ seen)).eraseDups := by
    induction names generalizing seen with
    | nil => simp
    | cons x names ih =>
      rw [List.foldl_cons, ih]
      by_cases hx : x ∈ seen
      · simp [hx]
      · have hfilter : names.filter (· ∉ seen ++ [x]) =
            (names.filter (· ∉ seen)).filter fun y => !y == x := by
          rw [List.filter_filter]
          refine List.filter_congr fun y _ => ?_
          by_cases hy : y = x <;> simp [hy]
        rw [if_neg hx, hfilter, List.filter_cons_of_pos (by simpa using hx), List.eraseDups_cons,
          List.append_assoc, List.singleton_append]
  have hall : names.filter (· ∉ ([] : List String)) = names := by simp
  rw [firstUses, hfold, hall, List.nil_append]

theorem mem_firstUses {name : String} {names : List String} :
    name ∈ firstUses names ↔ name ∈ names := by
  rw [firstUses_eq_eraseDups, List.mem_eraseDups]

theorem mem_functionNames {f : Formula} {name : String} :
    name ∈ f.functionNames ↔ .call name ∈ f.instructions := by
  rw [functionNames, mem_firstUses, List.mem_filterMap]
  constructor
  · rintro ⟨i, hi, hname⟩
    cases i with
    | call x =>
      cases hname
      exact hi
    | _ => cases hname
  · intro h
    exact ⟨.call name, h, rfl⟩

end Formula
end Gauge
