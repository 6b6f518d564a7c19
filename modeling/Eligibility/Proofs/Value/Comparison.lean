import Eligibility.Verdict

namespace Eligibility

namespace Double

theorem compare_swap (a b : Double) : b.compare? a = (a.compare? b).map Ordering.swap := by
  unfold compare?
  cases a.rank with
  | none => cases b.rank <;> rfl
  | some x =>
    cases b.rank with
    | none => rfl
    | some y => exact congrArg some Std.OrientedCmp.eq_swap

theorem equal_compare (a b : Double) : a.equal b = (a.compare? b == some .eq) := by
  unfold equal compare?
  cases a.rank with
  | none => rfl
  | some x =>
    cases b.rank with
    | none => rfl
    | some y =>
      rw [Bool.eq_iff_iff]
      simp

theorem compare_some_iff (a b : Double) : (a.compare? b).isSome = true ↔ a ≠ nan ∧ b ≠ nan := by
  rw [ne_eq,ne_eq,← rank_none_iff,← rank_none_iff,compare?]
  cases a.rank with
  | none => simp
  | some x => cases b.rank <;> simp

end Double

namespace Value

theorem boolean_equal (first second : Bool) :
    (first == second) = (boolean first).toNumber.equal (boolean second).toNumber := by
  cases first <;> cases second <;> decide +kernel

-- Two texts are the only pair that does not come to a comparison of numbers.
inductive Compared : Value → Value → Prop where
  | texts (first second : String) : Compared (string first) (string second)
  | numbers (mixed : ¬∃ first second, left = string first ∧ right = string second)
      (order : left.order? right = left.toNumber.compare? right.toNumber)
      (swapped : right.order? left = right.toNumber.compare? left.toNumber)
      (equal : left.looseEqual right = left.toNumber.equal right.toNumber) : Compared left right

theorem compared (left right : Value) : Compared left right := by
  cases left with
  | string first =>
    cases right with
    | string second => exact .texts first second
    | boolean | number => exact .numbers (by simp) rfl rfl rfl
  | boolean first =>
    cases right with
    | boolean second => exact .numbers (by simp) rfl rfl (boolean_equal first second)
    | string | number => exact .numbers (by simp) rfl rfl rfl
  | number => cases right <;> exact .numbers (by simp) rfl rfl rfl

theorem order_texts (first second : String) : order? (string first) (string second) = some (compare first second) := rfl

theorem order_swap (left right : Value) : right.order? left = (left.order? right).map Ordering.swap := by
  cases compared left right with
  | texts first second =>
    have swapped : compare second first = (compare first second).swap := Std.OrientedCmp.eq_swap
    exact congrArg some swapped
  | numbers _ order swapped =>
    rw [order,swapped]
    exact Double.compare_swap _ _

theorem looseEqual_order (left right : Value) : left.looseEqual right = (left.order? right == some .eq) := by
  cases compared left right with
  | texts first second =>
    rw [Bool.eq_iff_iff]
    simp [looseEqual,order_texts]
  | numbers _ order _ equal =>
    rw [order,equal]
    exact Double.equal_compare _ _

theorem order_some_iff (left right : Value) : (left.order? right).isSome = true ↔
    (∃ first second, left = string first ∧ right = string second) ∨
      left.toNumber ≠ .nan ∧ right.toNumber ≠ .nan := by
  cases compared left right with
  | texts first second => exact ⟨fun _ => .inl ⟨first,second,rfl,rfl⟩,fun _ => rfl⟩
  | numbers mixed order =>
    rw [order,Double.compare_some_iff]
    exact (or_iff_right mixed).symm

end Value

namespace Comparator

def accepts : Comparator → Ordering → Bool
  | greater => Ordering.isGT
  | greaterEqual => Ordering.isGE
  | less => Ordering.isLT
  | lessEqual => Ordering.isLE
  | equal => Ordering.isEq

theorem apply_order (comparator : Comparator) (left right : Value) :
    comparator.apply left right = (left.order? right).any comparator.accepts := by
  have equality := Value.looseEqual_order left right
  cases comparator
  all_goals
    simp only [apply,accepts,equality]
    cases left.order? right with
    | none => rfl
    | some order => cases order <;> rfl

-- One of less, equal and greater holds between two texts and wherever both sides are numbers.
theorem comparators_coherent (left right : Value) :
    greaterEqual.apply left right = (greater.apply left right || equal.apply left right) ∧
    lessEqual.apply left right = (less.apply left right || equal.apply left right) ∧
    greater.apply left right = less.apply right left ∧
    greaterEqual.apply left right = lessEqual.apply right left ∧
    equal.apply left right = equal.apply right left ∧
    [less,equal,greater].countP (·.apply left right) ≤ 1 ∧
    ([less,equal,greater].countP (·.apply left right) = 1 ↔
      (∃ first second, left = .string first ∧ right = .string second) ∨
        left.toNumber ≠ .nan ∧ right.toNumber ≠ .nan) := by
  rw [← Value.order_some_iff]
  simp only [apply_order,Value.order_swap left right]
  cases left.order? right with
  | none => decide
  | some order => cases order <;> decide

-- Texts are compared as such, a text and a number as numbers, and NaN is not even equal to itself.
example : less.apply (.string "10") (.string "9") = true ∧
    less.apply (.string "10") (.number (Double.ofNat 9)) = false ∧
    equal.apply (.number .nan) (.number .nan) = false := by decide +kernel

end Comparator

end Eligibility
