import ArithDrill.Proofs.Agreement

/-!
# Values are not negative

No sign is ever written, a subtraction below zero is refused, and the other operators keep
operands that are not negative on this side of zero.

## Main statements

* `Op.apply_nonneg` — the step: one operator.
* `Expr.eval_nonneg`, `evaluate_nonneg` — the values of trees and of lines.
-/

namespace ArithDrill

/-- A quotient of numbers that are not negative is not negative. -/
theorem div_nonneg {a b : Rat} (ha : 0 ≤ a) (hb : 0 ≤ b) (some_divisor : b ≠ 0) :
    0 ≤ a / b := by
  have pos : 0 < b := Rat.lt_of_le_of_ne hb some_divisor.symm
  refine Rat.not_lt.1 fun negative => ?_
  rw [Rat.div_lt_iff pos, Rat.zero_mul] at negative
  exact Rat.not_lt.2 ha negative

/-- An operator takes operands that are not negative to a value that is not negative. -/
theorem Op.apply_nonneg {o : Op} {a b v : Rat} (ha : 0 ≤ a) (hb : 0 ≤ b)
    (h : o.apply a b = .ok v) : 0 ≤ v := by
  cases o with
  | add =>
    obtain rfl := Except.ok.inj h
    exact Rat.add_nonneg ha hb
  | mul =>
    obtain rfl := Except.ok.inj h
    exact Rat.mul_nonneg ha hb
  | sub =>
    by_cases below : a < b
    · simp [apply, below] at h
    · have difference : a - b = v := by simpa [apply, below] using h
      rw [← difference]
      exact (Rat.le_iff_sub_nonneg b a).1 (Rat.not_lt.1 below)
  | div =>
    by_cases zero : b = 0
    · simp [apply, zero] at h
    · have quotient := div_nonneg ha hb zero
      have not_refused : ¬ ((a / b).isInt ∧ a / b < 0) := fun refused =>
        Rat.not_lt.2 quotient refused.2
      have result : a / b = v := by simpa only [apply, if_neg zero, if_neg not_refused,
        Except.ok.injEq] using h
      rw [← result]
      exact quotient

/-- A tree has a value exactly if its operands have values that the operator takes to one. -/
theorem Expr.eval_node_eq_ok_iff {o : Op} {a b : Expr} {v : Rat} :
    (node o a b).eval = .ok v ↔ ∃ x y, a.eval = .ok x ∧ b.eval = .ok y ∧ o.apply x y = .ok v := by
  rw [eval]
  cases ha : a.eval with
  | error x => simp [bind, Except.bind]
  | ok x => cases hb : b.eval <;> simp [bind, Except.bind]

/-- The value of a tree is not negative. -/
theorem Expr.eval_nonneg {e : Expr} {v : Rat} (h : e.eval = .ok v) : 0 ≤ v := by
  induction e generalizing v with
  | leaf l =>
    obtain rfl := Except.ok.inj h
    exact l.value_nonneg
  | node o a b ihLeft ihRight =>
    obtain ⟨x, y, left, right, applied⟩ := eval_node_eq_ok_iff.1 h
    exact Op.apply_nonneg (ihLeft left) (ihRight right) applied

/-- The value of a line is not negative. -/
theorem evaluate_nonneg {t : Text} {v : Rat} (h : evaluate t = .ok (some v)) : 0 ≤ v := by
  obtain ⟨e, -, value⟩ := evaluateTokens_eq_some_iff.1 h
  exact e.eval_nonneg value

end ArithDrill
