import ArithDrill.Error

/-!
# Applying operators

Values are exact rationals.  The rules of the exercises restrict two operators: a subtraction
may not go below zero, and a division needs a divisor other than zero.  A quotient that is a
negative integer is refused as well; other negative quotients are not, and neither can arise
from operands that are not negative.

## Main definitions

* `Op.apply` — the value of an operator at two operands.
-/

namespace ArithDrill.Op

/-- The value of `a o b` under the rules of the exercises. -/
def apply (o : Op) (a b : Rat) : Except EvalError Rat :=
  match o with
  | add => .ok (a + b)
  | mul => .ok (a * b)
  | sub => if a < b then .error .negativeResult else .ok (a - b)
  | div =>
    if b = 0 then .error .divisionByZero
    else
      let q := a / b
      if q.isInt ∧ q < 0 then .error .negativeResult else .ok q

/-- Applying an operator never breaks the stack. -/
theorem apply_ne_fault (o : Op) (a b : Rat) (f : StackFault) : o.apply a b ≠ .error (.fault f) := by
  cases o <;> simp only [apply] <;> repeat' split
  all_goals simp

end ArithDrill.Op
