import ArithDrill.Expr.Canonical

/-!
# Exercises

An exercise is a line that ends in an equals sign, together with its answer and the key by which
repetitions are recognised.

## Main definitions

* `Exercise` — a line, its value and its key.
* `Exercise.ofExpression` — the exercise that asks for the value of an expression.
-/

namespace ArithDrill

/-- A line of an exercise sheet with its answer. -/
structure Exercise where
  /-- The line, which ends in an equals sign. -/
  text : Text
  /-- The answer. -/
  value : Rat
  /-- The text of the canonical form, which lines that differ in the order of commutative
  operands share. -/
  key : Text
  deriving DecidableEq, Repr

/-- The exercise that asks for an expression whose value is known. -/
def Exercise.ofExpression (expression : Text) (value : Rat) : Except ParseError Exercise :=
  let text := expression ++ " =".toList
  (Expr.key text).map fun key => ⟨text, value, key⟩

end ArithDrill
