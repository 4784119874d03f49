import ArithDrill.Text.Decimal

/-!
# Numbers as written

A number is written in one of three forms: `7`, `3/4` or `2'3/4`.  The parts are kept as
written, so `6/4` and `1'1/2` are different literals with the same value.

## Main definitions

* `Literal` — a written number.
* `Literal.denominator` — its denominator, one for a whole number.
* `Literal.value` — the rational it stands for.
* `Literal.render` — its text.
-/

namespace ArithDrill

/-- A number as it is written. -/
inductive Literal where
  /-- A whole number `n`. -/
  | whole (n : Nat)
  /-- A fraction `num/den`. -/
  | fraction (num den : Nat)
  /-- A mixed number `units'num/den`. -/
  | mixed (units num den : Nat)
  deriving DecidableEq, Repr, Inhabited

namespace Literal

/-- The denominator as written; a whole number has denominator one. -/
def denominator : Literal → Nat
  | whole _ => 1
  | fraction _ den | mixed _ _ den => den

/-- The rational that a literal stands for. -/
def value : Literal → Rat
  | whole n => n
  | fraction num den => mkRat num den
  | mixed units num den => mkRat (units * den + num) den

/-- The parts of a literal, in the order in which they are written. -/
def parts : Literal → List Nat
  | whole n => [n]
  | fraction num den => [num, den]
  | mixed units num den => [units, num, den]

/-- The text of a literal: an apostrophe after the units, a slash before the denominator. -/
def render : Literal → Text
  | whole n => Decimal.write n
  | fraction num den => Decimal.write num ++ '/' :: Decimal.write den
  | mixed units num den =>
    Decimal.write units ++ '\'' :: (Decimal.write num ++ '/' :: Decimal.write den)

end Literal

end ArithDrill
