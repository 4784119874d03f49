import ArithDrill.Error
import ArithDrill.Literal.Basic
import ArithDrill.Text.Blank

/-!
# Reading numbers

Reading is more generous than writing: leading zeros, improper fractions and `0'1/2` are all
accepted, for answers are compared by value.  There is no sign and no decimal point.

## Main definitions

* `Literal.shape?` — the literal that a text spells, whatever its denominator.
* `Literal.read` — the literal of a text, which must have a denominator other than zero.
* `readNumber` — the value of an answer, which may have blanks around it.
-/

namespace ArithDrill

namespace Literal

/-- The two sides of a fraction bar. -/
def fractionParts? (t : Text) : Option (Nat × Nat) := do
  let (num, den) ← t.cut? '/'
  return (← Decimal.read? num, ← Decimal.read? den)

/-- The literal that a text spells; its denominator may be zero. -/
def shape? (t : Text) : Option Literal :=
  match t.cut? '\'' with
  | some (units, rest) => do
    let n ← Decimal.read? units
    let (num, den) ← fractionParts? rest
    return mixed n num den
  | none =>
    if '/' ∈ t then (fractionParts? t).map fun p => fraction p.1 p.2
    else (Decimal.read? t).map whole

/-- The literal of a text. -/
def read (t : Text) : Except LiteralError Literal :=
  if t.isEmpty then .error .empty
  else
    match shape? t with
    | none => .error (.malformed t)
    | some l => if l.denominator = 0 then .error (.zeroDenominator t) else .ok l

/-- A literal that has been read has a denominator. -/
theorem denominator_ne_zero_of_read {t : Text} {l : Literal} (h : read t = .ok l) :
    l.denominator ≠ 0 := by
  unfold read at h
  repeat' split at h
  all_goals simp_all

end Literal

/-- The value of an answer, with any blanks around it. -/
def readNumber (t : Text) : Except LiteralError Rat := (Literal.read t.trim).map Literal.value

end ArithDrill
