import ArithDrill.Text.Basic

/-!
# Sets of characters

The properties of the Unicode standard are sets of code points that consist of long stretches,
so they are given as ranges.

## Main definitions

* `Text.Ranges` — a set of code points, as ranges.
* `Text.Ranges.contains` — whether a character is in it.
-/

namespace ArithDrill.Text

/-- A set of code points, as ranges with both ends included. -/
abbrev Ranges := List (Nat × Nat)

/-- Whether a character is in a set. -/
def Ranges.contains (rs : Ranges) (c : Char) : Bool :=
  rs.any fun r => decide (r.1 ≤ c.toNat ∧ c.toNat ≤ r.2)

end ArithDrill.Text
