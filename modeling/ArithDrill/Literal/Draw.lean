import ArithDrill.Draw.Basic
import ArithDrill.Literal.Basic

/-!
# Drawing numbers

A number of an exercise lies below a bound.  One in two is whole.  The others have a proper
fraction, whose denominator lies below the bound too, and units of at most the bound less two;
without units the number is written as a fraction, and with units as a mixed number.

## Main definitions

* `Literal.draw` — draws a number below a bound.
-/

namespace ArithDrill

namespace Literal

/-- Draws a whole number below `bound`; a bound of zero counts as one. -/
def drawWhole (bound : Nat) : Draw Literal := do
  let n ← Draw.value 0 (max bound 1 - 1)
  return whole n

/-- Draws a fraction or a mixed number below `bound`, which is at least two.  When the bound is
two, the only denominator is two, and it is not drawn. -/
def drawParts (bound : Nat) : Draw Literal := do
  let units ← Draw.value 0 (bound - 2)
  let den ← if 2 < bound then Draw.value 2 (bound - 1) else pure 2
  let num ← Draw.value 1 (den - 1)
  return if units = 0 then fraction num den else mixed units num den

/-- Draws a number below `bound`.  A bound below two leaves only zero, and no coin is tossed. -/
def draw (bound : Nat) : Draw Literal :=
  if bound < 2 then drawWhole bound
  else do
    if ← Draw.flip then drawWhole bound else drawParts bound

end Literal

end ArithDrill
