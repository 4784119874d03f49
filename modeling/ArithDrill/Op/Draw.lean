import ArithDrill.Draw.Basic
import ArithDrill.Op.Basic

/-!
# Drawing operators

## Main definitions

* `Op.draw` — draws one of the four operators.
-/

namespace ArithDrill.Op

/-- Draws an operator by its place in the list of all. -/
def draw : Draw Op := do
  let i ← Draw.count 0 (all.length - 1)
  return all.getD i add

end ArithDrill.Op
