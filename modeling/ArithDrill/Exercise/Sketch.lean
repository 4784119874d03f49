import ArithDrill.Exercise.Basic
import ArithDrill.Exercise.Bracket
import ArithDrill.Exercise.Chain

/-!
# Sketches of exercises

A sketch is all that chance decides about one exercise: the chain, and, if parentheses were
drawn as well, the text with them.  Whether it becomes an exercise follows from the sketch.

The text with parentheses is used when it has a value; otherwise the chain is used as it is.  An
exercise with a division must not have the answer zero.

## Main definitions

* `Sketch` — what has been drawn.
* `Sketch.draw` — draws a sketch.
* `Sketch.form?` — the text that is used, with its value.
* `Sketch.exercise?` — the exercise that a sketch becomes, if any.
-/

namespace ArithDrill

/-- What has been drawn for one exercise. -/
structure Sketch where
  /-- The chain. -/
  chain : Chain
  /-- The text of the chain with a pair of parentheses in it, if one was drawn. -/
  bracketed : Option Text
  deriving DecidableEq, Repr

namespace Sketch

/-- The odds of parentheses: three in ten. -/
def bracketOdds : Nat := 5534023222112865280

/-- Draws a sketch.  Parentheses are drawn only for a chain that has a value and more than one
operator. -/
def draw (bound maxOps : Nat) : Draw Sketch := do
  let chain ← Chain.draw bound maxOps
  if chain.hasValue ∧ 1 < chain.rest.length then
    if ← Draw.toss bracketOdds then
      let text ← bracket chain.render
      return ⟨chain, some text⟩
    else return ⟨chain, none⟩
  else return ⟨chain, none⟩

/-- The text that is used and its value; `none` when the chain has no value. -/
def form? (s : Sketch) : Except EvalError (Option (Text × Rat)) := do
  match ← s.chain.value? with
  | none => return none
  | some v =>
    match s.bracketed with
    | none => return some (s.chain.render, v)
    | some text =>
      match ← attempt text with
      | none => return some (s.chain.render, v)
      | some w => return some (text, w)

/-- Whether an answer is refused for a sketch: zero, when there is a division. -/
def refuses (s : Sketch) (v : Rat) : Bool := v == 0 && s.chain.divides

/-- The exercise that a sketch becomes, if any. -/
def exercise? (s : Sketch) : Except EvalError (Option Exercise) := do
  match ← s.form? with
  | none => return none
  | some (text, v) =>
    if s.refuses v then return none
    else
      match Exercise.ofExpression text v with
      | .error e => throw (.unreadable e)
      | .ok e => return some e

end Sketch

end ArithDrill
