import ArithDrill.Evaluation
import ArithDrill.Literal.Draw
import ArithDrill.Op.Draw

/-!
# Chains of numbers and operators

An exercise begins as a chain, written without parentheses: `n₀ o₁ n₁ … oₖ nₖ`.  It has to have a
value after each operator, so that a pupil who works from left to right meets no step that the
rules forbid.

## Main definitions

* `Chain` — a number, then pairs of an operator and a number.
* `Chain.render` — the text of a chain, with single spaces.
* `Chain.beginnings` — the shorter chains with one, two, … operators, and the chain itself.
* `Chain.value?` — the value of a chain all of whose beginnings have one.
* `Chain.draw` — draws a chain.
-/

namespace ArithDrill

/-- A number followed by pairs of an operator and a number. -/
structure Chain where
  /-- The first number. -/
  first : Literal
  /-- The operators, each with the number after it. -/
  rest : List (Op × Literal)
  deriving DecidableEq, Repr

/-- The values of texts that are tried in turn, up to the first text without a value; gives the
value of the last text when all have one. -/
def attemptAll : List Text → Except EvalError (Option Rat)
  | [] => .ok none
  | [t] => attempt t
  | t :: ts =>
    match attempt t with
    | .error e => .error e
    | .ok none => .ok none
    | .ok (some _) => attemptAll ts

namespace Chain

/-- The text of a chain, with single spaces around its operators. -/
def render (c : Chain) : Text :=
  c.first.render ++ c.rest.flatMap fun p => ' ' :: p.1.symbol :: ' ' :: p.2.render

/-- The chain as far as its `n`-th operator and the number after it. -/
def take (c : Chain) (n : Nat) : Chain := ⟨c.first, c.rest.take n⟩

/-- The beginnings of a chain with at least one operator, from the shortest to the chain
itself. -/
def beginnings (c : Chain) : List Chain := (List.range' 1 c.rest.length).map c.take

/-- The value of a chain, if it and all its beginnings have one. -/
def value? (c : Chain) : Except EvalError (Option Rat) :=
  attemptAll (c.beginnings.map render)

/-- Whether a chain and all its beginnings have a value. -/
def hasValue (c : Chain) : Bool :=
  match c.value? with
  | .ok (some _) => true
  | _ => false

/-- Whether a division occurs in a chain. -/
def divides (c : Chain) : Bool := c.rest.any fun p => p.1 == .div

/-- Draws a chain of at least one and at most `maxOps` operators: their count, then all the
numbers, then all the operators. -/
def draw (bound maxOps : Nat) : Draw Chain := do
  let k ← Draw.count 1 (max maxOps 1)
  let first ← Literal.draw bound
  let others ← Draw.replicate k (Literal.draw bound)
  let ops ← Draw.replicate k Op.draw
  return ⟨first, ops.zip others⟩

end Chain

end ArithDrill
