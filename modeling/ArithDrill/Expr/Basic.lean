import ArithDrill.Literal.Basic
import ArithDrill.Op.Apply

/-!
# Expressions

An expression is a tree of operators over literals.  Parentheses are not kept: they are in the
shape of the tree, and the written form of a tree has a pair of them around every operator.

## Main definitions

* `Expr` — expression trees.
* `Expr.render` — a tree with all its parentheses and no spaces.
* `Expr.eval` — the value of a tree, left operand before right operand.
* `Expr.leaves`, `Expr.operators` — the literals and operators from left to right.
-/

namespace ArithDrill

/-- An expression tree. -/
inductive Expr where
  /-- A number, as written. -/
  | leaf (l : Literal)
  /-- An operator between two operands. -/
  | node (o : Op) (left right : Expr)
  deriving DecidableEq, Repr, Inhabited

namespace Expr

/-- The text of a tree with parentheses around every operator, as in `((1+2)×3)`. -/
def render : Expr → Text
  | leaf l => l.render
  | node o a b => '(' :: (a.render ++ o.symbol :: (b.render ++ [')']))

/-- The value of a tree.  Operands are evaluated from left to right, and the first failure is
the one that is reported. -/
def eval : Expr → Except EvalError Rat
  | leaf l => .ok l.value
  | node o a b => do
    let x ← a.eval
    let y ← b.eval
    o.apply x y

/-- The literals of a tree, from left to right. -/
def leaves : Expr → List Literal
  | leaf l => [l]
  | node _ a b => a.leaves ++ b.leaves

/-- The operators of a tree, in the order in which they are written between the literals. -/
def operators : Expr → List Op
  | leaf _ => []
  | node o a b => a.operators ++ o :: b.operators

/-- Evaluating a tree never breaks a stack: there is none. -/
theorem eval_ne_fault (e : Expr) (f : StackFault) : e.eval ≠ .error (.fault f) := by
  induction e with
  | leaf l => simp [eval]
  | node o a b iha ihb =>
    cases ha : a.eval with
    | error x =>
      rw [ha] at iha
      simpa [eval, ha, bind, Except.bind] using iha
    | ok x =>
      cases hb : b.eval with
      | error y =>
        rw [hb] at ihb
        simpa [eval, ha, hb, bind, Except.bind] using ihb
      | ok y => simpa [eval, ha, hb, bind, Except.bind] using o.apply_ne_fault x y f

end Expr

end ArithDrill
