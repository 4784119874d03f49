import ArithDrill.Literal.Reading
import ArithDrill.Op.Apply

/-!
# Evaluating a postfix list

A postfix list is evaluated on a stack of values: a number is pushed, and an operator replaces
the two topmost values by its result.  Any list of tokens may be given; one that does not fit
the stack ends in a `StackFault`, which no line of an exercise can cause.

## Main definitions

* `Postfix.push` — the effect of one token on the stack.
* `Postfix.eval` — the value of a postfix list, none for the empty list.
-/

namespace ArithDrill.Postfix

/-- The effect of one token on the stack of values, topmost first.  The left operand lies below
the right one. -/
def push (stack : List Rat) (t : Token) : Except EvalError (List Rat) :=
  match t, stack with
  | .number text, vs =>
    match readNumber text with
    | .error e => .error (.unreadable (.literal e))
    | .ok v => .ok (v :: vs)
  | .op o, b :: a :: vs => (o.apply a b).map fun v => v :: vs
  | .op o, _ => .error (.fault (.missingOperand o))
  | .openParen, _ => .error (.fault .strayParenthesis)
  | .closeParen, _ => .error (.fault .strayParenthesis)

/-- What a stack means at the end: one value is the result. -/
def result : List Rat → Except EvalError (Option Rat)
  | [v] => .ok (some v)
  | vs => .error (.fault (.leftover vs.length))

/-- The value of a postfix list.  The empty list has none, and that is no failure. -/
def eval (ts : List Token) : Except EvalError (Option Rat) :=
  if ts.isEmpty then .ok none
  else do
    let vs ← ts.foldlM push []
    result vs

end ArithDrill.Postfix
