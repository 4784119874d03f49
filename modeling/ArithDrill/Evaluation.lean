import ArithDrill.Postfix.Conversion
import ArithDrill.Postfix.Stack
import ArithDrill.Token.Scan

/-!
# The value of a line

A line is scanned, converted to a postfix list and evaluated on a stack.  Parsing the line to a
tree and evaluating that is a second way to the same value and the same failure.

## Main definitions

* `evaluateTokens`, `evaluate` — the value of a list of tokens and of a line.
* `attempt` — the value of a line if it has one, where only a broken stack is a failure.
-/

namespace ArithDrill

/-- The value of a list of tokens; the empty list has none. -/
def evaluateTokens (ts : List Token) : Except EvalError (Option Rat) :=
  match Postfix.ofTokens ts with
  | .error e => .error (.unreadable e)
  | .ok ps => Postfix.eval ps

/-- The value of a line; a line without tokens has none. -/
def evaluate (t : Text) : Except EvalError (Option Rat) := evaluateTokens (Token.scan t)

/-- The value of a line, if it has one.  That a line cannot be read, or breaks a rule of the
exercises, is an ordinary outcome here; that the stack breaks is not. -/
def attempt (t : Text) : Except EvalError (Option Rat) :=
  match evaluate t with
  | .ok v => .ok v
  | .error e => if e.isFault then .error e else .ok none

end ArithDrill
