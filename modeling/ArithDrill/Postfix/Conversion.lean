import ArithDrill.Literal.Reading

/-!
# From a line to a postfix list

In a postfix list every operator stands after its operands, so that no parentheses are needed.
The conversion goes through the tokens once, from left to right.  Numbers go straight to the
output.  Operators and opening parentheses wait on a stack: an operator until one that binds no
tighter follows, or until the parenthesis around it closes.  A parenthesis that is still open at
the end of the input counts as closed there.

The shape is checked on the way.  At any point either a value is expected, which is a number or
an opening parenthesis, or else an operator or a closing parenthesis.

## Main definitions

* `Postfix.Yard` — what has been put out and what is waiting.
* `Postfix.Yard.step` — the effect of one token.
* `Postfix.ofTokens` — the postfix list of a list of tokens.
-/

namespace ArithDrill.Postfix

/-- What waits on the stack. -/
inductive Waiting where
  /-- An operator whose right operand is not complete. -/
  | op (o : Op)
  /-- A parenthesis that has not been closed. -/
  | paren
  deriving DecidableEq, Repr

/-- The state between two tokens. -/
structure Yard where
  /-- The output so far, last token first. -/
  output : List Token
  /-- The stack, innermost first. -/
  waiting : List Waiting
  /-- Whether the next token has to begin a value. -/
  expectsValue : Bool
  deriving DecidableEq, Repr

/-- The state before the first token. -/
def Yard.start : Yard := ⟨[], [], true⟩

/-- Puts out the innermost operators, as long as they bind at least as tightly as `level`. -/
def release (level : Nat) : List Waiting → List Token → List Waiting × List Token
  | .op o :: ws, out =>
    if level ≤ o.precedence then release level ws (.op o :: out) else (.op o :: ws, out)
  | ws, out => (ws, out)

/-- Puts out the operators of the innermost parenthesis and closes it; `none` when no
parenthesis is open. -/
def close? : List Waiting → List Token → Option (List Waiting × List Token)
  | .op o :: ws, out => close? ws (.op o :: out)
  | .paren :: ws, out => some (ws, out)
  | [], _ => none

/-- Puts out all operators, whatever is still open. -/
def drain : List Waiting → List Token → List Token
  | .op o :: ws, out => drain ws (.op o :: out)
  | .paren :: ws, out => drain ws out
  | [], out => out

/-- The effect of one token. -/
def Yard.step (y : Yard) (t : Token) : Except ParseError Yard :=
  match t with
  | .number text =>
    if y.expectsValue then
      match Literal.read text with
      | .error e => .error (.literal e)
      | .ok _ => .ok ⟨t :: y.output, y.waiting, false⟩
    else .error (.unexpected t)
  | .openParen =>
    if y.expectsValue then .ok ⟨y.output, .paren :: y.waiting, true⟩
    else .error (.unexpected t)
  | .closeParen =>
    if y.expectsValue then .error (.unexpected t)
    else
      match close? y.waiting y.output with
      | none => .error .unopened
      | some (waiting, output) => .ok ⟨output, waiting, false⟩
  | .op o =>
    if y.expectsValue then .error (.unexpected t)
    else
      let (waiting, output) := release o.precedence y.waiting y.output
      .ok ⟨output, .op o :: waiting, true⟩

/-- The postfix list when no token is left; none may be missing then. -/
def Yard.finish (y : Yard) : Except ParseError (List Token) :=
  if y.expectsValue then .error .incomplete else .ok (drain y.waiting y.output).reverse

/-- The postfix list of a list of tokens.  Nothing at all has an empty postfix list. -/
def ofTokens (ts : List Token) : Except ParseError (List Token) :=
  if ts.isEmpty then .ok []
  else do
    let y ← ts.foldlM Yard.step Yard.start
    y.finish

end ArithDrill.Postfix
