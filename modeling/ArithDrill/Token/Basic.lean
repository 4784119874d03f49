import ArithDrill.Op.Basic

/-!
# Tokens

A line is read as a list of tokens.  A number token keeps its text as it stands; whether the
text is a well-formed number is decided where the number is needed.

## Main definitions

* `Token` — numbers, operators and parentheses.
* `Token.text` — a token as it is written.
* `Token.render` — a list of tokens, written with single spaces between them.
-/

namespace ArithDrill

/-- A lexical unit of an exercise line. -/
inductive Token where
  /-- A number, by its text. -/
  | number (text : Text)
  /-- An operator. -/
  | op (o : Op)
  /-- An opening parenthesis. -/
  | openParen
  /-- A closing parenthesis. -/
  | closeParen
  deriving DecidableEq, Repr, Inhabited

namespace Token

/-- A token as it is written. -/
def text : Token → Text
  | number t => t
  | op o => [o.symbol]
  | openParen => ['(']
  | closeParen => [')']

/-- Whether a token is a number. -/
def isNumber : Token → Bool
  | number _ => true
  | _ => false

/-- A list of tokens on one line, with single spaces between them. -/
def render (ts : List Token) : Text := [' '].intercalate (ts.map text)

@[simp] theorem render_nil : render [] = [] := rfl

@[simp] theorem render_singleton (t : Token) : render [t] = t.text := by
  simp [render]

theorem render_cons_cons (t u : Token) (ts : List Token) :
    render (t :: u :: ts) = t.text ++ ' ' :: render (u :: ts) := by
  simp [render, List.intercalate_cons_cons]

end Token

end ArithDrill
