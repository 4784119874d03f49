import ArithDrill.Token.Basic
import ArithDrill.Text.Decimal

/-!
# Causes of failure

Each kind of failure is a cause with the data that explain it; the wording is one function per
kind.  All but a broken stack are ordinary: a candidate is drawn anew, or an answer is wrong.

## Main definitions

* `LiteralError` — a text is not a number.
* `ParseError` — a list of tokens is not an expression.
* `StackFault` — a postfix list does not leave exactly one value.
* `EvalError` — an expression has no value.
* `EvalError.isFault` — whether a failure means that an invariant is broken.
-/

namespace ArithDrill

/-- Why a text is not a number. -/
inductive LiteralError where
  /-- There is no text at all. -/
  | empty
  /-- The text has none of the three forms of a number. -/
  | malformed (text : Text)
  /-- The form is right, but the denominator is zero. -/
  | zeroDenominator (text : Text)
  deriving DecidableEq, Repr

/-- Why a list of tokens is not an expression. -/
inductive ParseError where
  /-- The list ends where a value is expected. -/
  | incomplete
  /-- A token stands where it cannot. -/
  | unexpected (token : Token)
  /-- A closing parenthesis closes nothing. -/
  | unopened
  /-- A number token is not a number. -/
  | literal (error : LiteralError)
  deriving DecidableEq, Repr

/-- Why a postfix list has no single value, whatever its numbers are. -/
inductive StackFault where
  /-- An operator finds fewer than two values. -/
  | missingOperand (o : Op)
  /-- A parenthesis stands in the list. -/
  | strayParenthesis
  /-- Another number of values than one is left at the end. -/
  | leftover (count : Nat)
  deriving DecidableEq, Repr

/-- Why an expression has no value. -/
inductive EvalError where
  /-- A divisor is zero. -/
  | divisionByZero
  /-- A result would be negative. -/
  | negativeResult
  /-- There is no expression to evaluate. -/
  | unreadable (error : ParseError)
  /-- The stack of values does not fit the postfix list. -/
  | fault (fault : StackFault)
  deriving DecidableEq, Repr

/-- The wording of a literal error. -/
def LiteralError.message : LiteralError → Text
  | empty => "nombre vide".toList
  | malformed t => "nombre invalide: '".toList ++ t ++ "'".toList
  | zeroDenominator t => "dénominateur nul dans '".toList ++ t ++ "'".toList

/-- The wording of a parse error. -/
def ParseError.message : ParseError → Text
  | incomplete => "expression incomplète".toList
  | unexpected t => "jeton inattendu: '".toList ++ t.text ++ "'".toList
  | unopened => "parenthèse fermante sans ouvrante".toList
  | literal e => e.message

/-- The wording of a stack fault. -/
def StackFault.message : StackFault → Text
  | missingOperand o => "opérande manquante pour ".toList ++ [o.symbol]
  | strayParenthesis => "parenthèse inattendue en RPN".toList
  | leftover n => Decimal.write n ++ " valeurs restantes sur la pile".toList

/-- The wording of an evaluation error. -/
def EvalError.message : EvalError → Text
  | divisionByZero => "division par zéro".toList
  | negativeResult => "résultat négatif".toList
  | unreadable e => e.message
  | fault f => "faute structurelle: ".toList ++ f.message

/-- Whether a failure shows a broken invariant instead of an ordinary input. -/
def EvalError.isFault : EvalError → Bool
  | fault _ => true
  | divisionByZero | negativeResult | unreadable _ => false

end ArithDrill
