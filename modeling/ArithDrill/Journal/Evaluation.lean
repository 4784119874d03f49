import ArithDrill.Evaluation
import ArithDrill.Journal.Event

/-!
# Events of evaluating a line

Each character that scanning passes over is an event of its own.  When the line has a postfix
list, that list is reported next to the tokens before anything is computed.

## Main definitions

* `evaluationEvents` — the events of evaluating a line.
-/

namespace ArithDrill

/-- Scanning passes over a character. -/
def Event.ignoredCharacter (c : Char) : Event :=
  ⟨.trace, "noyau::jetons".toList, "caractère ignoré".toList, [("caractere".toList, [c])]⟩

/-- A line has been converted to a postfix list. -/
def Event.converted (tokens list : List Token) : Event :=
  ⟨.trace, "noyau::eval".toList, "rpn".toList,
    [("jetons".toList, Token.render tokens), ("rpn".toList, Token.render list)]⟩

/-- The events of evaluating a line. -/
def evaluationEvents (t : Text) : List Event :=
  let tokens := Token.scan t
  (Token.ignored t).map Event.ignoredCharacter ++
    match Postfix.ofTokens tokens with
    | .error _ => []
    | .ok list => [.converted tokens list]

end ArithDrill
