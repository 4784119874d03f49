import ArithDrill.Text.Blank
import ArithDrill.Token.Basic

/-!
# Scanning a line into tokens

A line is read leniently.  Its blanks are removed first, so that `1 2` reads as the number
twelve, then one equals sign at the very end.  In what is left a number is a longest run of
digits, slashes and apostrophes.  Any other character is ignored, though it does end a number.

## Main definitions

* `Token.scan` — the tokens of a line.
* `Token.ignored` — the characters of a line that scanning passes over.

## Main statements

* `Token.scanFrom_append` — how two adjoining pieces of a line scan.
-/

namespace ArithDrill.Token

/-- The characters that make up numbers. -/
def isNumberChar (c : Char) : Bool := c.isDigit || c == '/' || c == '\''

/-- The token that is a single character. -/
def ofChar? (c : Char) : Option Token :=
  if c = '(' then some openParen
  else if c = ')' then some closeParen
  else (Op.ofSymbol? c).map op

/-- What is left of a line to scan: no blanks, and no equals sign at the end. -/
def stripped (t : Text) : Text :=
  let line := t.compact
  if line.getLast? = some '=' then line.dropLast else line

/-- Puts the number read so far in front of the tokens that follow it.  The run is held
backwards, and an empty one is no number. -/
def emit (run : Text) (ts : List Token) : List Token :=
  if run.isEmpty then ts else number run.reverse :: ts

/-- The tokens of a stripped line, where `run` holds backwards the number characters that
stand directly before it. -/
def scanFrom (run : Text) : Text → List Token
  | [] => emit run []
  | c :: cs =>
    if isNumberChar c then scanFrom (c :: run) cs
    else emit run ((ofChar? c).toList ++ scanFrom [] cs)

/-- The tokens of a line. -/
def scan (t : Text) : List Token := scanFrom [] (stripped t)

/-- The characters of a line that are neither read nor blank, in order: all but those of
numbers, operators and parentheses, and the equals sign at the end. -/
def ignored (t : Text) : List Char :=
  (stripped t).filter fun c => !isNumberChar c && (ofChar? c).isNone

@[simp] theorem emit_nil (ts : List Token) : emit [] ts = ts := rfl

/-- The number read so far goes in front, whatever follows. -/
theorem emit_append (run : Text) (ts us : List Token) :
    emit run (ts ++ us) = emit run ts ++ us := by
  unfold emit; split <;> rfl

/-- Number characters in front of a line join the run. -/
theorem scanFrom_append_of_isNumberChar {run digits cs : Text}
    (h : ∀ c ∈ digits, isNumberChar c = true) :
    scanFrom run (digits ++ cs) = scanFrom (digits.reverse ++ run) cs := by
  induction digits generalizing run with
  | nil => rfl
  | cons d ds ih =>
    rw [List.cons_append, scanFrom, if_pos (h d (by simp)),
      ih fun c hc => h c (List.mem_cons_of_mem d hc)]
    simp

/-- A character that is no number character separates the tokens before it from those
after it. -/
theorem scanFrom_append {run a cs : Text} {c : Char} (h : isNumberChar c = false) :
    scanFrom run (a ++ c :: cs) = scanFrom run a ++ scanFrom [] (c :: cs) := by
  induction a generalizing run with
  | nil => simp [scanFrom, h, ← emit_append]
  | cons d ds ih =>
    rw [List.cons_append, scanFrom, scanFrom]
    split
    · exact ih
    · rw [ih, ← List.append_assoc, emit_append]

end ArithDrill.Token
