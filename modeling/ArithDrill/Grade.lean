import ArithDrill.Evaluation

/-!
# Grading answers

Exercises and answers are paired by position, as far as both go.  An exercise is evaluated anew,
and an answer is right when it has the same value, in whatever form it is written.  A line
that cannot be read is graded wrong and never stops the grading.

## Main definitions

* `Grade` — the numbers of the right and of the wrong answers.
* `Grade.render` — the two lines of the grade file.
* `isRight` — whether an answer is right.
* `grade` — the grade of a list of answers.
-/

namespace ArithDrill

/-- The numbers of the answers, counted from one, by whether they are right. -/
structure Grade where
  /-- The numbers of the right answers. -/
  right : List Nat
  /-- The numbers of the wrong answers. -/
  wrong : List Nat
  deriving DecidableEq, Repr

namespace Grade

/-- Numbers with commas between them. -/
def enumerate (ns : List Nat) : Text := ", ".toList.intercalate (ns.map Decimal.write)

/-- One line of the grade file: a label, how many there are, and which. -/
def line (label : Text) (ns : List Nat) : Text :=
  label ++ ": ".toList ++ Decimal.write ns.length ++ " (".toList ++ enumerate ns ++ ")\n".toList

/-- The grade file. -/
def render (g : Grade) : Text := line "Correct".toList g.right ++ line "Wrong".toList g.wrong

/-- The grade with the given marks, from the first answer on. -/
def ofMarks (marks : List Bool) : Grade :=
  let numbered := marks.zipIdx 1
  ⟨(numbered.filter fun p => p.1).map Prod.snd, (numbered.filter fun p => !p.1).map Prod.snd⟩

end Grade

/-- Whether an answer is right for an exercise. -/
def isRight (exercise answer : Text) : Except EvalError Bool := do
  match ← attempt exercise with
  | none => return false
  | some expected =>
    match readNumber answer with
    | .error _ => return false
    | .ok given => return given == expected

/-- The grade of a list of answers to a list of exercises. -/
def grade (exercises answers : List Text) : Except EvalError Grade := do
  let marks ← (exercises.zip answers).mapM fun p => isRight p.1 p.2
  return .ofMarks marks

end ArithDrill
