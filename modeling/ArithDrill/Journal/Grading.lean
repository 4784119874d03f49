import ArithDrill.Grade
import ArithDrill.Journal.Evaluation
import ArithDrill.Text.Quoted

/-!
# Events of grading

## Main definitions

* `answerEvents` — the events of grading one answer.
* `gradingEvents` — the events of grading a list of answers.
* `Event.graded` — the event at the end.
-/

namespace ArithDrill

/-- The part of the program that reports these events. -/
private def grader : Text := "noyau::correction".toList

/-- The events of evaluating an exercise anew. -/
def exerciseEvents (exercise : Text) : List Event :=
  evaluationEvents exercise ++
    match evaluate exercise with
    | .ok _ => []
    | .error e =>
      [⟨.debug, grader, "exercice sans valeur".toList,
        [("exercice".toList, exercise.quoted), ("erreur".toList, e.message)]⟩]

/-- The event of an answer that cannot be read.  It is not read when the exercise has no
value. -/
def readingEvents (number : Nat) (exercise answer : Text) : List Event :=
  match attempt exercise, readNumber answer with
  | .ok (some _), .error e =>
    [⟨.debug, grader, "réponse illisible".toList,
      [("numero".toList, Decimal.write number), ("reponse".toList, answer.quoted),
        ("erreur".toList, e.message)]⟩]
  | _, _ => []

/-- The event of a mark. -/
def markEvents (number : Nat) (exercise answer : Text) : List Event :=
  match isRight exercise answer with
  | .error _ => []
  | .ok mark =>
    [⟨.debug, grader, "ligne corrigée".toList,
      [("numero".toList, Decimal.write number),
        ("juste".toList, if mark then "true".toList else "false".toList)]⟩]

/-- The events of grading one answer. -/
def answerEvents (number : Nat) (exercise answer : Text) : List Event :=
  exerciseEvents exercise ++ readingEvents number exercise answer ++
    markEvents number exercise answer

/-- The events of grading a list of answers. -/
def gradingEvents (exercises answers : List Text) : List Event :=
  ((exercises.zip answers).zipIdx 1).flatMap fun p => answerEvents p.2 p.1.1 p.1.2

/-- A grade has been found. -/
def Event.graded (g : Grade) : Event :=
  ⟨.info, grader, "correction terminée".toList,
    [("justes".toList, Decimal.write g.right.length),
      ("fausses".toList, Decimal.write g.wrong.length)]⟩

end ArithDrill
