import ArithDrill.Exercise.Generation
import ArithDrill.Journal.Evaluation

/-!
# Events of generating a series

The events follow from the trials of a run: what was evaluated for each sketch and what became
of it, and at the end whether the series is complete.

## Main definitions

* `Trial.events` — the events of one trial.
* `Run.events` — the events of all the trials of a run.
* `Event.exhausted`, `Event.generated` — the two ends of a run.
-/

namespace ArithDrill

/-- The part of the program that reports these events. -/
private def generator : Text := "noyau::generateur".toList

/-- A text is refused for an exercise. -/
def Event.refused (t : Text) (e : EvalError) : Event :=
  ⟨.trace, generator, "candidat refusé".toList,
    [("expr".toList, t), ("erreur".toList, e.message)]⟩

/-- The events of trying texts in turn, up to the first one without a value. -/
def attemptAllEvents : List Text → List Event
  | [] => []
  | t :: ts =>
    evaluationEvents t ++
      match evaluate t with
      | .ok (some _) => attemptAllEvents ts
      | .ok none => []
      | .error e => [.refused t e]

namespace Sketch

/-- The events of trying the text with parentheses. -/
def bracketEvents (s : Sketch) : List Event :=
  match s.bracketed with
  | none => []
  | some text =>
    let givenUp : Event :=
      ⟨.trace, generator, "parenthèses abandonnées".toList, [("expr".toList, text)]⟩
    evaluationEvents text ++
      match evaluate text with
      | .ok (some _) => []
      | .ok none => [givenUp]
      | .error e => [.refused text e, givenUp]

/-- The event of refusing the answer `v` of a text. -/
def refusalEvents (s : Sketch) (text : Text) (v : Rat) : List Event :=
  if s.refuses v then
    [⟨.trace, generator, "division de résultat nul écartée".toList, [("expr".toList, text)]⟩]
  else []

/-- The events of finding out what a sketch becomes.  Parentheses are tried only for a chain
that has a value. -/
def events (s : Sketch) : List Event :=
  attemptAllEvents (s.chain.beginnings.map Chain.render) ++
    match s.form? with
    | .ok (some (text, v)) => s.bracketEvents ++ s.refusalEvents text v
    | _ => []

end Sketch

/-- The event of an outcome. -/
def Outcome.events : Outcome → List Event
  | abandoned => []
  | repeated e =>
    [⟨.trace, generator, "doublon écarté".toList, [("exercice".toList, e.text)]⟩]
  | kept number e =>
    [⟨.debug, generator, "exercice retenu".toList,
      [("numero".toList, Decimal.write number), ("exercice".toList, e.text)]⟩]

/-- The events of a trial. -/
def Trial.events (t : Trial) : List Event := t.sketch.events ++ t.outcome.events

/-- The events of all the trials of a run. -/
def Run.events (r : Run) : List Event := r.trials.reverse.flatMap Trial.events

/-- A run ends without a series. -/
def Event.exhausted (made asked attempts : Nat) : Event :=
  ⟨.warn, generator, "budget de tentatives épuisé".toList,
    [("produits".toList, Decimal.write made), ("demandes".toList, Decimal.write asked),
      ("tentatives".toList, Decimal.write attempts)]⟩

/-- A run ends with a series. -/
def Event.generated (size attempts bound : Nat) : Event :=
  ⟨.info, generator, "série générée".toList,
    [("exercices".toList, Decimal.write size), ("tentatives".toList, Decimal.write attempts),
      ("borne".toList, Decimal.write bound)]⟩

end ArithDrill
