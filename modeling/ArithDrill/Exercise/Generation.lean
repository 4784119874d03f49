import ArithDrill.Exercise.Series
import ArithDrill.Exercise.Sketch

/-!
# Generating a series

Sketches are drawn one after another until the series has the size asked for, or until as many
have been drawn as the order allows.  Every sketch counts, whatever becomes of it.

## Main definitions

* `Order` — what is asked for.
* `Trial` — a sketch together with what became of it.
* `Run` — the series so far, with the trials behind it.
* `Run.extend` — draws until the order is met or the attempts are used up.
* `generate` — a series to order, or the reason why there is none.
-/

namespace ArithDrill

/-- What is asked for. -/
structure Order where
  /-- How many exercises the series has to have. -/
  count : Nat
  /-- The bound below which the numbers lie. -/
  bound : Nat
  /-- How many operators an exercise has at most. -/
  maxOps : Nat
  /-- How many sketches may be drawn in all. -/
  maxAttempts : Nat
  deriving DecidableEq, Repr

/-- Why there is no series. -/
inductive GenerationError where
  /-- The attempts were used up before the series was complete. -/
  | shortage (made asked attempts : Nat)
  /-- An exercise could not be evaluated for a reason that no sketch explains. -/
  | broken (error : EvalError)
  deriving DecidableEq, Repr

/-- The wording of a generation error. -/
def GenerationError.message : GenerationError → Text
  | shortage made asked attempts =>
    "seulement ".toList ++ Decimal.write made ++ " exercices distincts sur ".toList ++
      Decimal.write asked ++ " demandés après ".toList ++ Decimal.write attempts ++
      " tentatives (plage trop petite ?)".toList
  | broken e => e.message

/-- What became of a sketch. -/
inductive Outcome where
  /-- It is no exercise. -/
  | abandoned
  /-- It is an exercise that the series has already. -/
  | repeated (e : Exercise)
  /-- It became the exercise with the given number. -/
  | kept (number : Nat) (e : Exercise)
  deriving DecidableEq, Repr

/-- A sketch together with what became of it. -/
structure Trial where
  /-- The sketch. -/
  sketch : Sketch
  /-- What became of it. -/
  outcome : Outcome
  deriving DecidableEq, Repr

/-- A series in the making. -/
structure Run where
  /-- The series so far. -/
  series : Series
  /-- The trials so far, the last one first. -/
  trials : List Trial
  /-- What broke the run off, if anything did. -/
  broken : Option EvalError

namespace Run

/-- The run before the first sketch. -/
def start : Run := ⟨.empty, [], none⟩

/-- How many sketches have been drawn. -/
def attempts (r : Run) : Nat := r.trials.length

/-- Takes a sketch into account. -/
def record (r : Run) (s : Sketch) : Run :=
  match s.exercise? with
  | .error e => ⟨r.series, ⟨s, .abandoned⟩ :: r.trials, some e⟩
  | .ok none => ⟨r.series, ⟨s, .abandoned⟩ :: r.trials, r.broken⟩
  | .ok (some e) =>
    let outcome := if r.series.hasSeen e then .repeated e else .kept (r.series.size + 1) e
    ⟨r.series.add e, ⟨s, outcome⟩ :: r.trials, r.broken⟩

/-- Whether no further sketch is needed or useful. -/
def isOver (count : Nat) (r : Run) : Bool := decide (count ≤ r.series.size) || r.broken.isSome

/-- Draws up to `left` further sketches, until the series has `count` exercises. -/
def extend (count bound maxOps : Nat) : Nat → Run → Draw Run
  | 0, r => .done r
  | left + 1, r =>
    if r.isOver count then .done r
    else do
      let s ← Sketch.draw bound maxOps
      extend count bound maxOps left (r.record s)

/-- What a finished run amounts to. -/
def result (count : Nat) (r : Run) : Except GenerationError (List Exercise) :=
  match r.broken with
  | some e => .error (.broken e)
  | none =>
    if count ≤ r.series.size then .ok r.series.toList
    else .error (.shortage r.series.size count r.attempts)

end Run

/-- Draws a whole run for an order. -/
def Order.run (o : Order) : Draw Run :=
  Run.extend o.count o.bound o.maxOps o.maxAttempts Run.start

/-- Draws a series to order. -/
def generate (o : Order) : Draw (Except GenerationError (List Exercise)) := do
  let r ← o.run
  return r.result o.count

end ArithDrill
