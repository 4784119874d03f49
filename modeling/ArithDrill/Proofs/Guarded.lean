import ArithDrill.Files.Path
import ArithDrill.Proofs.Candidates

/-!
# The generator in arithmetic on words

The generator works with words of 64 bits: bounds, counts of operators and of attempts, lengths and
positions.  Here it is told once more with all that can go wrong in such arithmetic.  A range that
is drawn from may be empty, a difference may be negative, a sum may be too large, a place may lie
outside of a list, and a loop may go on for ever.  Each of these is a trap and stops the
computation.  Text is put in parentheses by positions, which four loops move one character at a
time.

## Main definitions

* `Trap` — what stops a computation on words.
* `Guarded` — computations that draw and may be stopped.
* `Guarded.literal`, `Guarded.op`, `Guarded.bracket`, `Guarded.chain`, `Guarded.candidate` — the
  draws of the generator.
* `Guarded.Progress`, `Guarded.pass`, `Guarded.passes` — the loop of a generation, with its counter.
-/

namespace ArithDrill

/-- What stops a computation on words. -/
inductive Trap where
  /-- There is no number in a range to draw from. -/
  | emptyRange
  /-- A difference is below zero. -/
  | negative
  /-- A sum is no word. -/
  | overflow
  /-- A place lies outside of a list. -/
  | outside
  /-- A loop has not ended within the passes allowed. -/
  | endless
  deriving DecidableEq, Repr

/-- A computation that draws and may be stopped by a trap. -/
abbrev Guarded (α : Type) := ExceptT Trap Draw α

namespace Guarded

variable {α : Type}

/-! ## Single steps -/

/-- Draws a number of a range. -/
def number (r : Span) : Guarded Nat :=
  if r.lo ≤ r.hi then liftM (Draw.number r Draw.done) else throw .emptyRange

/-- Draws a number from `lo` on and below `hi`. -/
def below (span : Nat → Nat → Span) (lo hi : Nat) : Guarded Nat :=
  if lo < hi then number (span lo (hi - 1)) else throw .emptyRange

/-- The difference of two words. -/
def sub (a b : Nat) : Guarded Nat := if b ≤ a then return a - b else throw .negative

/-- The sum of two words. -/
def add (a b : Nat) : Guarded Nat := if a + b < UInt64.size then return a + b else throw .overflow

/-- What stands at a place of a list. -/
def get (xs : List α) (i : Nat) : Guarded α :=
  match xs[i]? with
  | some a => return a
  | none => throw .outside

/-- The part of a list from one place on and before another. -/
def slice (xs : List α) (start stop : Nat) : Guarded (List α) :=
  if start ≤ stop ∧ stop ≤ xs.length then return (xs.take stop).drop start else throw .outside

/-- The results of `n` draws, one after another. -/
def replicate : Nat → Guarded α → Guarded (List α)
  | 0, _ => return []
  | n + 1, d => do
    let a ← d
    let as ← replicate n d
    return a :: as

/-! ## Numbers and operators -/

/-- Draws a whole number below `bound`. -/
def whole (bound : Nat) : Guarded Literal := do
  let n ← below .value 0 (max bound 1)
  return .whole n

/-- Draws a fraction or a mixed number below `bound`. -/
def parts (bound : Nat) : Guarded Literal := do
  let units ← below .value 0 (← sub bound 1)
  let den ← if 2 < bound then do number (.value 2 (← sub bound 1)) else pure 2
  let num ← below .value 1 den
  return if units = 0 then .fraction num den else .mixed units num den

/-- Draws a number below `bound`. -/
def literal (bound : Nat) : Guarded Literal :=
  if bound < 2 then whole bound
  else do
    if ← Draw.flip then whole bound else parts bound

/-- Draws an operator. -/
def op : Guarded Op := do
  let i ← below .count 0 Op.all.length
  get Op.all i

/-! ## Parentheses -/

/-- Moves a position to the left, past characters of one kind, but not past `low`. -/
def back (t : Text) (low : Nat) (skips : Char → Bool) : Nat → Nat → Guarded Nat
  | 0, _ => throw .endless
  | passes + 1, i =>
    if low < i then do
      let c ← get t (← sub i 1)
      if skips c then back t low skips passes (← sub i 1) else return i
    else return i

/-- Moves a position to the right, past characters of one kind, but not past `high`. -/
def forth (t : Text) (high : Nat) (skips : Char → Bool) : Nat → Nat → Guarded Nat
  | 0, _ => throw .endless
  | passes + 1, i =>
    if i < high then do
      let c ← get t i
      if skips c then forth t high skips passes (← add i 1) else return i
    else return i

/-- Puts the text between two positions in parentheses, after both have been moved outwards until
parentheses may stand there, and then inwards over spaces.  The text has `bytes` bytes, and room is
made for two more. -/
def enclose (t : Text) (bytes start stop : Nat) : Guarded Text := do
  let start ← back t 0 (fun c => !Cut.mayPrecede c) (t.length + 1) start
  let stop ← forth t t.length (fun c => !Cut.mayFollow c) (t.length + 1) stop
  let start ← forth t stop (· == ' ') (t.length + 1) start
  let stop ← back t start (· == ' ') (t.length + 1) stop
  if start = stop then return t
  else do
    let _ ← add bytes 2
    let before ← slice t 0 start
    let inside ← slice t start stop
    let after ← slice t stop t.length
    return before ++ '(' :: (inside ++ ')' :: after)

/-- Draws a stretch of a text of `bytes` bytes and puts it in parentheses. -/
def bracket (t : Text) (bytes : Nat) : Guarded Text :=
  if t.length < 2 then return t
  else do
    let start ← number (.count 0 (t.length / 2))
    let extent ← number (.count 2 (max (← sub t.length start) 2))
    enclose t bytes start (min (← add start extent) t.length)

/-! ## Candidates -/

/-- Draws a chain. -/
def chain (bound maxOps : Nat) : Guarded Chain := do
  let k ← number (.count 1 (max maxOps 1))
  let numbers ← replicate (k + 1) (literal bound)
  let ops ← replicate k op
  let first ← get numbers 0
  let others ← slice numbers 1 numbers.length
  return ⟨first, ops.zip others⟩

/-- Draws the parentheses of a chain, if any. -/
def complete (c : Chain) : Guarded Sketch := do
  if c.hasValue ∧ 1 < c.rest.length then
    if ← Draw.toss Sketch.bracketOdds then
      let text ← bracket c.render (Path.byteLength c.render)
      return ⟨c, some text⟩
    else return ⟨c, none⟩
  else return ⟨c, none⟩

/-- Draws a sketch and tells what exercise it becomes, if any. -/
def candidate (bound maxOps : Nat) : Guarded (Except EvalError (Option Exercise)) := do
  let c ← chain bound maxOps
  let s ← complete c
  return s.exercise?

/-! ## The loop of a generation -/

/-- How far a generation has got. -/
structure Progress where
  /-- The series so far. -/
  series : Series
  /-- How many candidates have been drawn. -/
  attempts : Nat
  /-- What the generation has come to, once it is over. -/
  outcome : Option (Except GenerationError (List Exercise))

/-- The progress after a candidate that is the last of `attempts`. -/
def Progress.record (p : Progress) (attempts : Nat) :
    Except EvalError (Option Exercise) → Progress
  | .error x => ⟨p.series, attempts, some (.error (.broken x))⟩
  | .ok none => ⟨p.series, attempts, none⟩
  | .ok (some e) => ⟨p.series.add e, attempts, none⟩

/-- One pass through the loop of a generation. -/
def pass (o : Order) (p : Progress) : Guarded Progress :=
  if p.outcome.isSome then return p
  else if o.count ≤ p.series.size then return { p with outcome := some (.ok p.series.toList) }
  else if o.maxAttempts ≤ p.attempts then
    return { p with outcome := some (.error (.shortage p.series.size o.count p.attempts)) }
  else do
    let attempts ← add p.attempts 1
    let c ← candidate o.bound o.maxOps
    return p.record attempts c

/-- The progress after some passes. -/
def passes (o : Order) : Nat → Progress → Guarded Progress
  | 0, p => return p
  | n + 1, p => do passes o n (← pass o p)

/-- The progress before the first pass. -/
def start : Progress := ⟨.empty, 0, none⟩

end Guarded

end ArithDrill
