import ArithDrill.Exercise.Basic
import ArithDrill.Literal.School
import ArithDrill.Text.Lines
import Std.Data.HashSet.Basic

/-!
# Series without repetitions

A series keeps the first exercise of each key, in the order of their arrival.

## Main definitions

* `Series` — the exercises kept, and the keys seen.
* `Series.add` — adds an exercise unless its key has been seen.
* `sheet`, `answers` — the two files that are made from a series.
-/

namespace ArithDrill

/-- Texts are hashed code point by code point. -/
instance : Hashable Text := @instHashableList Char instHashableChar

/-- A growing series of exercises. -/
structure Series where
  /-- The exercises kept so far, in order. -/
  kept : Array Exercise
  /-- The keys of the exercises seen so far. -/
  seen : Std.HashSet Text

namespace Series

/-- The series without exercises. -/
def empty : Series := ⟨#[], ∅⟩

/-- How many exercises a series has. -/
def size (s : Series) : Nat := s.kept.size

/-- The exercises of a series, in order. -/
def toList (s : Series) : List Exercise := s.kept.toList

/-- Whether an exercise with the same key has been seen. -/
def hasSeen (s : Series) (e : Exercise) : Bool := s.seen.contains e.key

/-- Adds an exercise, unless its key has been seen. -/
def add (s : Series) (e : Exercise) : Series :=
  if s.hasSeen e then s else ⟨s.kept.push e, s.seen.insert e.key⟩

@[simp] theorem toList_empty : empty.toList = [] := rfl

@[simp] theorem length_toList (s : Series) : s.toList.length = s.size := rfl

/-- Adding keeps what there is and puts a new exercise at the end. -/
theorem toList_add (s : Series) (e : Exercise) :
    (s.add e).toList = if s.hasSeen e then s.toList else s.toList ++ [e] := by
  unfold add toList
  split <;> simp

end Series

/-- The sheet of some exercises: their lines. -/
def sheet (es : List Exercise) : Text := Text.ofItems (es.map Exercise.text)

/-- The answers to some exercises: their values in school form, one per line. -/
def answers (es : List Exercise) : Text := Text.ofItems (es.map fun e => schoolForm e.value)

end ArithDrill
