import ArithDrill.Command.Settings
import ArithDrill.Journal.Event

/-!
# Events of a task

The beginning and the end of each task are events, and so is the failure that ends the program.

## Main definitions

* `Event.generating`, `Event.seriesWritten` — the beginning and the end of generating.
* `Event.unevenFiles`, `Event.gradeWritten` — the same for grading.
* `Event.failure` — the failure of a task.
-/

namespace ArithDrill.Event

/-- A seed as it is reported. -/
private def seedField : Option Nat → Text
  | none => "None".toList
  | some seed => "Some(".toList ++ Decimal.write seed ++ ")".toList

/-- A series is about to be generated. -/
def generating (o : Order) (seed : Option Nat) : Event :=
  ⟨.info, "app".toList, "génération".toList,
    [("nombre".toList, Decimal.write o.count), ("plage".toList, Decimal.write o.bound),
      ("ops_max".toList, Decimal.write o.maxOps), ("graine".toList, seedField seed)]⟩

/-- A series of `size` exercises has been written. -/
def seriesWritten (sheet answers : Path) (size : Nat) : Event :=
  ⟨.info, "app::vue".toList, "série écrite".toList,
    [("exercices".toList, sheet), ("reponses".toList, answers),
      ("nombre".toList, Decimal.write size)]⟩

/-- There are not as many exercises as answers. -/
def unevenFiles (exercises answers : Nat) : Event :=
  ⟨.warn, "app".toList,
    "longueurs différentes : seules les paires complètes sont corrigées".toList,
    [("exercices".toList, Decimal.write exercises), ("reponses".toList, Decimal.write answers)]⟩

/-- A grade has been written. -/
def gradeWritten (path : Path) : Event :=
  ⟨.info, "app::vue".toList, "bilan écrit".toList, [("bilan".toList, path)]⟩

/-- A task has failed. -/
def failure (message : Text) : Event := ⟨.error, "main".toList, message, []⟩

end ArithDrill.Event
