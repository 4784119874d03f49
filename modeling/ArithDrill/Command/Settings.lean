import ArithDrill.Exercise.Generation
import ArithDrill.Files.Path

/-!
# Settings and tasks

The settings of the command line ask for one of two tasks: generating a series or grading
answers.  They are checked completely before anything is done.  Generous limits keep exercises
readable and runs short.

## Main definitions

* `Setting` — the settings, with their options on the command line.
* `Settings` — their values.
* `Task` — what is to be done.
* `Settings.task` — the task that some settings ask for.
-/

namespace ArithDrill

/-- The settings that may be given. -/
inductive Setting where
  /-- How many exercises to generate. -/
  | count
  /-- The bound of their numbers. -/
  | bound
  /-- The file of exercises to grade. -/
  | exercises
  /-- The file of answers to grade. -/
  | answers
  /-- The largest number of operators. -/
  | maxOps
  /-- The seed of the draws. -/
  | seed
  /-- How many sketches may be drawn for each exercise. -/
  | attempts
  /-- The directory to write to. -/
  | output
  deriving DecidableEq, Repr

namespace Setting

/-- All settings. -/
def all : List Setting := [count, bound, exercises, answers, maxOps, seed, attempts, output]

/-- The option by which a setting is given. -/
def flag : Setting → Text
  | count => "-n".toList
  | bound => "-r".toList
  | exercises => "-e".toList
  | answers => "-a".toList
  | maxOps => "--ops-max".toList
  | seed => "--graine".toList
  | attempts => "--tentatives".toList
  | output => "--sortie".toList

end Setting

/-- The values of the settings; those without a value of their own may be absent. -/
structure Settings where
  /-- How many exercises to generate. -/
  count : Option Nat := none
  /-- The bound of their numbers. -/
  bound : Option Nat := none
  /-- The file of exercises to grade. -/
  exercises : Option Path := none
  /-- The file of answers to grade. -/
  answers : Option Path := none
  /-- The largest number of operators. -/
  maxOps : Nat := 3
  /-- The seed of the draws. -/
  seed : Option Nat := none
  /-- How many sketches may be drawn for each exercise. -/
  attempts : Nat := 1000
  /-- The directory to write to. -/
  output : Path := ['.']
  deriving DecidableEq, Repr

/-- What is to be done. -/
inductive Task where
  /-- A series is to be generated, from a seed or from chance. -/
  | generation (order : Order) (seed : Option Nat)
  /-- Answers are to be graded. -/
  | grading (exercises answers : Path)
  deriving DecidableEq, Repr

/-- Why settings ask for no task. -/
inductive SettingsError where
  /-- No task is asked for. -/
  | noTask
  /-- Both tasks are asked for. -/
  | bothTasks
  /-- A setting is missing for the task. -/
  | missing (s : Setting)
  /-- The bound leaves no numbers. -/
  | emptyBound
  /-- The bound is too large. -/
  | largeBound (given : Nat)
  /-- Too many exercises are asked for. -/
  | largeCount (given : Nat)
  /-- The number of operators is out of its limits. -/
  | opsOutOfRange (given : Nat)
  /-- No sketches may be drawn. -/
  | noAttempts
  deriving DecidableEq, Repr

/-- The largest bound. -/
def maxBound : Nat := 1000000

/-- The largest series. -/
def maxCount : Nat := 10000

/-- The largest number of operators. -/
def maxOpsLimit : Nat := 10

/-- The largest number of attempts in all, which larger products are cut down to. -/
def attemptsLimit : Nat := UInt64.size - 1

/-- The wording of a settings error. -/
def SettingsError.message : SettingsError → Text
  | noTask => "aucun mode : donner -n et -r (génération) ou -e et -a (correction)".toList
  | bothTasks =>
    "modes mélangés : -n/-r (génération) et -e/-a (correction) s’excluent".toList
  | missing s => "paramètre manquant : ".toList ++ s.flag
  | emptyBound => "-r doit valoir au moins 1".toList
  | largeBound n =>
    "-r vaut au plus ".toList ++ Decimal.write maxBound ++ " (reçu ".toList ++ Decimal.write n ++
      ")".toList
  | largeCount n =>
    "-n vaut au plus ".toList ++ Decimal.write maxCount ++ " (reçu ".toList ++ Decimal.write n ++
      ")".toList
  | opsOutOfRange n =>
    "--ops-max doit être dans [1, ".toList ++ Decimal.write maxOpsLimit ++ "] (reçu ".toList ++
      Decimal.write n ++ ")".toList
  | noAttempts => "--tentatives doit valoir au moins 1".toList

namespace Settings

/-- Whether a setting for generating is given. -/
def asksGeneration (s : Settings) : Bool := s.count.isSome || s.bound.isSome

/-- Whether a setting for grading is given. -/
def asksGrading (s : Settings) : Bool := s.exercises.isSome || s.answers.isSome

/-- The value of a setting that the task needs. -/
def need {α : Type} (s : Setting) : Option α → Except SettingsError α
  | none => .error (.missing s)
  | some a => .ok a

/-- The order that the settings for generating make up, within the limits. -/
def order (s : Settings) : Except SettingsError Order := do
  let count ← need .count s.count
  let bound ← need .bound s.bound
  if bound < 1 then .error .emptyBound
  else if maxBound < bound then .error (.largeBound bound)
  else if maxCount < count then .error (.largeCount count)
  else if s.maxOps < 1 ∨ maxOpsLimit < s.maxOps then .error (.opsOutOfRange s.maxOps)
  else if s.attempts = 0 then .error .noAttempts
  else .ok ⟨count, bound, s.maxOps, min (s.attempts * max count 1) attemptsLimit⟩

/-- The task that some settings ask for. -/
def task (s : Settings) : Except SettingsError Task :=
  match s.asksGeneration, s.asksGrading with
  | true, true => .error .bothTasks
  | false, false => .error .noTask
  | true, false => do
    let order ← s.order
    return .generation order s.seed
  | false, true => do
    let exercises ← need .exercises s.exercises
    let answers ← need .answers s.answers
    return .grading exercises answers

end Settings

end ArithDrill
