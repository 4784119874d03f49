import ArithDrill.Command.Arguments
import ArithDrill.Command.Host
import ArithDrill.Journal.Generation
import ArithDrill.Journal.Grading
import ArithDrill.Journal.Task

/-!
# The program

A task is computed completely before the first file is written.  Generating writes a sheet and
its answers, grading reads a sheet and answers and writes a grade.

## Main definitions

* `Settings.execute` — does what some settings ask for.
* `launch` — runs a command line.
* `World.execute`, `World.launch` — the same, as functions of the surroundings.
-/

namespace ArithDrill

/-- What cannot be done with a file. -/
inductive FileError where
  /-- A file cannot be read as a text. -/
  | unreadable (p : Path)
  /-- A directory cannot be made. -/
  | noDirectory (p : Path)
  /-- A file cannot be written. -/
  | unwritable (p : Path)
  deriving DecidableEq, Repr

/-- Why a task fails. -/
inductive Failure where
  /-- The settings ask for no task. -/
  | settings (e : SettingsError)
  /-- There is no series. -/
  | generation (e : GenerationError)
  /-- There is no grade. -/
  | grading (e : EvalError)
  /-- A file cannot be used. -/
  | file (e : FileError)
  deriving DecidableEq, Repr

/-- The wording of a file error. -/
def FileError.message : FileError → Text
  | unreadable p => "lecture impossible : ".toList ++ p
  | noDirectory p => "dossier de sortie impossible : ".toList ++ p
  | unwritable p => "écriture impossible : ".toList ++ p

/-- The wording of a failure. -/
def Failure.message : Failure → Text
  | settings e => e.message
  | generation e => e.message
  | grading e => e.message
  | file e => e.message

/-- The name of the sheet of exercises. -/
def sheetName : Text := "Exercises.txt".toList

/-- The name of the file of answers. -/
def answersName : Text := "Answers.txt".toList

/-- The name of the grade file. -/
def gradeName : Text := "Grade.txt".toList

section

variable {m : Type → Type} [Monad m] [Host m]

/-- Reports an event. -/
def report (e : Event) : ExceptT Failure m Unit := ExceptT.lift (Host.report ⟨e.level, [e]⟩)

/-- Reports the single steps of a computation. -/
def reportSteps (es : Thunk (List Event)) : ExceptT Failure m Unit :=
  ExceptT.lift (Host.report ⟨.debug, es⟩)

/-- The items of a file. -/
def readItems (p : Path) : ExceptT Failure m (List Text) := do
  match ← ExceptT.lift (Host.readText p) with
  | some t => return t.items
  | none => throw (.file (.unreadable p))

/-- Makes the directory to write to. -/
def prepare (dir : Path) : ExceptT Failure m Unit := do
  if ← ExceptT.lift (Host.makeDirectory dir) then return ()
  else throw (.file (.noDirectory dir))

/-- Writes a file. -/
def write (p : Path) (t : Text) : ExceptT Failure m Unit := do
  if ← ExceptT.lift (Host.writeText p t) then return ()
  else throw (.file (.unwritable p))

/-- The key of the draws: that of the seed, or a fresh one. -/
def drawKey : Option Nat → ExceptT Failure m ChaCha.Key
  | some seed => pure (.ofSeed (.ofNat seed))
  | none => ExceptT.lift Host.freshKey

/-- Writes a series into a directory. -/
def writeSeries (dir : Path) (es : List Exercise) : ExceptT Failure m Unit := do
  let sheetPath := dir.join sheetName
  let answersPath := dir.join answersName
  prepare dir
  write sheetPath (sheet es)
  write answersPath (answers es)
  report (.seriesWritten sheetPath answersPath es.length)

/-- Generates a series and writes it into a directory. -/
def runGeneration (o : Order) (seed : Option Nat) (dir : Path) : ExceptT Failure m Unit := do
  let key ← drawKey seed
  report (.generating o seed)
  let run := (o.run.run (ChaCha.Stream.ofKey key)).1
  reportSteps run.events
  match run.result o.count with
  | .error (.shortage made asked attempts) =>
    report (.exhausted made asked attempts)
    throw (.generation (.shortage made asked attempts))
  | .error e => throw (.generation e)
  | .ok es =>
    report (.generated es.length run.attempts o.bound)
    writeSeries dir es

/-- Writes a grade into a directory. -/
def writeGrade (dir : Path) (g : Grade) : ExceptT Failure m Unit := do
  let path := dir.join gradeName
  prepare dir
  write path g.render
  report (.gradeWritten path)

/-- Grades the answers of one file to the exercises of another, and writes the grade into a
directory. -/
def runGrading (exercises answers dir : Path) : ExceptT Failure m Unit := do
  let es ← readItems exercises
  let as ← readItems answers
  if es.length ≠ as.length then report (.unevenFiles es.length as.length)
  reportSteps (gradingEvents es as)
  match grade es as with
  | .error e => throw (.grading e)
  | .ok g =>
    report (.graded g)
    writeGrade dir g

/-- Does what some settings ask for. -/
def Settings.execute (s : Settings) : ExceptT Failure m Unit :=
  match s.task with
  | .error e => throw (.settings e)
  | .ok (.generation order seed) => runGeneration order seed s.output
  | .ok (.grading exercises answers) => runGrading exercises answers s.output

/-- How a run of the program ends. -/
inductive Ending where
  /-- The task is done. -/
  | done
  /-- The task failed, which has been reported. -/
  | failed (e : Failure)
  /-- The command line has been read no further. -/
  | interrupted (i : Interruption)
  deriving DecidableEq, Repr

/-- The exit code of an ending. -/
def Ending.code : Ending → Nat
  | done => 0
  | failed _ => 1
  | interrupted .help => 0
  | interrupted .version => 0
  | interrupted (.refused _) => 2

/-- The name and version of the program. -/
def versionLine : Text := "exercices-qpur 0.1.0\n".toList

/-- What an ending puts on standard output. -/
def Ending.output : Ending → Text
  | interrupted .version => versionLine
  | _ => []

/-- Runs a command line. -/
def launch (args : List Text) : m Ending :=
  match Settings.ofArguments args with
  | .error i => pure (.interrupted i)
  | .ok s => do
    match ← s.execute.run with
    | .ok () => return .done
    | .error e =>
      Host.report ⟨.error, [Event.failure e.message]⟩
      return .failed e

end

namespace World

/-- Does what some settings ask for, in surroundings that are a value. -/
def execute (w : World) (s : Settings) : Except Failure Unit × World :=
  (s.execute : ExceptT Failure (StateM World) Unit).run.run w

/-- Runs a command line in surroundings that are a value. -/
def launch (w : World) (args : List Text) : Ending × World :=
  (ArithDrill.launch args : StateM World Ending).run w

end World

end ArithDrill
