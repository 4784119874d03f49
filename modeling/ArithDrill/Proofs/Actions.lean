import ArithDrill.Command.Program

/-!
# What the program does to a file tree

Of all that happens in surroundings that are a value, the result and the file tree matter here.
The journal grows with every report and is never looked at, so it is left open.

## Main definitions

* `Action` — a computation in surroundings that are a value.
* `Does` — the result of an action and the tree after it.
* `World.keyFor` — the key behind a seed.

## Main statements

* `Does.bind` — one action after another.
* `does_readItems`, `does_prepare`, `does_write` — the single actions.
* `does_writeSeries`, `does_runGeneration`, `does_runGrading` — the tasks, when all goes well.
-/

namespace ArithDrill

/-- A computation in surroundings that are a value. -/
abbrev Action (α : Type) : Type := ExceptT Failure (StateM World) α

/-- The result of an action and the tree after it.  The journal may be any, and the key stays. -/
def Does {α : Type} (x : Action α) (w : World) (r : Except Failure α) (t : FileTree) : Prop :=
  ∃ journal, x.run.run w = (r, ⟨t, journal, w.key⟩)

section

variable {α β : Type} {x : Action α} {f : α → Action β} {w : World} {t t' : FileTree}

theorem does_pure (a : α) (w : World) : Does (pure a : Action α) w (.ok a) w.tree :=
  ⟨w.journal, rfl⟩

theorem does_throw (e : Failure) (w : World) : Does (throw e : Action α) w (.error e) w.tree :=
  ⟨w.journal, rfl⟩

/-- After an action that gives a value, the rest of a program goes on with the value. -/
theorem run_bind_of_run {a : α} {w' : World} (h : x.run.run w = (.ok a, w')) :
    (x >>= f).run.run w = (f a).run.run w' := by
  rw [ExceptT.run_bind, StateT.run_bind, h]
  rfl

/-- One action after another: the second starts in the tree that the first one leaves. -/
theorem Does.bind {a : α} {r : Except Failure β} (h : Does x w (.ok a) t)
    (next : ∀ journal, Does (f a) ⟨t, journal, w.key⟩ r t') : Does (x >>= f) w r t' := by
  obtain ⟨journal, first⟩ := h
  obtain ⟨journal', second⟩ := next journal
  refine ⟨journal', ?_⟩
  rw [run_bind_of_run first, second]

/-! ## The single actions -/

theorem does_report (e : Event) (w : World) : Does (report e) w (.ok ()) w.tree :=
  ⟨⟨e.level, [e]⟩ :: w.journal, rfl⟩

theorem does_reportSteps (es : Thunk (List Event)) (w : World) :
    Does (reportSteps es) w (.ok ()) w.tree :=
  ⟨⟨.debug, es⟩ :: w.journal, rfl⟩

/-- Reading changes nothing and reports nothing. -/
theorem run_readItems (p : Path) (w : World) :
    (readItems p : Action (List Text)).run.run w = (match w.tree.readText p with
      | some t => .ok t.items
      | none => .error (.file (.unreadable p)), w) := by
  have read : (ExceptT.lift (Host.readText p) : Action (Option Text)).run.run w =
      (.ok (w.tree.readText p), w) := rfl
  rw [readItems, run_bind_of_run read]
  cases w.tree.readText p <;> rfl

theorem does_readItems (p : Path) (w : World) :
    Does (readItems p) w (match w.tree.readText p with
      | some t => .ok t.items
      | none => .error (.file (.unreadable p))) w.tree :=
  ⟨w.journal, run_readItems p w⟩

/-- The directory is made, or as much of the way to it as can be made. -/
theorem does_prepare (dir : Path) (w : World) :
    Does (prepare dir) w (if (w.tree.makeDirectory dir).2 then .ok ()
      else .error (.file (.noDirectory dir))) (w.tree.makeDirectory dir).1 := by
  have made : Does (ExceptT.lift (Host.makeDirectory dir)) w (.ok (w.tree.makeDirectory dir).2)
      (w.tree.makeDirectory dir).1 := ⟨w.journal, rfl⟩
  refine made.bind fun journal => ?_
  cases (w.tree.makeDirectory dir).2 with
  | true => exact does_pure _ _
  | false => exact does_throw _ _

/-- The file is written, or the tree stays as it is. -/
theorem does_write (p : Path) (contents : Text) (w : World) :
    Does (write p contents) w (if (w.tree.writeText p contents).2 then .ok ()
      else .error (.file (.unwritable p))) (w.tree.writeText p contents).1 := by
  have written : Does (ExceptT.lift (Host.writeText p contents)) w
      (.ok (w.tree.writeText p contents).2) (w.tree.writeText p contents).1 := ⟨w.journal, rfl⟩
  refine written.bind fun journal => ?_
  cases (w.tree.writeText p contents).2 with
  | true => exact does_pure _ _
  | false => exact does_throw _ _

/-- The key behind a seed. -/
def World.keyFor (w : World) : Option Nat → ChaCha.Key
  | some seed => .ofSeed (.ofNat seed)
  | none => w.key

theorem does_drawKey (seed : Option Nat) (w : World) :
    Does (drawKey seed) w (.ok (w.keyFor seed)) w.tree := by
  cases seed <;> exact ⟨w.journal, rfl⟩

/-! ## The tasks -/

variable {dir : Path}

/-- A series is written when the directory can be made and both files can be written. -/
theorem does_writeSeries {es : List Exercise} {t₁ t₂ t₃ : FileTree}
    (made : w.tree.makeDirectory dir = (t₁, true))
    (first : t₁.writeText (dir.join sheetName) (sheet es) = (t₂, true))
    (second : t₂.writeText (dir.join answersName) (answers es) = (t₃, true)) :
    Does (writeSeries dir es) w (.ok ()) t₃ := by
  have directory := does_prepare dir w
  rw [made] at directory
  refine directory.bind fun journal => ?_
  have sheet_written := does_write (dir.join sheetName) (sheet es) ⟨t₁, journal, w.key⟩
  rw [first] at sheet_written
  refine sheet_written.bind fun journal' => ?_
  have answers_written := does_write (dir.join answersName) (answers es) ⟨t₂, journal', w.key⟩
  rw [second] at answers_written
  exact answers_written.bind fun _ => does_report _ _

/-- When a series can be generated, what is done is writing it. -/
theorem does_runGeneration {o : Order} {seed : Option Nat} {es : List Exercise}
    {r : Except Failure Unit}
    (generated : ((generate o).run (ChaCha.Stream.ofKey (w.keyFor seed))).1 = .ok es)
    (written : ∀ journal, Does (writeSeries dir es) ⟨w.tree, journal, w.key⟩ r t) :
    Does (runGeneration o seed dir) w r t := by
  have result : (o.run.run (ChaCha.Stream.ofKey (w.keyFor seed))).1.result o.count = .ok es := by
    simpa [generate] using generated
  refine (does_drawKey seed w).bind fun _ => ?_
  refine (does_report _ _).bind fun _ => ?_
  refine (does_reportSteps _ _).bind fun _ => ?_
  rw [result]
  exact (does_report _ _).bind fun journal => written journal

/-- When no series can be generated, nothing is written. -/
theorem does_runGeneration_error {o : Order} {seed : Option Nat} {e : GenerationError}
    (failed : ((generate o).run (ChaCha.Stream.ofKey (w.keyFor seed))).1 = .error e) :
    Does (runGeneration o seed dir) w (.error (.generation e)) w.tree := by
  have result : (o.run.run (ChaCha.Stream.ofKey (w.keyFor seed))).1.result o.count = .error e := by
    simpa [generate] using failed
  refine (does_drawKey seed w).bind fun _ => ?_
  refine (does_report _ _).bind fun _ => ?_
  refine (does_reportSteps _ _).bind fun _ => ?_
  rw [result]
  cases e with
  | shortage made asked attempts => exact (does_report _ _).bind fun _ => does_throw _ _
  | broken x => exact does_throw _ _

/-- A grade is written when the directory can be made and the file can be written. -/
theorem does_writeGrade {g : Grade} {t₁ t₂ : FileTree}
    (made : w.tree.makeDirectory dir = (t₁, true))
    (first : t₁.writeText (dir.join gradeName) g.render = (t₂, true)) :
    Does (writeGrade dir g) w (.ok ()) t₂ := by
  have directory := does_prepare dir w
  rw [made] at directory
  refine directory.bind fun journal => ?_
  have grade_written := does_write (dir.join gradeName) g.render ⟨t₁, journal, w.key⟩
  rw [first] at grade_written
  exact grade_written.bind fun _ => does_report _ _

/-- When both files can be read and there is a grade, what is done is writing it. -/
theorem does_runGrading {exercises answers : Path} {sheetText answersText : Text} {g : Grade}
    {r : Except Failure Unit} (first : w.tree.readText exercises = some sheetText)
    (second : w.tree.readText answers = some answersText)
    (graded : grade sheetText.items answersText.items = .ok g)
    (written : ∀ journal, Does (writeGrade dir g) ⟨w.tree, journal, w.key⟩ r t) :
    Does (runGrading exercises answers dir) w r t := by
  have sheet_read := does_readItems exercises w
  rw [first] at sheet_read
  refine sheet_read.bind fun journal => ?_
  have answers_read := does_readItems answers ⟨w.tree, journal, w.key⟩
  rw [second] at answers_read
  refine answers_read.bind fun _ => ?_
  simp only [graded]
  have rest (journal : List Report) :
      Does (do
        reportSteps (gradingEvents sheetText.items answersText.items)
        report (.graded g)
        writeGrade dir g) ⟨w.tree, journal, w.key⟩ r t := by
    refine (does_reportSteps _ _).bind fun _ => ?_
    exact (does_report _ _).bind fun journal => written journal
  -- a warning of uneven files comes first, if there is reason for one
  by_cases uneven : sheetText.items.length ≠ answersText.items.length
  · rw [if_pos uneven]
    exact (does_report _ _).bind fun journal => rest journal
  · rw [if_neg uneven]
    exact rest _

end

end ArithDrill
