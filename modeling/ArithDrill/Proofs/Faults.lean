import ArithDrill.Proofs.Changes
import ArithDrill.Proofs.Cycle

/-!
# What a run changes when the surroundings fail

Surroundings may refuse any operation on files, whatever the tree would allow.  Writing a file
that is refused leaves it as it was, and making a directory that is refused may stop on the way.
Then every way in which a task ends leaves the tree in an order that can be told from the result:
nothing is written before the whole task is computed, and files are written one after another.

## Main definitions

* `Response` — how the surroundings respond to an operation on files.
* `FaultyWorld` — surroundings with the responses that they will give.
* `Ends` — what an action comes to.
* `Stored` — what writing some files into a directory comes to.

## Main statements

* `Ends.bind` — one action after another.
* `ends_prepare_bind`, `ends_write_bind` — one step of writing.
* `FaultyWorld.execute_eq` — surroundings that refuse nothing are those without responses.
* `FaultyWorld.execute_changes` — what a run changes.
-/

namespace ArithDrill

open FileTree

/-! ## Surroundings that may refuse -/

/-- How the surroundings respond to an operation on files. -/
inductive Response where
  /-- It is done, if the tree allows it. -/
  | served
  /-- It is refused; the directories for the first components of a path may have been made. -/
  | refused (made : Nat)
  deriving DecidableEq, Repr

/-- Surroundings that may refuse what they are asked for. -/
structure FaultyWorld where
  /-- The surroundings themselves. -/
  world : World
  /-- The responses to the operations to come; when there are none left, all are served. -/
  responses : List Response

namespace FaultyWorld

/-- The files and directories. -/
def tree (w : FaultyWorld) : FileTree := w.world.tree

/-- Responds to an operation on files. -/
def respond {α : Type} (serve : FileTree → α × FileTree) (refuse : Nat → FileTree → α × FileTree)
    (w : FaultyWorld) : α × FaultyWorld :=
  let (a, tree) := match w.responses.head? with
    | some (.refused made) => refuse made w.tree
    | _ => serve w.tree
  (a, ⟨{ w.world with tree }, w.responses.tail⟩)

end FaultyWorld

instance : Host (StateM FaultyWorld) where
  readText p := modifyGet (FaultyWorld.respond (fun t => (t.readText p, t)) fun _ t => (none, t))
  makeDirectory p := modifyGet (FaultyWorld.respond (fun t => (t.makeDirectory p).swap)
    fun made t => (false, t.makeSome made p))
  writeText p text := modifyGet (FaultyWorld.respond (fun t => (t.writeText p text).swap)
    fun _ t => (false, t))
  report r := modify fun w => { w with world := { w.world with journal := r :: w.world.journal } }
  freshKey := do return (← get).world.key

/-- A computation in surroundings that may refuse. -/
abbrev FaultyAction (α : Type) : Type := ExceptT Failure (StateM FaultyWorld) α

/-- Does what some settings ask for, in surroundings that may refuse. -/
def FaultyWorld.execute (w : FaultyWorld) (s : Settings) : Except Failure Unit × FaultyWorld :=
  (s.execute : FaultyAction Unit).run.run w

variable {α β : Type}

/-! ## Surroundings that refuse nothing -/

/-- Two actions that do the same when nothing is refused. -/
def Mirrors (x : FaultyAction α) (y : Action α) : Prop :=
  ∀ w : World, x.run.run ⟨w, []⟩ = ((y.run.run w).1, ⟨(y.run.run w).2, []⟩)

section

variable {x : FaultyAction α} {y : Action α} {f : α → FaultyAction β} {g : α → Action β}

theorem mirrors_pure (a : α) : Mirrors (pure a) (pure a) := fun _ => rfl

theorem mirrors_throw (e : Failure) : Mirrors (throw e : FaultyAction α) (throw e) := fun _ => rfl

theorem Mirrors.bind (h : Mirrors x y) (next : ∀ a, Mirrors (f a) (g a)) :
    Mirrors (x >>= f) (y >>= g) := by
  intro w
  rw [ExceptT.run_bind, ExceptT.run_bind, StateT.run_bind, StateT.run_bind, h w]
  obtain ⟨r, w'⟩ := y.run.run w
  cases r with
  | error e => rfl
  | ok a => exact next a w'

theorem mirrors_report (e : Event) : Mirrors (report e) (report e) := fun _ => rfl

theorem mirrors_reportSteps (es : Thunk (List Event)) :
    Mirrors (reportSteps es) (reportSteps es) := fun _ => rfl

theorem mirrors_drawKey (seed : Option Nat) : Mirrors (drawKey seed) (drawKey seed) := by
  cases seed <;> exact fun _ => rfl

theorem mirrors_readItems (p : Path) : Mirrors (readItems p) (readItems p) := by
  refine Mirrors.bind (fun _ => rfl) fun text => ?_
  cases text with
  | none => exact mirrors_throw _
  | some text => exact mirrors_pure _

/-- An operation that may fail, where the failure ends the task. -/
theorem mirrors_check {x : FaultyAction Bool} {y : Action Bool} (h : Mirrors x y) (e : Failure) :
    Mirrors (do if ← x then return () else throw e) (do if ← y then return () else throw e) := by
  refine h.bind fun done => ?_
  cases done with
  | false => exact mirrors_throw _
  | true => exact mirrors_pure _

theorem mirrors_prepare (dir : Path) : Mirrors (prepare dir) (prepare dir) :=
  mirrors_check (fun _ => rfl) _

theorem mirrors_write (p : Path) (text : Text) : Mirrors (write p text) (write p text) :=
  mirrors_check (fun _ => rfl) _

theorem mirrors_writeSeries (dir : Path) (es : List Exercise) :
    Mirrors (writeSeries dir es) (writeSeries dir es) := by
  refine (mirrors_prepare dir).bind fun _ => ?_
  refine (mirrors_write _ _).bind fun _ => ?_
  exact (mirrors_write _ _).bind fun _ => mirrors_report _

theorem mirrors_runGeneration (o : Order) (seed : Option Nat) (dir : Path) :
    Mirrors (runGeneration o seed dir) (runGeneration o seed dir) := by
  refine (mirrors_drawKey seed).bind fun key => ?_
  refine (mirrors_report _).bind fun _ => ?_
  refine (mirrors_reportSteps _).bind fun _ => ?_
  cases (o.run.run (ChaCha.Stream.ofKey key)).1.result o.count with
  | ok es => exact (mirrors_report _).bind fun _ => mirrors_writeSeries dir es
  | error e =>
    cases e with
    | shortage made asked attempts => exact (mirrors_report _).bind fun _ => mirrors_throw _
    | broken e => exact mirrors_throw _

theorem mirrors_writeGrade (dir : Path) (g : Grade) :
    Mirrors (writeGrade dir g) (writeGrade dir g) := by
  refine (mirrors_prepare dir).bind fun _ => ?_
  exact (mirrors_write _ _).bind fun _ => mirrors_report _

theorem mirrors_runGrading (exercises answers dir : Path) :
    Mirrors (runGrading exercises answers dir) (runGrading exercises answers dir) := by
  refine (mirrors_readItems exercises).bind fun es => ?_
  refine (mirrors_readItems answers).bind fun as => ?_
  obtain ⟨g, graded⟩ : ∃ g, grade es as = .ok g := ⟨_, grade_eq es as⟩
  simp only [graded]
  have rest : Mirrors (do
      reportSteps (gradingEvents es as)
      report (.graded g)
      writeGrade dir g) (do
      reportSteps (gradingEvents es as)
      report (.graded g)
      writeGrade dir g) := by
    refine (mirrors_reportSteps _).bind fun _ => ?_
    exact (mirrors_report _).bind fun _ => mirrors_writeGrade dir g
  by_cases uneven : es.length ≠ as.length
  · rw [if_pos uneven, if_pos uneven]
    exact (mirrors_report _).bind fun _ => rest
  · rw [if_neg uneven, if_neg uneven]
    exact rest

end

/-- Surroundings that have no responses left refuse nothing. -/
theorem FaultyWorld.execute_eq (w : World) (s : Settings) :
    execute ⟨w, []⟩ s = ((w.execute s).1, ⟨(w.execute s).2, []⟩) := by
  have mirrors : Mirrors s.execute s.execute := by
    unfold Settings.execute
    cases s.task with
    | error e => exact mirrors_throw _
    | ok task =>
      cases task with
      | generation o seed => exact mirrors_runGeneration o seed s.output
      | grading p q => exact mirrors_runGrading p q s.output
  exact mirrors w

/-! ## What an action comes to -/

/-- An action ends with a result and a tree as described. -/
def Ends (x : FaultyAction α) (w : FaultyWorld) (post : Except Failure α → FileTree → Prop) :
    Prop :=
  post (x.run.run w).1 (x.run.run w).2.tree

/-- An action gives a value and leaves the tree as it is. -/
def Gives (x : FaultyAction α) (w : FaultyWorld) (a : α) : Prop :=
  Ends x w fun r t => r = .ok a ∧ t = w.tree

section

variable {x : FaultyAction α} {f : α → FaultyAction β} {w : FaultyWorld}
  {mid : Except Failure α → FileTree → Prop} {post : Except Failure β → FileTree → Prop}

theorem Ends.mono {post' : Except Failure α → FileTree → Prop} (h : Ends x w mid)
    (le : ∀ r t, mid r t → post' r t) : Ends x w post' := le _ _ h

/-- One action after another: the second starts in a tree that the first one leaves, unless the
first one fails. -/
theorem Ends.bind (h : Ends x w mid) (failed : ∀ e t, mid (.error e) t → post (.error e) t)
    (next : ∀ a w', mid (.ok a) w'.tree → Ends (f a) w' post) : Ends (x >>= f) w post := by
  unfold Ends at h ⊢
  rw [ExceptT.run_bind, StateT.run_bind]
  generalize x.run.run w = result at h
  obtain ⟨r, w'⟩ := result
  cases r with
  | error e => exact failed e _ h
  | ok a => exact next a w' h

theorem Gives.bind {a : α} (h : Gives x w a)
    (next : ∀ w' : FaultyWorld, w'.tree = w.tree → Ends (f a) w' post) :
    Ends (x >>= f) w post := by
  refine Ends.bind h (by simp) fun b w' there => ?_
  obtain ⟨same, tree⟩ := there
  obtain rfl := Except.ok.inj same
  exact next w' tree

theorem gives_report (e : Event) (w : FaultyWorld) : Gives (report e) w () := ⟨rfl, rfl⟩

theorem gives_reportSteps (es : Thunk (List Event)) (w : FaultyWorld) :
    Gives (reportSteps es) w () := ⟨rfl, rfl⟩

theorem gives_drawKey (seed : Option Nat) (w : FaultyWorld) :
    Gives (drawKey seed) w (w.world.keyFor seed) := by
  cases seed <;> exact ⟨rfl, rfl⟩

end

/-- An operation is served, or it is refused. -/
theorem ends_respond (serve : FileTree → α × FileTree) (refuse : Nat → FileTree → α × FileTree)
    (w : FaultyWorld) :
    Ends (ExceptT.lift (modifyGet (FaultyWorld.respond serve refuse))) w fun r t =>
      (r = .ok (serve w.tree).1 ∧ t = (serve w.tree).2) ∨
      ∃ made, r = .ok (refuse made w.tree).1 ∧ t = (refuse made w.tree).2 := by
  obtain ⟨world, responses⟩ := w
  cases responses with
  | nil => exact .inl ⟨rfl, rfl⟩
  | cons r rs =>
    cases r with
    | served => exact .inl ⟨rfl, rfl⟩
    | refused made => exact .inr ⟨made, rfl, rfl⟩

/-- What is read is the text of the file before, and reading changes nothing. -/
theorem ends_readItems (p : Path) (w : FaultyWorld) :
    Ends (readItems p) w fun r t => t = w.tree ∧
      (r = .error (.file (.unreadable p)) ∨
        ∃ text, w.tree.readText p = some text ∧ r = .ok text.items) := by
  have read : Ends (ExceptT.lift (Host.readText p)) w fun r t => t = w.tree ∧
      (r = .ok none ∨ r = .ok (w.tree.readText p)) := by
    refine (ends_respond (fun t => (t.readText p, t)) (fun _ t => (none, t)) w).mono ?_
    rintro r t (⟨rfl, rfl⟩ | ⟨-, rfl, rfl⟩)
    · exact ⟨rfl, .inr rfl⟩
    · exact ⟨rfl, .inl rfl⟩
  refine read.bind (by simp) fun text w' there => ?_
  obtain ⟨same, answer⟩ := there
  cases text with
  | none => exact ⟨same, .inl rfl⟩
  | some text =>
    rcases answer with none | found
    · simp at none
    · exact ⟨same, .inr ⟨text, (Except.ok.inj found).symm, rfl⟩⟩

/-- An operation that may fail, where the failure ends the task. -/
theorem ends_check {x : FaultyAction Bool} {w : FaultyWorld} {after : Bool → FileTree → Prop}
    (h : Ends x w fun r t => ∃ done, r = .ok done ∧ after done t) (e : Failure) :
    Ends (do if ← x then return () else throw e) w fun r t =>
      (r = .ok () ∧ after true t) ∨ (r = .error e ∧ after false t) := by
  refine h.bind (by simp) fun done w' there => ?_
  obtain ⟨done', same, tree⟩ := there
  obtain rfl := Except.ok.inj same
  cases done with
  | false => exact .inr ⟨rfl, tree⟩
  | true => exact .inl ⟨rfl, tree⟩

/-- The directory is made, or only directories on the way to it. -/
theorem ends_prepare (dir : Path) (w : FaultyWorld) :
    Ends (prepare dir) w fun r t =>
      (r = .ok () ∧ Changed dir [] w.tree t) ∨
      (r = .error (.file (.noDirectory dir)) ∧ Changed dir [] w.tree t) := by
  refine @ends_check _ _ (fun _ => Changed dir [] w.tree) ?_ _
  refine (ends_respond (fun t => (t.makeDirectory dir).swap)
    (fun made t => (false, t.makeSome made dir)) w).mono ?_
  rintro r t (⟨rfl, rfl⟩ | ⟨made, rfl, rfl⟩)
  · refine ⟨_, rfl, ?_⟩
    rw [Prod.snd_swap, makeDirectory_fst]
    exact changed_makeSome _ _ _
  · exact ⟨_, rfl, changed_makeSome _ _ _⟩

/-- The file is written, or the tree stays as it is. -/
theorem ends_write (p : Path) (text : Text) (w : FaultyWorld) :
    Ends (write p text) w fun r t =>
      (r = .ok () ∧ w.tree.writeText p text = (t, true)) ∨
      (r = .error (.file (.unwritable p)) ∧ t = w.tree) := by
  refine @ends_check _ _ (fun done t =>
    if done then w.tree.writeText p text = (t, true) else t = w.tree) ?_ _
  refine (ends_respond (fun t => (t.writeText p text).swap) (fun _ t => (false, t)) w).mono ?_
  rintro r t (⟨rfl, rfl⟩ | ⟨-, rfl, rfl⟩)
  · refine ⟨_, rfl, ?_⟩
    rw [Prod.fst_swap, Prod.snd_swap]
    cases done : (w.tree.writeText p text).2 with
    | false => exact fst_writeText done
    | true => exact Prod.ext rfl done
  · exact ⟨_, rfl, rfl⟩

/-! ## Writing files one after another -/

/-- What writing some files into a directory comes to, starting from a tree `t`: each file is given
by its name and its text. -/
inductive Stored (dir : Path) (files : List (Text × Text)) (t : FileTree) :
    Except Failure Unit → FileTree → Prop where
  /-- All files are written. -/
  | all {t' : FileTree} (changed : Changed dir files t t') : Stored dir files t (.ok ()) t'
  /-- The directory could not be made, and no file is written. -/
  | noDirectory {t' : FileTree} (changed : Changed dir [] t t') :
    Stored dir files t (.error (.file (.noDirectory dir))) t'
  /-- One file could not be written; those before it are, and no others. -/
  | unwritable {t' : FileTree} (front : List (Text × Text)) (f : Text × Text)
    (back : List (Text × Text)) (parts : files = front ++ f :: back)
    (changed : Changed dir front t t') :
    Stored dir files t (.error (.file (.unwritable (dir.join f.1)))) t'

theorem isPlain_gradeName : Path.IsPlain gradeName := ⟨by decide, by decide, by decide⟩

/-- Files with different plain names. -/
structure OwnNames (files : List (Text × Text)) : Prop where
  /-- Each name leads to an entry of the directory. -/
  plain : ∀ f ∈ files, Path.IsPlain f.1
  /-- The names are different. -/
  nodup : (files.map Prod.fst).Nodup

section

variable {dir : Path} {files back : List (Text × Text)} {f : Text × Text} {t : FileTree}
  {w : FaultyWorld} {next : Unit → FaultyAction Unit}

/-- The first step: the directory is made, or the task ends. -/
theorem ends_prepare_bind
    (rest : ∀ w' : FaultyWorld, Changed dir [] w.tree w'.tree →
      Ends (next ()) w' (Stored dir files w.tree)) :
    Ends (prepare dir >>= next) w (Stored dir files w.tree) := by
  refine (ends_prepare dir w).bind ?_ fun _ w' there => ?_
  · rintro e t (⟨made, -⟩ | ⟨failed, changed⟩)
    · simp at made
    · rw [failed]
      exact .noDirectory changed
  · rcases there with ⟨-, changed⟩ | ⟨failed, -⟩
    · exact rest w' changed
    · simp at failed

/-- One step: the next file is written, or the task ends. -/
theorem ends_write_bind (front : List (Text × Text)) (names : OwnNames files)
    (parts : files = front ++ f :: back) (before : Changed dir front t w.tree)
    (rest : ∀ w' : FaultyWorld, Changed dir (front ++ [f]) t w'.tree →
      Ends (next ()) w' (Stored dir files t)) :
    Ends (write (dir.join f.1) f.2 >>= next) w (Stored dir files t) := by
  refine (ends_write _ _ w).bind ?_ fun _ w' there => ?_
  · rintro e u (⟨done, -⟩ | ⟨failed, rfl⟩)
    · simp at done
    · rw [failed]
      exact .unwritable front f back parts before
  · rcases there with ⟨-, done⟩ | ⟨failed, -⟩
    · refine rest w' (before.write (names.plain f (by simp [parts])) (fun g hg => ?_) done)
      have nodup := names.nodup
      rw [parts, List.map_append, List.nodup_append] at nodup
      exact ⟨names.plain g (by simp [parts, hg]),
        nodup.2.2 _ (List.mem_map_of_mem hg) _ (by simp)⟩
    · simp at failed

end

/-- Writing a series is writing its two files. -/
theorem ends_writeSeries (dir : Path) (es : List Exercise) (w : FaultyWorld) :
    Ends (writeSeries dir es) w
      (Stored dir [(sheetName, sheet es), (answersName, answers es)] w.tree) := by
  have names : OwnNames [(sheetName, sheet es), (answersName, answers es)] :=
    ⟨by simp [isPlain_sheetName, isPlain_answersName], by simp; decide⟩
  unfold writeSeries
  apply ends_prepare_bind
  intro w₁ made
  apply ends_write_bind [] names rfl made
  intro w₂ first
  apply ends_write_bind [(sheetName, sheet es)] names rfl first
  intro w₃ second
  exact .all second

/-- Writing a grade is writing its file. -/
theorem ends_writeGrade (dir : Path) (g : Grade) (w : FaultyWorld) :
    Ends (writeGrade dir g) w (Stored dir [(gradeName, g.render)] w.tree) := by
  have names : OwnNames [(gradeName, g.render)] :=
    ⟨by simpa using isPlain_gradeName, by simp⟩
  unfold writeGrade
  apply ends_prepare_bind
  intro w₁ made
  apply ends_write_bind [] names rfl made
  intro w₂ first
  exact .all first

/-! ## The tasks -/

/-- When a series can be generated, what is done is writing it. -/
theorem ends_runGeneration {o : Order} {seed : Option Nat} {dir : Path} {w : FaultyWorld}
    {es : List Exercise}
    (generated : ((generate o).run (ChaCha.Stream.ofKey (w.world.keyFor seed))).1 = .ok es) :
    Ends (runGeneration o seed dir) w
      (Stored dir [(sheetName, sheet es), (answersName, answers es)] w.tree) := by
  have result : (o.run.run (ChaCha.Stream.ofKey (w.world.keyFor seed))).1.result o.count =
      .ok es := by
    rw [← run_generate, generated]
  unfold runGeneration
  apply (gives_drawKey seed w).bind
  intro w₁ same₁
  apply (gives_report _ w₁).bind
  intro w₂ same₂
  apply (gives_reportSteps _ w₂).bind
  intro w₃ same₃
  rw [result]
  apply (gives_report _ w₃).bind
  intro w₄ same₄
  rw [← same₁, ← same₂, ← same₃, ← same₄]
  exact ends_writeSeries dir es w₄

/-- When no series can be generated, nothing is written. -/
theorem ends_runGeneration_error {o : Order} {seed : Option Nat} {dir : Path} {w : FaultyWorld}
    {e : GenerationError}
    (failed : ((generate o).run (ChaCha.Stream.ofKey (w.world.keyFor seed))).1 = .error e) :
    Ends (runGeneration o seed dir) w fun r t => r = .error (.generation e) ∧ t = w.tree := by
  have result : (o.run.run (ChaCha.Stream.ofKey (w.world.keyFor seed))).1.result o.count =
      .error e := by
    rw [← run_generate, failed]
  unfold runGeneration
  apply (gives_drawKey seed w).bind
  intro w₁ same₁
  apply (gives_report _ w₁).bind
  intro w₂ same₂
  apply (gives_reportSteps _ w₂).bind
  intro w₃ same₃
  rw [result, ← same₁, ← same₂, ← same₃]
  cases e with
  | shortage made asked attempts =>
    apply (gives_report _ w₃).bind
    intro w₄ same₄
    exact ⟨rfl, same₄⟩
  | broken x => exact ⟨rfl, rfl⟩

/-- Nothing is written before both files have been read and graded. -/
theorem ends_runGrading (p q dir : Path) (w : FaultyWorld) :
    Ends (runGrading p q dir) w fun r t =>
      (r = .error (.file (.unreadable p)) ∨ r = .error (.file (.unreadable q))) ∧ t = w.tree ∨
      ∃ exercises answers g, w.tree.readText p = some exercises ∧
        w.tree.readText q = some answers ∧ grade exercises.items answers.items = .ok g ∧
        Stored dir [(gradeName, g.render)] w.tree r t := by
  unfold runGrading
  apply (ends_readItems p w).bind
  · rintro e t ⟨same, failed | ⟨text, -, read⟩⟩
    · obtain rfl := Except.error.inj failed
      exact .inl ⟨.inl rfl, same⟩
    · simp at read
  rintro es w₁ ⟨same₁, failed | ⟨exercises, found₁, read₁⟩⟩
  · simp at failed
  obtain rfl := Except.ok.inj read₁
  apply (ends_readItems q w₁).bind
  · rintro e t ⟨same, failed | ⟨text, -, read⟩⟩
    · obtain rfl := Except.error.inj failed
      exact .inl ⟨.inr rfl, same.trans same₁⟩
    · simp at read
  rintro as w₂ ⟨same₂, failed | ⟨answers, found₂, read₂⟩⟩
  · simp at failed
  obtain rfl := Except.ok.inj read₂
  rw [same₁] at found₂ same₂
  obtain ⟨g, graded⟩ : ∃ g, grade exercises.items answers.items = .ok g := ⟨_, grade_eq _ _⟩
  simp only [graded]
  have rest (w₃ : FaultyWorld) (same₃ : w₃.tree = w.tree) :
      Ends (do
        reportSteps (gradingEvents exercises.items answers.items)
        report (.graded g)
        writeGrade dir g) w₃ (Stored dir [(gradeName, g.render)] w.tree) := by
    apply (gives_reportSteps _ w₃).bind
    intro w₄ same₄
    apply (gives_report _ w₄).bind
    intro w₅ same₅
    rw [← same₃, ← same₄, ← same₅]
    exact ends_writeGrade dir g w₅
  refine @Ends.mono _ _ _ (Stored dir [(gradeName, g.render)] w.tree) _ ?_ fun r t stored =>
    .inr ⟨exercises, answers, g, found₁, found₂, graded, stored⟩
  -- a warning of uneven files comes first, if there is reason for one
  by_cases uneven : exercises.items.length ≠ answers.items.length
  · rw [if_pos uneven]
    apply (gives_report _ w₂).bind
    intro w₃ same₃
    exact rest w₃ (same₃.trans same₂)
  · rw [if_neg uneven]
    exact rest w₂ same₂

namespace FaultyWorld

/-- What a run changes, whatever the surroundings refuse; without refusals it is a run in the
surroundings as they are.  If the settings are not accepted or no series can be generated, then
nothing changes.  A series is written to its two files, and nothing else changes but directories
that were missing on the way; if a directory or file cannot be written, then the files after it are
as before.  So it is with the file of a grade, which is the grade of the files as they were before
the run, wherever they are; if one of these cannot be read, then nothing changes. -/
theorem execute_changes (w : FaultyWorld) (s : Settings) :
    (w.responses = [] →
      w.execute s = ((w.world.execute s).1, ⟨(w.world.execute s).2, []⟩)) ∧
    (∀ e, s.task = .error e →
      (w.execute s).1 = .error (.settings e) ∧ (w.execute s).2.tree = w.tree) ∧
    (∀ o seed, s.task = .ok (.generation o seed) →
      (∀ e, ((generate o).run (ChaCha.Stream.ofKey (w.world.keyFor seed))).1 = .error e →
        (w.execute s).1 = .error (.generation e) ∧ (w.execute s).2.tree = w.tree) ∧
      ∀ es, ((generate o).run (ChaCha.Stream.ofKey (w.world.keyFor seed))).1 = .ok es →
        Stored s.output [(sheetName, sheet es), (answersName, answers es)] w.tree
          (w.execute s).1 (w.execute s).2.tree) ∧
    ∀ p q, s.task = .ok (.grading p q) →
      ((w.execute s).1 = .error (.file (.unreadable p)) ∨
        (w.execute s).1 = .error (.file (.unreadable q))) ∧ (w.execute s).2.tree = w.tree ∨
      ∃ exercises answers g, w.tree.readText p = some exercises ∧
        w.tree.readText q = some answers ∧ grade exercises.items answers.items = .ok g ∧
        Stored s.output [(gradeName, g.render)] w.tree (w.execute s).1 (w.execute s).2.tree := by
  refine ⟨?_, ?_, ?_, ?_⟩
  · intro none_left
    obtain ⟨world, responses⟩ := w
    obtain rfl : responses = [] := none_left
    exact execute_eq world s
  · intro e refused
    rw [execute, Settings.execute, refused]
    exact ⟨rfl, rfl⟩
  · intro o seed asked
    rw [execute, Settings.execute, asked]
    exact ⟨fun e failed => ends_runGeneration_error failed,
      fun es generated => ends_runGeneration generated⟩
  · intro p q asked
    rw [execute, Settings.execute, asked]
    exact ends_runGrading p q s.output w

/-- When the second file of a series is refused, only the first one is written.  A file that is
graded may be the one that the grade is written to, by another path.  Without settings nothing
happens. -/
theorem changes_second_refused :
    let w : FaultyWorld := ⟨.ofTree .empty, [.served, .served, .refused 0]⟩
    let s : Settings :=
      { count := some 1, bound := some 10, maxOps := 1, seed := some 14, attempts := 1 }
    let es : List Exercise := [⟨"3 ÷ 5 =".toList, 3 / 5, "(3÷5)".toList⟩]
    let home : FileTree := ⟨[], ["home".toList]⟩
    let v : FaultyWorld := ⟨.ofTree ((home.addFile ["Grade.txt".toList]
      (.text "1 + 1 =\n".toList)).addFile ["Answers.txt".toList] (.text "2\n".toList)), []⟩
    let g : Settings :=
      { exercises := some "../home/Grade.txt".toList, answers := some "./Answers.txt".toList,
        output := "/home".toList }
    (w.execute {}).2.tree = w.tree ∧
    ((generate ⟨1, 10, 1, 1⟩).run (ChaCha.Stream.ofKey (w.world.keyFor (some 14)))).1 = .ok es ∧
    Stored s.output [(sheetName, sheet es), (answersName, answers es)] w.tree
      (.error (.file (.unwritable "./Answers.txt".toList))) (w.execute s).2.tree ∧
    v.execute g = ((v.world.execute g).1, ⟨(v.world.execute g).2, []⟩) ∧
    Stored g.output [(gradeName, "Correct: 1 (1)\nWrong: 0 ()\n".toList)] v.tree (.ok ())
      (v.execute g).2.tree := by
  have marked :
      grade (Text.items "1 + 1 =\n".toList) (Text.items "2\n".toList) = .ok ⟨[1], []⟩ := by cbv
  intro w s es home v g
  have generated :
      ((generate ⟨1, 10, 1, 1⟩).run (ChaCha.Stream.ofKey (w.world.keyFor (some 14)))).1 =
        .ok es := by
    show _ = Except.ok [(⟨"3 ÷ 5 =".toList, 3 / 5, "(3÷5)".toList⟩ : Exercise)]
    cbv
  have refused : (w.execute s).1 = .error (.file (.unwritable "./Answers.txt".toList)) := by cbv
  have graded : (v.execute g).1 = .ok () := by rfl
  obtain ⟨-, without, -, -⟩ := execute_changes w {}
  obtain ⟨-, -, series, -⟩ := execute_changes w s
  obtain ⟨served, -, -, grading⟩ := execute_changes v g
  have stored := (series ⟨1, 10, 1, 1⟩ (some 14) rfl).2 es generated
  rw [refused] at stored
  refine ⟨(without .noTask rfl).2, generated, stored, served rfl, ?_⟩
  -- the grade is that of what the two files hold before the run
  have exercises_read : v.tree.readText "../home/Grade.txt".toList = some "1 + 1 =\n".toList := rfl
  have answers_read : v.tree.readText "./Answers.txt".toList = some "2\n".toList := rfl
  rcases grading _ _ rfl with ⟨unreadable, -⟩ | ⟨x, y, marks, first, second, found, stored⟩
  · simp [graded] at unreadable
  · obtain rfl := Option.some.inj (first.symm.trans exercises_read)
    obtain rfl := Option.some.inj (second.symm.trans answers_read)
    obtain rfl := Except.ok.inj (found.symm.trans marked)
    rw [graded] at stored
    exact stored

end FaultyWorld

end ArithDrill
