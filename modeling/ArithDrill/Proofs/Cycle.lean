import ArithDrill.Proofs.Actions
import ArithDrill.Proofs.Grading
import ArithDrill.Proofs.Requests
import ArithDrill.Proofs.Soundness
import ArithDrill.Proofs.Trees

/-!
# From a series to its grade

A series that has been generated is written to two files.  Reading these gives the lines and the
answers back, evaluating a line anew gives its answer back, and so does reading an answer in school
form.  So the answers that come with a series are all graded right, and other answers are graded
right where they have the same value.

## Main definitions

* `FileTree.Accepts` — a directory to which a file can be written.
* `FileTree.Made` — a tree in which a directory has been made.
* `Grade.Lists` — what a grade has to list.
* `Settings.GradesIn` — settings that ask for grading the files of a series.

## Main statements

* `exists_executed` — the task of generating leaves the files of the series.
* `FileTree.Holds.exists_grading` — grading the files of a series and of some answers.
* `generate_write_grade` — generating, writing, reading back and grading.
-/

namespace ArithDrill

open FileTree

/-! ## A directory for the files -/

/-- A directory that can be made, and to which a file with the given name can be written. -/
def FileTree.Accepts (t : FileTree) (dir : Path) (name : Text) : Prop :=
  ∃ t' u, t.makeDirectory dir = (t', true) ∧ t'.writeText (dir.join name) [] = (u, true)

/-- A tree `t` with the directories of `t₀`, where the directory `dir` has been made. -/
def FileTree.Made (t₀ : FileTree) (dir : Path) (t : FileTree) : Prop :=
  ∃ t₁, t₀.makeDirectory dir = (t₁, true) ∧ SameDirectories t₁ t

variable {t₀ t t' : FileTree} {dir : Path} {name contents : Text}

theorem FileTree.Accepts.exists_made (h : t₀.Accepts dir name) :
    ∃ t, t₀.makeDirectory dir = (t, true) ∧ t₀.Made dir t := by
  obtain ⟨t, u, made, -⟩ := h
  exact ⟨t, made, t, made, .refl t⟩

/-- Only the directories matter. -/
theorem FileTree.Made.same (h : t₀.Made dir t) (same : SameDirectories t t') : t₀.Made dir t' := by
  obtain ⟨t₁, made, same₁⟩ := h
  exact ⟨t₁, made, same₁.trans same⟩

/-- The directory is there and need not be made again. -/
theorem FileTree.Made.makeDirectory (h : t₀.Made dir t) : t.makeDirectory dir = (t, true) := by
  obtain ⟨t₁, made, same⟩ := h
  exact makeDirectory_again made same

/-- One step: a file that could be written from the start can be written, and the directories stay
as they are. -/
theorem FileTree.Made.exists_write (h : t₀.Made dir t) (accepts : t₀.Accepts dir name)
    (contents : Text) :
    ∃ t', t.writeText (dir.join name) contents = (t', true) ∧ t₀.Made dir t' := by
  obtain ⟨t₁, made, same⟩ := h
  obtain ⟨t₂, u, made', writable⟩ := accepts
  obtain rfl : t₁ = t₂ := congrArg Prod.fst (made.symm.trans made')
  obtain ⟨t', written⟩ := exists_writeText writable same contents
  exact ⟨t', written, t₁, made, same.trans (sameDirectories_writeText written)⟩

theorem FileTree.Made.accepts (h : t₀.Made dir t) (accepts : t₀.Accepts dir name) :
    t.Accepts dir name := by
  obtain ⟨u, writable, -⟩ := h.exists_write accepts []
  exact ⟨t, u, h.makeDirectory, writable⟩

theorem isPlain_sheetName : Path.IsPlain sheetName := ⟨by decide, by decide, by decide⟩

theorem isPlain_answersName : Path.IsPlain answersName := ⟨by decide, by decide, by decide⟩

/-- The answers are not written over the sheet. -/
theorem readText_sheet (written : t.writeText (dir.join answersName) contents = (t', true)) :
    t'.readText (dir.join sheetName) = t.readText (dir.join sheetName) := by
  obtain ⟨l, located, -⟩ := writeText_eq_true_iff.1 written
  refine readText_writeText_of_ne written fun same => ?_
  exact locate_join_ne isPlain_sheetName isPlain_answersName (by decide) (same.trans located)
    located rfl

/-! ## Grading the files of a series -/

/-- A grade that lists the answers `rs` to the exercises `es` by whether they are right. -/
structure Grade.Lists (g : Grade) (es : List Exercise) (rs : List Rat) : Prop where
  /-- The right answers are those that are the value of their exercise. -/
  mem_right : ∀ i, i ∈ g.right ↔
    1 ≤ i ∧ ∃ e r, es[i - 1]? = some e ∧ rs[i - 1]? = some r ∧ r = e.value
  /-- The wrong answers are the others. -/
  mem_wrong : ∀ i, i ∈ g.wrong ↔
    1 ≤ i ∧ ∃ e r, es[i - 1]? = some e ∧ rs[i - 1]? = some r ∧ r ≠ e.value
  /-- The right answers are listed in order. -/
  pairwise_right : g.right.Pairwise (· < ·)
  /-- The wrong answers are listed in order. -/
  pairwise_wrong : g.wrong.Pairwise (· < ·)

/-- The marks of some answers to some exercises. -/
def answerMarks (es : List Exercise) (rs : List Rat) : List Bool :=
  (es.zip rs).map fun p => p.2 == p.1.value

theorem getElem?_answerMarks {es : List Exercise} {rs : List Rat} {j : Nat} {b : Bool} :
    (answerMarks es rs)[j]? = some b ↔
      ∃ e r, es[j]? = some e ∧ rs[j]? = some r ∧ (r == e.value) = b := by
  simp [answerMarks, List.getElem?_zip_eq_some, and_assoc]

/-- Marking answers by their values lists them as they have to be listed. -/
theorem lists_ofMarks (es : List Exercise) (rs : List Rat) :
    (Grade.ofMarks (answerMarks es rs)).Lists es rs where
  mem_right := by
    intro i
    simp only [Grade.mem_right_iff, getElem?_answerMarks, beq_iff_eq]
  mem_wrong := by
    intro i
    simp only [Grade.mem_wrong_iff, getElem?_answerMarks, beq_eq_false_iff_ne]
  pairwise_right := Grade.pairwise_right _
  pairwise_wrong := Grade.pairwise_wrong _

/-- Answers in school form are marked by their values. -/
theorem grade_schoolForm {es : List Exercise} {rs : List Rat}
    (values : ∀ e ∈ es, evaluate e.text = .ok (some e.value)) (nonneg : ∀ r ∈ rs, 0 ≤ r) :
    grade (es.map Exercise.text) (rs.map schoolForm) = .ok (.ofMarks (answerMarks es rs)) := by
  have marks : ((es.map Exercise.text).zip (rs.map schoolForm)).map (fun p => mark p.1 p.2)
      = answerMarks es rs := by
    rw [List.zip_map, List.map_map, answerMarks]
    refine List.map_congr_left ?_
    rintro ⟨e, r⟩ hp
    obtain ⟨he, hr⟩ := List.of_mem_zip hp
    have expected : valueOf? e.text = some e.value := valueOf?_eq_some_iff.2 (values e he)
    simp [mark, expected, readNumber_schoolForm (nonneg r hr)]
  rw [grade_eq, marks]

/-- The values of a series are all right. -/
theorem answerMarks_self (es : List Exercise) :
    answerMarks es (es.map Exercise.value) = List.replicate es.length true := by
  rw [List.eq_replicate_iff]
  constructor
  · simp [answerMarks]
  · intro b hb
    obtain ⟨j, hj⟩ := List.mem_iff_getElem?.1 hb
    obtain ⟨e, r, first, second, rfl⟩ := getElem?_answerMarks.1 hj
    rw [List.getElem?_map, first, Option.map_some] at second
    simpa using (Option.some.inj second).symm

theorem items_sheet {es : List Exercise} (h : ∀ e ∈ es, e.text.IsItem) :
    (sheet es).items = es.map Exercise.text := by
  refine Text.items_ofItems ?_
  intro l hl
  obtain ⟨e, he, rfl⟩ := List.mem_map.1 hl
  exact h e he

theorem items_schoolForm {rs : List Rat} (h : ∀ r ∈ rs, 0 ≤ r) :
    (Text.ofItems (rs.map schoolForm)).items = rs.map schoolForm := by
  refine Text.items_ofItems ?_
  intro l hl
  obtain ⟨r, hr, rfl⟩ := List.mem_map.1 hl
  exact isItem_schoolForm (h r hr)

/-- A tree that holds the sheet of a series and some answers in school form. -/
structure FileTree.Holds (t : FileTree) (dir : Path) (es : List Exercise) (rs : List Rat) :
    Prop where
  /-- The sheet is that of the series. -/
  sheet_eq : t.readText (dir.join sheetName) = some (sheet es)
  /-- The answers are in school form. -/
  answers_eq : t.readText (dir.join answersName) = some (Text.ofItems (rs.map schoolForm))

/-- Writing answers beside the sheet of a series. -/
theorem FileTree.Made.exists_holds {es : List Exercise} (h : t₀.Made dir t)
    (accepts : t₀.Accepts dir answersName)
    (sheet_eq : t.readText (dir.join sheetName) = some (sheet es)) (rs : List Rat) :
    ∃ t', t.writeText (dir.join answersName) (Text.ofItems (rs.map schoolForm)) = (t', true) ∧
      t₀.Made dir t' ∧ t'.Holds dir es rs := by
  obtain ⟨t', written, made⟩ := h.exists_write accepts (Text.ofItems (rs.map schoolForm))
  refine ⟨t', written, made, ?_, readText_writeText written⟩
  rw [readText_sheet written, sheet_eq]

/-- Settings that ask for grading the two files that are in the directory `dir` of a tree `t`.  The
tree `v` in which this is done has the same files and directories, perhaps with another working
directory, and the two files are given by any paths that lead to them.  The grade can be written: in
the same directory, if it could be written there in the tree `t₀` from which `t` comes, or in any
directory that accepts it now. -/
structure Settings.GradesIn (dir : Path) (t₀ t v : FileTree) (g : Settings) : Prop where
  /-- The files and directories are the same. -/
  entries_eq : ∀ l, v.find? l = t.find? l
  /-- The files are those in the directory. -/
  files : ∃ p q, g.task = .ok (.grading p q) ∧ v.locate p = t.locate (dir.join sheetName) ∧
    v.locate q = t.locate (dir.join answersName)
  /-- The grade can be written. -/
  accepts : (v.base = t.base ∧ g.output = dir ∧ t₀.Accepts dir gradeName) ∨
    v.Accepts g.output gradeName

/-- Grading the files of a series writes the grade of the answers. -/
theorem FileTree.Holds.exists_grading {v : World} {g : Settings} {es : List Exercise}
    {rs : List Rat} (h : t.Holds dir es rs) (made : t₀.Made dir t)
    (asked : g.GradesIn dir t₀ t v.tree) (items : ∀ e ∈ es, e.text.IsItem)
    (values : ∀ e ∈ es, evaluate e.text = .ok (some e.value)) (nonneg : ∀ r ∈ rs, 0 ≤ r) :
    ∃ v', v.execute g = (.ok (), v') ∧ v'.tree.readText (g.output.join gradeName) =
      some (Grade.ofMarks (answerMarks es rs)).render := by
  have graded : grade (sheet es).items (Text.ofItems (rs.map schoolForm)).items
      = .ok (.ofMarks (answerMarks es rs)) := by
    rw [items_sheet items, items_schoolForm nonneg, grade_schoolForm values nonneg]
  have accepts : v.tree.Accepts g.output gradeName := by
    rcases asked.accepts with ⟨base, output, before⟩ | now
    · rw [output]
      exact (made.same (sameDirectories_of_find? base asked.entries_eq)).accepts before
    · exact now
  obtain ⟨t', u, there, writable⟩ := accepts
  obtain ⟨t'', written⟩ := exists_writeText writable (.refl t')
    (Grade.ofMarks (answerMarks es rs)).render
  obtain ⟨p, q, task_eq, first, second⟩ := asked.files
  have sheet_read := (readText_congr asked.entries_eq first).trans h.sheet_eq
  have answers_read := (readText_congr asked.entries_eq second).trans h.answers_eq
  have run : Does g.execute v (.ok ()) t'' := by
    rw [Settings.execute, task_eq]
    exact does_runGrading sheet_read answers_read graded
      fun journal => does_writeGrade there written
  obtain ⟨journal, executed⟩ := run
  exact ⟨_, executed, readText_writeText written⟩

/-! ## The whole way -/

/-- The text of a grade with `n` right answers and no others. -/
theorem render_all_right (n : Nat) :
    (Grade.ofMarks (List.replicate n true)).render =
      "Correct: ".toList ++ Decimal.write n ++ " (".toList ++
        ", ".toList.intercalate ((List.range' 1 n).map Decimal.write) ++
        ")\nWrong: 0 ()\n".toList := by
  have none_wrong : Grade.line "Wrong".toList [] = "Wrong: 0 ()\n".toList := by decide
  have ends : ")\nWrong: 0 ()\n".toList = ")\n".toList ++ "Wrong: 0 ()\n".toList := by decide
  have begins : "Correct: ".toList = "Correct".toList ++ ": ".toList := by decide
  rw [Grade.ofMarks_replicate, Grade.render, none_wrong, Grade.line, Grade.enumerate,
    List.length_range', ends, begins]
  simp only [List.append_assoc]

/-- A task of generating has room for a number and an operator. -/
theorem one_le_of_task {s : Settings} {o : Order} {seed : Option Nat}
    (h : s.task = .ok (.generation o seed)) : 1 ≤ o.bound ∧ 1 ≤ o.maxOps := by
  obtain ⟨-, -, asks⟩ := Settings.task_eq_generation_iff.1 h
  refine ⟨asks.one_le_bound, ?_⟩
  rw [asks.maxOps_eq]
  exact asks.one_le_maxOps

/-- A task of generating does not succeed without a series. -/
theorem exists_generated {w : World} {s : Settings} {o : Order} {seed : Option Nat}
    (asked : s.task = .ok (.generation o seed)) (succeeds : (w.execute s).1 = .ok ()) :
    ∃ es, ((generate o).run (ChaCha.Stream.ofKey (w.keyFor seed))).1 = .ok es := by
  cases generated : ((generate o).run (ChaCha.Stream.ofKey (w.keyFor seed))).1 with
  | ok es => exact ⟨es, rfl⟩
  | error e =>
    have run : Does s.execute w (.error (.generation e)) w.tree := by
      rw [Settings.execute, asked]
      exact does_runGeneration_error generated
    obtain ⟨journal, executed⟩ := run
    have failed : (w.execute s).1 = .error (.generation e) := congrArg Prod.fst executed
    rw [failed] at succeeds
    simp at succeeds

/-- When a series can be generated, the task leaves the sheet and the answers in the directory. -/
theorem exists_executed {w : World} {s : Settings} {o : Order} {seed : Option Nat}
    {es : List Exercise} (asked : s.task = .ok (.generation o seed))
    (accepts : ∀ name ∈ [sheetName, answersName], w.tree.Accepts s.output name)
    (generated : ((generate o).run (ChaCha.Stream.ofKey (w.keyFor seed))).1 = .ok es) :
    ∃ w', w.execute s = (.ok (), w') ∧ w.tree.Made s.output w'.tree ∧
      w'.tree.Holds s.output es (es.map Exercise.value) := by
  have sheet_accepted := accepts sheetName (by decide)
  have answers_accepted := accepts answersName (by decide)
  -- the three trees on the way: with the directory, with the sheet, with the answers
  obtain ⟨t₁, made, made₁⟩ := sheet_accepted.exists_made
  obtain ⟨t₂, sheet_written, made₂⟩ := made₁.exists_write sheet_accepted (sheet es)
  obtain ⟨t₃, answers_written, made₃, holds⟩ := made₂.exists_holds answers_accepted
    (readText_writeText sheet_written) (es.map Exercise.value)
  have run : Does s.execute w (.ok ()) t₃ := by
    rw [Settings.execute, asked]
    refine does_runGeneration generated fun journal => does_writeSeries made sheet_written ?_
    rw [answers, ← answers_written, List.map_map]
    rfl
  obtain ⟨journal, executed⟩ := run
  exact ⟨_, executed, made₃, holds⟩

/-- Generating a series, writing it, reading it back and grading.  The directory must be one that
can be made and to which the two files can be written; the file of the grade is asked for only
where one is written.  Then the task succeeds exactly if a series can be generated.  The series has
the size asked for, and what is read from the sheet are its lines.  When the sheet and the answers
as they were written are graded, from whichever directory, all answers are right.  When the answers
are replaced by any numbers in school form, those are right that are the value of their exercise. -/
theorem generate_write_grade (w : World) (s : Settings) (o : Order) (seed : Option Nat)
    (asked : s.task = .ok (.generation o seed))
    (accepts : ∀ name ∈ [sheetName, answersName], w.tree.Accepts s.output name) :
    ((w.execute s).1 = .ok () ↔
      ∃ es, ((generate o).run (ChaCha.Stream.ofKey (w.keyFor seed))).1 = .ok es) ∧
    ∀ es, ((generate o).run (ChaCha.Stream.ofKey (w.keyFor seed))).1 = .ok es →
      es.length = o.count ∧ ∃ w', w.execute s = (.ok (), w') ∧
      (readItems (s.output.join sheetName) : Action (List Text)).run.run w' =
        (.ok (es.map Exercise.text), w') ∧
      (∀ (v : World) (g : Settings), g.GradesIn s.output w.tree w'.tree v.tree →
        ∃ v', v.execute g = (.ok (), v') ∧ v'.tree.readText (g.output.join gradeName) =
          some ("Correct: ".toList ++ Decimal.write es.length ++ " (".toList ++
            ", ".toList.intercalate ((List.range' 1 es.length).map Decimal.write) ++
            ")\nWrong: 0 ()\n".toList)) ∧
      ∀ rs : List Rat, (∀ r ∈ rs, 0 ≤ r) →
        ∃ t, w'.tree.writeText (s.output.join answersName) (Text.ofItems (rs.map schoolForm)) =
            (t, true) ∧
          ∀ (v : World) (g : Settings), g.GradesIn s.output w.tree t v.tree →
            ∃ (v' : World) (marks : Grade), v.execute g = (.ok (), v') ∧
              v'.tree.readText (g.output.join gradeName) = some marks.render ∧
              marks.Lists es rs := by
  obtain ⟨some_bound, some_op⟩ := one_le_of_task asked
  constructor
  · constructor
    · exact exists_generated asked
    · rintro ⟨es, generated⟩
      obtain ⟨w', executed, -⟩ := exists_executed asked accepts generated
      rw [executed]
  intro es generated
  obtain ⟨length, -, sound⟩ := sound_of_generate some_bound some_op generated
  have items : ∀ e ∈ es, e.text.IsItem := fun e he => (sound e he).isItem
  have values : ∀ e ∈ es, evaluate e.text = .ok (some e.value) :=
    fun e he => (sound e he).evaluate_text
  have nonneg_values : ∀ r ∈ es.map Exercise.value, 0 ≤ r := by
    intro r hr
    obtain ⟨e, he, rfl⟩ := List.mem_map.1 hr
    exact (sound e he).nonneg
  obtain ⟨w', executed, made, holds⟩ := exists_executed asked accepts generated
  refine ⟨length, w', executed, ?_, ?_, ?_⟩
  · rw [run_readItems, holds.sheet_eq]
    dsimp only
    rw [items_sheet items]
  · intro v g grades
    rw [← render_all_right, ← answerMarks_self]
    exact holds.exists_grading made grades items values nonneg_values
  · intro rs nonneg
    obtain ⟨t, replaced, made', holds'⟩ :=
      made.exists_holds (accepts answersName (by decide)) holds.sheet_eq rs
    refine ⟨t, replaced, ?_⟩
    intro v g grades
    obtain ⟨v', graded, text⟩ := holds'.exists_grading made' grades items values nonneg
    exact ⟨v', _, graded, text, lists_ofMarks es rs⟩

/-- The series of one exercise from the seed 14 is `3 ÷ 5 =`.  It is written to a directory next to
the one in which the program works.  Its own answer is graded right, and the answer two is graded
as the value of the exercise says. -/
theorem graded_quotient :
    let w := World.ofTree ⟨[], ["home".toList]⟩
    let s : Settings :=
      { count := some 1, bound := some 10, maxOps := 1, seed := some 14, attempts := 1,
        output := "../series".toList }
    let g : Settings :=
      { exercises := some "../series/Exercises.txt".toList,
        answers := some "../series/Answers.txt".toList, output := "../series".toList }
    let e : Exercise := ⟨"3 ÷ 5 =".toList, 3 / 5, "(3÷5)".toList⟩
    s.task = .ok (.generation ⟨1, 10, 1, 1⟩ (some 14)) ∧
    (∀ name ∈ [sheetName, answersName], w.tree.Accepts s.output name) ∧
    ((generate ⟨1, 10, 1, 1⟩).run (ChaCha.Stream.ofKey (w.keyFor (some 14)))).1 = .ok [e] ∧
    (∀ t, g.GradesIn s.output w.tree t t) ∧ (∀ r ∈ [(2 : Rat)], 0 ≤ r) ∧
    ∃ w' v' v'' t marks, w.execute s = (.ok (), w') ∧ w'.execute g = (.ok (), v') ∧
      v'.tree.readText "../series/Grade.txt".toList =
        some "Correct: 1 (1)\nWrong: 0 ()\n".toList ∧
      w'.tree.writeText "../series/Answers.txt".toList "2\n".toList = (t, true) ∧
      (World.ofTree t).execute g = (.ok (), v'') ∧
      v''.tree.readText "../series/Grade.txt".toList = some (Grade.render marks) ∧
      marks.Lists [e] [2] := by
  intro w s g e
  have asked : s.task = .ok (.generation ⟨1, 10, 1, 1⟩ (some 14)) := rfl
  have accepts : ∀ name ∈ [sheetName, answersName, gradeName], w.tree.Accepts s.output name := by
    intro name hname
    simp only [List.mem_cons, List.not_mem_nil, or_false] at hname
    rcases hname with rfl | rfl | rfl
    · exact ⟨_, _, by cbv, by cbv⟩
    · exact ⟨_, _, by cbv, by cbv⟩
    · exact ⟨_, _, by cbv, by cbv⟩
  have series_accepted : ∀ name ∈ [sheetName, answersName], w.tree.Accepts s.output name :=
    fun name hname => accepts name (List.mem_append_left [gradeName] hname)
  have generated :
      ((generate ⟨1, 10, 1, 1⟩).run (ChaCha.Stream.ofKey (w.keyFor (some 14)))).1 = .ok [e] := by
    show _ = Except.ok [(⟨"3 ÷ 5 =".toList, 3 / 5, "(3÷5)".toList⟩ : Exercise)]
    cbv
  have grades : ∀ t, g.GradesIn s.output w.tree t t := fun t =>
    ⟨fun _ => rfl, ⟨_, _, rfl, rfl, rfl⟩, .inl ⟨rfl, rfl, accepts gradeName (by decide)⟩⟩
  have nonneg : ∀ r ∈ [(2 : Rat)], 0 ≤ r := by decide
  obtain ⟨-, w', executed, -, own, others⟩ :=
    (generate_write_grade w s ⟨1, 10, 1, 1⟩ (some 14) asked series_accepted).2 [e] generated
  obtain ⟨v', graded, text⟩ := own w' g (grades _)
  obtain ⟨t, replaced, again⟩ := others [2] nonneg
  obtain ⟨v'', marks, graded', text', lists⟩ := again (World.ofTree t) g (grades _)
  exact ⟨asked, series_accepted, generated, grades, nonneg, w', v', v'', t, marks, executed, graded,
    text.trans (congrArg some (by decide)), replaced, graded', text', lists⟩

end ArithDrill
