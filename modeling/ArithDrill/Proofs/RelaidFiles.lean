import ArithDrill.Proofs.Faults
import ArithDrill.Proofs.Layout

/-!
# Grading files whatever their layout

A task of grading reads files through their items alone.  Two trees whose files differ in layout
have the same directories, so each operation on files comes to the same in both and leaves trees
whose files differ in layout.  So does an action that is put together from such operations, and
the grade that is written is the same.

## Main definitions

* `Entry.Relaid`, `FileTree.Relaid` — entries and trees whose texts differ in layout.
* `IgnoresLayout` — an action that comes to the same in both trees.

## Main statements

* `FileTree.Relaid.items_readText`, `FileTree.Relaid.makeDirectory`, `FileTree.Relaid.writeText` —
  the operations on files.
* `IgnoresLayout.bind` — one action after another.
* `ignoresLayout_runGrading` — grading ignores the layout.
* `World.exists_grade_of_execute` — the grade that is written is that of the items of both files.
* `World.execute_relaid`, `World.exists_grade_of_relaid` — grading files with another layout.
* `reading_ignores_layout` — reading undoes writing and ignores the layout, and so does grading.
-/

namespace ArithDrill

/-! ## Trees -/

/-- Contents that are the same but for the layout of a text. -/
inductive Contents.Relaid : Contents → Contents → Prop where
  /-- The contents are the same. -/
  | same (c : Contents) : Relaid c c
  /-- The text has another layout. -/
  | text {a b : Text} (h : a.Relaid b) : Relaid (.text a) (.text b)

/-- Entries that are the same but for the layout of a text. -/
inductive Entry.Relaid : Entry → Entry → Prop where
  /-- Both are directories. -/
  | directory : Relaid .directory .directory
  /-- Both are files. -/
  | file {c c' : Contents} (h : c.Relaid c') : Relaid (.file c) (.file c')

theorem Entry.Relaid.refl (e : Entry) : e.Relaid e := by
  cases e with
  | file c => exact .file (.same c)
  | directory => exact .directory

theorem Contents.Relaid.items_text? {c c' : Contents} (h : c.Relaid c') :
    c'.text?.map Text.items = c.text?.map Text.items := by
  cases h with
  | same c => rfl
  | text layout => exact congrArg some (Text.items_eq_of_relaid layout)

namespace FileTree

/-- Trees that are the same but for the layout of texts. -/
structure Relaid (t t' : FileTree) : Prop where
  /-- The working directory is the same. -/
  base_eq : t'.base = t.base
  /-- The entries are the same but for the layout. -/
  entries : ∀ l, Option.Rel Entry.Relaid (t.find? l) (t'.find? l)

variable {t t' : FileTree} {l : Location}

theorem Relaid.refl (t : FileTree) : t.Relaid t := by
  refine ⟨rfl, fun l => ?_⟩
  cases t.find? l with
  | none => exact .none
  | some e => exact .some (.refl e)

/-- What is found at a place: nothing, a directory or a file in both trees. -/
theorem Relaid.find?_cases (h : t.Relaid t') (l : Location) :
    (t.find? l = none ∧ t'.find? l = none) ∨
    (t.find? l = some .directory ∧ t'.find? l = some .directory) ∨
    ∃ c c', t.find? l = some (.file c) ∧ t'.find? l = some (.file c') ∧ c.Relaid c' := by
  have here := h.entries l
  generalize t.find? l = found, t'.find? l = found' at here ⊢
  cases here with
  | none => exact .inl ⟨rfl, rfl⟩
  | some entries =>
    cases entries with
    | directory => exact .inr (.inl ⟨rfl, rfl⟩)
    | file contents => exact .inr (.inr ⟨_, _, rfl, rfl, contents⟩)

theorem Relaid.sameDirectories (h : t.Relaid t') : SameDirectories t t' := by
  refine ⟨h.base_eq, fun l => ?_⟩
  rcases h.find?_cases l with ⟨none, none'⟩ | ⟨dir, dir'⟩ | ⟨c, c', file, file', -⟩
  · simp [hasDirectory, none, none']
  · simp [hasDirectory, dir, dir']
  · simp [hasDirectory, file, file', Entry.isDirectory]

/-- Entries are put at the same place of both trees. -/
theorem Relaid.put (h : t.Relaid t') (hl : t.hasDirectory l = false) {e e' : Entry}
    (entries : e.Relaid e') : (t.put l e).Relaid (t'.put l e') := by
  have hl' : t'.hasDirectory l = false := by rw [h.sameDirectories.hasDirectory_eq, hl]
  refine ⟨h.base_eq, fun k => ?_⟩
  rw [find?_put hl, find?_put hl']
  split
  · exact .some entries
  · exact h.entries k

/-- What is read from a file has the same items. -/
theorem Relaid.items_readText (h : t.Relaid t') (p : Path) :
    (t'.readText p).map Text.items = (t.readText p).map Text.items := by
  unfold readText
  rw [locate_congr h.sameDirectories]
  cases t.locate p with
  | none => rfl
  | some l =>
    rcases h.find?_cases l with ⟨none, none'⟩ | ⟨dir, dir'⟩ | ⟨c, c', file, file', contents⟩
    · simp [none, none']
    · simp [dir, dir']
    · simpa [file, file'] using contents.items_text?

/-- Directories are made in both trees alike. -/
theorem Relaid.makeFrom (h : t.Relaid t') (l : Location) (cs : List Text) :
    (t'.makeFrom l cs).2 = (t.makeFrom l cs).2 ∧
      (t.makeFrom l cs).1.Relaid (t'.makeFrom l cs).1 := by
  induction cs generalizing t t' l with
  | nil => exact ⟨rfl, h⟩
  | cons c cs ih =>
    rw [FileTree.makeFrom, FileTree.makeFrom]
    split
    · exact ih h l
    split
    · exact ih h l.dropLast
    -- the next component is missing, a directory or a file, in both trees
    rcases h.find?_cases (l ++ [c]) with ⟨none, none'⟩ | ⟨dir, dir'⟩ | ⟨_, _, file, file', -⟩
    · simp only [none, none']
      split
      · exact ⟨rfl, h⟩
      · exact ih (h.put (hasDirectory_of_eq_none none) .directory) (l ++ [c])
    · simp only [dir, dir']
      exact ih h (l ++ [c])
    · simp only [file, file']
      exact ⟨trivial, h⟩

theorem Relaid.makeDirectory (h : t.Relaid t') (p : Path) :
    (t'.makeDirectory p).2 = (t.makeDirectory p).2 ∧
      (t.makeDirectory p).1.Relaid (t'.makeDirectory p).1 := by
  rw [FileTree.makeDirectory, FileTree.makeDirectory, start_congr h.base_eq]
  split
  · exact h.makeFrom (t.start p) p.components
  · exact ⟨rfl, h⟩

/-- A text is written to both trees alike. -/
theorem Relaid.writeText (h : t.Relaid t') (p : Path) (contents : Text) :
    (t'.writeText p contents).2 = (t.writeText p contents).2 ∧
      (t.writeText p contents).1.Relaid (t'.writeText p contents).1 := by
  unfold FileTree.writeText
  rw [locate_congr h.sameDirectories]
  cases t.locate p with
  | none => exact ⟨rfl, h⟩
  | some l =>
    dsimp only
    rw [h.sameDirectories.hasDirectory_eq l]
    split
    · exact ⟨rfl, h⟩
    · rename_i no_directory
      exact ⟨rfl, h.put (Bool.eq_false_iff.2 no_directory) (.refl _)⟩

end FileTree

/-! ## Actions -/

/-- An action that comes to the same in two trees that are the same but for the layout of texts,
and leaves such trees. -/
def IgnoresLayout {α : Type} (x : Action α) : Prop :=
  ∀ w w' : World, w.tree.Relaid w'.tree →
    (x.run.run w').1 = (x.run.run w).1 ∧ (x.run.run w).2.tree.Relaid (x.run.run w').2.tree

section

variable {α β : Type} {x : Action α} {f : α → Action β}

theorem ignoresLayout_pure (a : α) : IgnoresLayout (pure a : Action α) :=
  fun _ _ trees => ⟨rfl, trees⟩

theorem ignoresLayout_throw (e : Failure) : IgnoresLayout (throw e : Action α) :=
  fun _ _ trees => ⟨rfl, trees⟩

theorem ignoresLayout_report (e : Event) : IgnoresLayout (report e) :=
  fun _ _ trees => ⟨rfl, trees⟩

theorem ignoresLayout_reportSteps (es : Thunk (List Event)) : IgnoresLayout (reportSteps es) :=
  fun _ _ trees => ⟨rfl, trees⟩

/-- One action after another: the second starts in trees that the first one leaves. -/
theorem IgnoresLayout.bind (h : IgnoresLayout x) (next : ∀ a, IgnoresLayout (f a)) :
    IgnoresLayout (x >>= f) := by
  intro w w' trees
  obtain ⟨results, trees'⟩ := h w w' trees
  rw [ExceptT.run_bind, StateT.run_bind, StateT.run_bind]
  generalize x.run.run w = first at results trees'
  generalize x.run.run w' = first' at results trees'
  obtain ⟨r, v⟩ := first
  obtain ⟨r', v'⟩ := first'
  obtain rfl : r' = r := results
  cases r' with
  | error e => exact ⟨rfl, trees'⟩
  | ok a => exact next a v v' trees'

/-- Files are read by their items. -/
theorem ignoresLayout_readItems (p : Path) : IgnoresLayout (readItems p) := by
  intro w w' trees
  have result (v : World) : ((readItems p : Action (List Text)).run.run v).1 =
      match (v.tree.readText p).map Text.items with
      | some es => .ok es
      | none => .error (.file (.unreadable p)) := by
    rw [run_readItems]
    cases v.tree.readText p <;> rfl
  constructor
  · rw [result, result, trees.items_readText]
  · rw [run_readItems, run_readItems]
    exact trees

/-- An operation that may fail, where the failure ends the task. -/
theorem ignoresLayout_check {x : Action Bool} (h : IgnoresLayout x) (e : Failure) :
    IgnoresLayout (do if ← x then return () else throw e) := by
  refine h.bind fun done => ?_
  cases done with
  | false => exact ignoresLayout_throw e
  | true => exact ignoresLayout_pure ()

theorem ignoresLayout_prepare (dir : Path) : IgnoresLayout (prepare dir) := by
  have made : IgnoresLayout (ExceptT.lift (Host.makeDirectory dir) : Action Bool) := by
    intro w w' trees
    obtain ⟨results, trees'⟩ := trees.makeDirectory dir
    exact ⟨congrArg Except.ok results, trees'⟩
  exact ignoresLayout_check made _

theorem ignoresLayout_write (p : Path) (contents : Text) : IgnoresLayout (write p contents) := by
  have written : IgnoresLayout (ExceptT.lift (Host.writeText p contents) : Action Bool) := by
    intro w w' trees
    obtain ⟨results, trees'⟩ := trees.writeText p contents
    exact ⟨congrArg Except.ok results, trees'⟩
  exact ignoresLayout_check written _

theorem ignoresLayout_writeGrade (dir : Path) (g : Grade) : IgnoresLayout (writeGrade dir g) := by
  refine (ignoresLayout_prepare dir).bind fun _ => ?_
  exact (ignoresLayout_write _ _).bind fun _ => ignoresLayout_report _

/-- Grading ignores the layout. -/
theorem ignoresLayout_runGrading (p q dir : Path) : IgnoresLayout (runGrading p q dir) := by
  refine (ignoresLayout_readItems p).bind fun es => ?_
  refine (ignoresLayout_readItems q).bind fun as => ?_
  obtain ⟨g, graded⟩ : ∃ g, grade es as = .ok g := ⟨_, grade_eq es as⟩
  simp only [graded]
  have rest : IgnoresLayout (do
      reportSteps (gradingEvents es as)
      report (.graded g)
      writeGrade dir g) := by
    refine (ignoresLayout_reportSteps _).bind fun _ => ?_
    exact (ignoresLayout_report _).bind fun _ => ignoresLayout_writeGrade dir g
  -- whether there is a warning of uneven files is told by the items, too
  by_cases uneven : es.length ≠ as.length
  · rw [if_pos uneven]
    exact (ignoresLayout_report _).bind fun _ => rest
  · rw [if_neg uneven]
    exact rest

end

/-! ## The grade of some files -/

/-- A file that has been written can be read. -/
theorem FileTree.Changed.readText {dir : Path} {files : List (Text × Text)} {t t' : FileTree}
    (h : Changed dir files t t') {f : Text × Text} (hf : f ∈ files) :
    t'.readText (dir.join f.1) = some f.2 := by
  obtain ⟨l, located, -, found⟩ := h.written f hf
  simp [FileTree.readText, located, found, Contents.text?]

variable {w w' : World} {s : Settings} {p q : Path}

/-- When grading succeeds, the file that is written has the grade of the items of both files. -/
theorem World.exists_grade_of_execute (asked : s.task = .ok (.grading p q))
    (done : (w.execute s).1 = .ok ()) :
    ∃ g : Grade, (w.execute s).2.tree.readText (s.output.join gradeName) = some g.render ∧
      ∃ es as, (w.tree.readText p).map Text.items = some es ∧
        (w.tree.readText q).map Text.items = some as ∧ grade es as = .ok g := by
  have ends : Ends s.execute ⟨w, []⟩ fun r t => r = .ok () →
      ∃ g : Grade, t.readText (s.output.join gradeName) = some g.render ∧
        ∃ es as, (w.tree.readText p).map Text.items = some es ∧
          (w.tree.readText q).map Text.items = some as ∧ grade es as = .ok g := by
    rw [Settings.execute, asked]
    refine (ends_runGrading p q s.output ⟨w, []⟩).mono ?_
    rintro r t (⟨unreadable | unreadable, -⟩ |
      ⟨exercises, answers, g, first, second, graded, stored⟩) rfl
    · simp at unreadable
    · simp at unreadable
    · cases stored with
      | all changed =>
        have written := changed.readText (List.mem_singleton_self (gradeName, g.render))
        exact ⟨g, written, _, _, congrArg _ first, congrArg _ second, graded⟩
  have execute := FaultyWorld.execute_eq w s
  rw [FaultyWorld.execute] at execute
  rw [Ends, execute] at ends
  exact ends done

/-- Grading ends alike, and leaves trees that are the same but for the layout of texts. -/
theorem World.execute_relaid (asked : s.task = .ok (.grading p q))
    (trees : w.tree.Relaid w'.tree) :
    (w'.execute s).1 = (w.execute s).1 ∧ (w.execute s).2.tree.Relaid (w'.execute s).2.tree := by
  have ignores : IgnoresLayout s.execute := by
    rw [Settings.execute, asked]
    exact ignoresLayout_runGrading p q s.output
  exact ignores w w' trees

/-- The same grade is written, since the items are the same. -/
theorem World.exists_grade_of_relaid (asked : s.task = .ok (.grading p q))
    (trees : w.tree.Relaid w'.tree) (done : (w.execute s).1 = .ok ()) :
    ∃ g : Grade, (w.execute s).2.tree.readText (s.output.join gradeName) = some g.render ∧
      (w'.execute s).2.tree.readText (s.output.join gradeName) = some g.render := by
  obtain ⟨g, written, es, as, first, second, graded⟩ := exists_grade_of_execute asked done
  have done' : (w'.execute s).1 = .ok () := (execute_relaid asked trees).1.trans done
  obtain ⟨g', written', es', as', first', second', graded'⟩ := exists_grade_of_execute asked done'
  rw [trees.items_readText p] at first'
  rw [trees.items_readText q] at second'
  obtain rfl := Option.some.inj (first.symm.trans first')
  obtain rfl := Option.some.inj (second.symm.trans second')
  obtain rfl := Except.ok.inj (graded.symm.trans graded')
  exact ⟨g, written, written'⟩

/-- Reading a file undoes writing it, goes line by line, whichever ends the lines have, and ignores
the layout: lines of blanks, blanks at the ends of the lines that a text is made of, and carriage
returns before line feeds.  So a task of grading ends alike when the files have another layout, and
if it succeeds, then it writes the same grade. -/
theorem reading_ignores_layout :
    (∀ ls : List Text, (∀ l ∈ ls, l ≠ [] ∧ '\n' ∉ l ∧
        (∀ c ∈ l.head?, Text.isBlank c = false) ∧ ∀ c ∈ l.getLast?, Text.isBlank c = false) →
      (Text.ofItems ls).items = ls) ∧
    (∀ a b : Text, Text.items (a ++ '\n' :: b) = Text.items a ++ Text.items b) ∧
    (∀ t : Text, t.items = (t.endedLines.map Text.trim).filter fun l => !l.isEmpty) ∧
    (∀ t : Text, (Text.ofItems t.items).items = t.items) ∧
    (∀ t : Text, Text.ofLines t.lines = t) ∧ (∀ a b : Text, a.Relaid b → b.items = a.items) ∧
    ∀ (w w' : World) (s : Settings) (p q : Path), s.task = .ok (.grading p q) →
      w.tree.Relaid w'.tree →
      (w'.execute s).1 = (w.execute s).1 ∧ (w.execute s).2.tree.Relaid (w'.execute s).2.tree ∧
      ((w.execute s).1 = .ok () → ∃ g : Grade,
        (w.execute s).2.tree.readText (s.output.join gradeName) = some g.render ∧
        (w'.execute s).2.tree.readText (s.output.join gradeName) = some g.render) := by
  refine ⟨?_, Text.items_append_newline, Text.items_eq_endedLines, ?_, Text.ofLines_lines,
    fun a b => Text.items_eq_of_relaid, ?_⟩
  · intro ls h
    refine Text.items_ofItems fun l hl => ?_
    obtain ⟨some_char, one_line, first, last⟩ := h l hl
    exact ⟨some_char, one_line, Text.trim_eq_self first last⟩
  · intro t
    exact Text.items_ofItems fun l hl => Text.isItem_of_mem_items hl
  · intro w w' s p q asked trees
    obtain ⟨results, trees'⟩ := World.execute_relaid asked trees
    exact ⟨results, trees', World.exists_grade_of_relaid asked trees⟩

/-- An exercise after a line of blanks, with a blank before it and a carriage return at the end of
its line, is read as it was written, and the answer to it is graded as it was. -/
theorem graded_in_other_layout :
    let a : Text := "1 + 1 =\n".toList
    let b : Text := " \n\t1 + 1 =\r\n".toList
    let s : Settings :=
      { exercises := some "./Exercises.txt".toList, answers := some "./Answers.txt".toList }
    let w (exercises : Text) : World := .ofTree ((FileTree.empty.addFile ["Exercises.txt".toList]
      (.text exercises)).addFile ["Answers.txt".toList] (.text "2\n".toList))
    a = Text.ofItems ["1 + 1 =".toList] ∧ a.items = ["1 + 1 =".toList] ∧
    a.Relaid b ∧ b.items = a.items ∧ (w a).tree.Relaid (w b).tree ∧
    ((w a).execute s).1 = .ok () ∧ ((w b).execute s).1 = .ok () ∧
    ((w b).execute s).2.tree.readText "./Grade.txt".toList =
      some "Correct: 1 (1)\nWrong: 0 ()\n".toList := by
  intro a b s w
  have written : a = Text.ofItems ["1 + 1 =".toList] := by decide
  have space : Text.isBlank ' ' = true := by decide
  have tab : Text.isBlank '\t' = true := by decide
  have relaid : a.Relaid b := by
    have blankLine : Text.LayoutStep a " \n1 + 1 =\n".toList :=
      .blankLine [] ["1 + 1 =".toList, []] (List.forall_mem_singleton.2 space)
    have padding : Text.LayoutStep " \n1 + 1 =\n".toList " \n\t1 + 1 =\n".toList :=
      .padding [[' ']] [[]] "1 + 1 =".toList (List.forall_mem_singleton.2 tab)
        (List.forall_mem_nil _)
    have carriageReturn : Text.LayoutStep " \n\t1 + 1 =\n".toList b :=
      .carriageReturn " \n\t1 + 1 =".toList []
    exact .trans _ _ _ (.rel _ _ blankLine)
      (.trans _ _ _ (.rel _ _ padding) (.rel _ _ carriageReturn))
  have trees : (w a).tree.Relaid (w b).tree :=
    ((FileTree.Relaid.refl .empty).put (by decide) (.file (.text relaid))).put (by decide) (.refl _)
  have done : ((w a).execute s).1 = .ok () := by rfl
  have marked : grade ["1 + 1 =".toList] ["2".toList] = .ok ⟨[1], []⟩ := by cbv
  obtain ⟨reads, -, -, -, -, ignores, grades⟩ := reading_ignores_layout
  have read : a.items = ["1 + 1 =".toList] := by
    rw [written]
    exact reads _ (by simp; decide)
  obtain ⟨results, -, same⟩ := grades (w a) (w b) s _ _ rfl trees
  obtain ⟨g, file, file'⟩ := same done
  refine ⟨written, read, relaid, ignores a b relaid, trees, done, results.trans done, ?_⟩
  -- the grade is that of the first layout
  obtain ⟨g', own, es, as, first, second, graded⟩ := World.exists_grade_of_execute rfl done
  have sheet_read : ((w a).tree.readText "./Exercises.txt".toList).map Text.items =
      some ["1 + 1 =".toList] := congrArg some read
  have answers_read : ((w a).tree.readText "./Answers.txt".toList).map Text.items =
      some ["2".toList] := rfl
  obtain rfl := Option.some.inj (first.symm.trans sheet_read)
  obtain rfl := Option.some.inj (second.symm.trans answers_read)
  obtain rfl := Except.ok.inj (graded.symm.trans marked)
  have text : (⟨[1], []⟩ : Grade).render = "Correct: 1 (1)\nWrong: 0 ()\n".toList := by decide
  rw [← text, ← own, file]
  exact file'

end ArithDrill
