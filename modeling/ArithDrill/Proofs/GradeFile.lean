import ArithDrill.Grade
import ArithDrill.Text.Lines

/-!
# What a grade file tells

The numbers in a text are its runs of digits, whatever else stands around them.  A line of the
grade file holds a count and after it the numbers that are counted, with characters other than
digits on both sides of each of them.  So the numbers can be read from the line, and the file tells
which grade it is of.

## Main definitions

* `Text.numbers` — the numbers in a text.
* `Grade.entry` — a line of the grade file without its end.

## Main statements

* `Text.numbers_append_cons` — a character that is no digit keeps numbers apart.
* `Grade.numbers_entry` — the numbers in a line of the grade file.
* `Grade.numbers_lines_render` — the numbers in the grade file, line by line.
* `Grade.eq_of_render_eq`, `Grade.file_determines_grade` — the file determines the grade.
-/

namespace ArithDrill

namespace Text

/-- The numbers in a text: what its runs of digits stand for. -/
def numbers (t : Text) : List Nat := (t.splitOnP fun c => !c.isDigit).filterMap Decimal.read?

@[simp] theorem numbers_nil : numbers [] = [] := rfl

/-- A character that is no digit keeps the numbers before it and after it apart. -/
theorem numbers_append_cons {c : Char} (h : c.isDigit = false) (a b : Text) :
    numbers (a ++ c :: b) = numbers a ++ numbers b := by
  rw [numbers, List.splitOnP_append_cons a b (by simp [h]), List.filterMap_append, numbers, numbers]

theorem numbers_cons {c : Char} (h : c.isDigit = false) (t : Text) :
    numbers (c :: t) = numbers t :=
  numbers_append_cons h [] t

/-- Words hold no numbers. -/
theorem numbers_append_of_not_isDigit {word : Text} (h : ∀ c ∈ word, c.isDigit = false)
    (t : Text) : numbers (word ++ t) = numbers t := by
  induction word with
  | nil => rfl
  | cons c cs ih =>
    rw [List.cons_append, numbers_cons (h c (by simp))]
    exact ih fun d hd => h d (List.mem_cons_of_mem c hd)

/-- A numeral is a single number. -/
@[simp] theorem numbers_write (n : Nat) : numbers (Decimal.write n) = [n] := by
  have single : (Decimal.write n).splitOnP (fun c => !c.isDigit) = [Decimal.write n] := by
    refine List.splitOnP_eq_singleton ?_
    intro c hc
    simp [Decimal.isDigit_of_mem_write hc]
  simp [numbers, single]

end Text

namespace Grade

open Text

variable {label : Text}

theorem enumerate_cons_cons (n m : Nat) (ns : List Nat) :
    enumerate (n :: m :: ns) = Decimal.write n ++ ',' :: ' ' :: enumerate (m :: ns) := by
  simp [enumerate, List.intercalate_cons_cons]

/-- The numbers of an enumeration are those that are enumerated. -/
@[simp] theorem numbers_enumerate (ns : List Nat) : (enumerate ns).numbers = ns := by
  induction ns with
  | nil => rfl
  | cons n ns ih =>
    cases ns with
    | nil => simp [enumerate]
    | cons m ms =>
      have comma : numbers (Decimal.write n ++ ',' :: ' ' :: enumerate (m :: ms)) =
          numbers (Decimal.write n) ++ numbers (' ' :: enumerate (m :: ms)) :=
        numbers_append_cons (by decide) _ _
      have space : numbers (' ' :: enumerate (m :: ms)) = m :: ms := by
        rw [numbers_cons (by decide), ih]
      simp [enumerate_cons_cons, comma, space]

theorem newline_not_mem_write (n : Nat) : '\n' ∉ Decimal.write n := by
  intro newline
  have digit := Decimal.isDigit_of_mem_write newline
  simp at digit

/-- An enumeration stays on its line. -/
theorem newline_not_mem_enumerate (ns : List Nat) : '\n' ∉ enumerate ns := by
  induction ns with
  | nil => simp [enumerate]
  | cons n ns ih =>
    cases ns with
    | nil => simpa [enumerate] using newline_not_mem_write n
    | cons m ms => simp [enumerate_cons_cons, newline_not_mem_write, ih]

/-- A line of the grade file without its end. -/
def entry (label : Text) (ns : List Nat) : Text :=
  label ++ ": ".toList ++ Decimal.write ns.length ++ " (".toList ++ enumerate ns ++ ")".toList

/-- A line holds its count and then the numbers that are counted. -/
theorem numbers_entry (words : ∀ c ∈ label, c.isDigit = false) (ns : List Nat) :
    (entry label ns).numbers = ns.length :: ns := by
  have counted : numbers (enumerate ns ++ [')']) = ns := by
    rw [numbers_append_cons (by decide)]
    simp
  have count : numbers (Decimal.write ns.length ++ ' ' :: '(' :: (enumerate ns ++ [')'])) =
      ns.length :: ns := by
    rw [numbers_append_cons (by decide), numbers_write, numbers_cons (by decide), counted]
    rfl
  have behind : entry label ns = label ++ ':' :: ' ' ::
      (Decimal.write ns.length ++ ' ' :: '(' :: (enumerate ns ++ [')'])) := by
    simp [entry]
  rw [behind, numbers_append_of_not_isDigit words, numbers_cons (by decide),
    numbers_cons (by decide), count]

theorem newline_not_mem_entry (one_line : '\n' ∉ label) (ns : List Nat) :
    '\n' ∉ entry label ns := by
  simp [entry, one_line, newline_not_mem_write, newline_not_mem_enumerate]

theorem not_isDigit_of_mem_correct : ∀ c ∈ "Correct".toList, c.isDigit = false := by simp

theorem not_isDigit_of_mem_wrong : ∀ c ∈ "Wrong".toList, c.isDigit = false := by simp

/-- The grade file has one line for the right answers and one for the wrong answers. -/
theorem render_eq (g : Grade) :
    g.render = ofItems [entry "Correct".toList g.right, entry "Wrong".toList g.wrong] := by
  simp [render, line, entry]

/-- The numbers in the grade file, line by line; nothing comes after its two lines. -/
theorem numbers_lines_render (g : Grade) :
    g.render.lines.map numbers = [g.right.length :: g.right, g.wrong.length :: g.wrong, []] := by
  have first := newline_not_mem_entry (show '\n' ∉ "Correct".toList by decide) g.right
  have second := newline_not_mem_entry (show '\n' ∉ "Wrong".toList by decide) g.wrong
  have lines_eq : g.render.lines =
      [entry "Correct".toList g.right, entry "Wrong".toList g.wrong, []] := by
    rw [render_eq, ofItems_cons, ofItems_cons, ofItems_nil, lines, List.splitOn_append_cons_self,
      List.splitOn_append_cons_self, List.splitOn_eq_singleton first,
      List.splitOn_eq_singleton second]
    rfl
  rw [lines_eq, List.map_cons, List.map_cons, List.map_singleton,
    numbers_entry not_isDigit_of_mem_correct, numbers_entry not_isDigit_of_mem_wrong, numbers_nil]

/-- Grades with the same file are the same. -/
theorem eq_of_render_eq {g h : Grade} (same : g.render = h.render) : g = h := by
  have numbers_eq : g.render.lines.map numbers = h.render.lines.map numbers := by rw [same]
  simp only [numbers_lines_render, List.cons.injEq] at numbers_eq
  obtain ⟨⟨-, right⟩, ⟨-, wrong⟩, -⟩ := numbers_eq
  cases g
  cases h
  rw [mk.injEq]
  exact ⟨right, wrong⟩

/-- The grade file determines the grade, whatever numbers it lists.  It has two lines, each ended by
a line feed; each holds the length of its list, and then the list. -/
theorem file_determines_grade :
    (∀ g h : Grade, g.render = h.render → g = h) ∧
    ∀ g : Grade, ∃ first second : Text,
      g.render = ofItems [first, second] ∧ '\n' ∉ first ∧ '\n' ∉ second ∧
      "Correct: ".toList ++ Decimal.write g.right.length ++ " (".toList <+: first ∧
      "Wrong: ".toList ++ Decimal.write g.wrong.length ++ " (".toList <+: second ∧
      first.numbers = g.right.length :: g.right ∧ second.numbers = g.wrong.length :: g.wrong := by
  constructor
  · intro g h same
    exact eq_of_render_eq same
  · intro g
    refine ⟨_, _, render_eq g, newline_not_mem_entry (by decide) _,
      newline_not_mem_entry (by decide) _, ?_, ?_, numbers_entry not_isDigit_of_mem_correct _,
      numbers_entry not_isDigit_of_mem_wrong _⟩
    · exact ⟨enumerate g.right ++ ")".toList, by simp [entry]⟩
    · exact ⟨enumerate g.wrong ++ ")".toList, by simp [entry]⟩

/-- The grade of three answers by their marks is read from its file. -/
theorem grade_of_three_answers_from_file :
    (ofMarks [true, false, true]).render = "Correct: 2 (1, 3)\nWrong: 1 (2)\n".toList ∧
    (⟨[1, 3], [2]⟩ : Grade).render = "Correct: 2 (1, 3)\nWrong: 1 (2)\n".toList ∧
    ofMarks [true, false, true] = ⟨[1, 3], [2]⟩ := by
  have marked : (ofMarks [true, false, true]).render =
      "Correct: 2 (1, 3)\nWrong: 1 (2)\n".toList := by decide
  have listed : (⟨[1, 3], [2]⟩ : Grade).render = "Correct: 2 (1, 3)\nWrong: 1 (2)\n".toList := by
    decide
  exact ⟨marked, listed, file_determines_grade.1 _ _ (marked.trans listed.symm)⟩

end Grade

end ArithDrill
