import ArithDrill.Proofs.Lines
import Mathlib.Data.List.TakeWhile
import Mathlib.Logic.Relation

/-!
# The layout of a file

Blanks at either end of a line and lines of nothing but blanks are layout.  As a line feed is a
blank itself, blanks in front of a text or behind it are layout too, wherever their lines end.
Texts that come from each other by changes of layout have the same items.

## Main definitions

* `Text.endedLines` — the lines of a text when a line ends with a line feed, with or without a
  carriage return before it.
* `Text.ofLines` — the text of some lines.
* `Text.LayoutStep` — one change of layout.
* `Text.Relaid` — a text after any changes of layout.

## Main statements

* `Text.line_induction` — induction on a text line by line.
* `Text.items_append_of_blank`, `Text.items_append_blank` — blanks around a text.
* `Text.items_eq_endedLines` — it does not matter which of the two ends a line has.
* `Text.isItem_of_mem_items` — what is read can be told from the layout around it.
* `Text.items_eq_of_relaid` — the layout makes no difference to the items.
-/

namespace ArithDrill.Text

variable {t u w l : Text}

/-! ## Texts line by line -/

/-- A text is a last line, or a line in front of a line feed and another text. -/
theorem line_induction {motive : Text → Prop} (last : ∀ l, '\n' ∉ l → motive l)
    (line : ∀ l t, '\n' ∉ l → motive t → motive (l ++ '\n' :: t)) (t : Text) : motive t := by
  by_cases more : '\n' ∈ t
  · obtain ⟨l, rest, rfl, one_line⟩ := List.eq_append_cons_of_mem more
    exact line l rest one_line (line_induction last line rest)
  · exact last t more
termination_by t.length
decreasing_by grind

/-- A text of one line has its trimmed form as an item, unless nothing is left of it. -/
theorem items_of_newline_not_mem (one_line : '\n' ∉ l) :
    items l = [l.trim].filter fun l => !l.isEmpty := by
  rw [items, lines, List.splitOn_eq_singleton one_line, List.map_singleton]

/-! ## Blanks around a text -/

/-- Trimming takes off what blanks stand in front. -/
theorem trim_append_of_blank (blank : ∀ c ∈ w, isBlank c = true) (t : Text) :
    trim (w ++ t) = trim t := by
  rw [trim, trim, trimStart, trimStart, List.dropWhile_append_of_pos blank]

/-- Trimming takes off what blanks stand behind. -/
theorem trim_append_blank (t : Text) (blank : ∀ c ∈ w, isBlank c = true) :
    trim (t ++ w) = trim t := by
  have behind (s : Text) : trimEnd (s ++ w) = trimEnd s := by
    rw [trimEnd, trimEnd, List.reverse_append, List.dropWhile_append_of_pos (by simpa using blank)]
  rw [trim, trim, trimStart, trimStart, List.dropWhile_append]
  split
  · rename_i nothing
    rw [List.isEmpty_iff.1 nothing, List.dropWhile_eq_nil_iff.2 blank]
  · exact behind _

/-- A blank in front of a text is layout. -/
theorem items_cons_of_isBlank {c : Char} (blank : isBlank c = true) (t : Text) :
    items (c :: t) = items t := by
  by_cases newline : c = '\n'
  · subst newline
    exact items_append_newline [] t
  -- any other blank belongs to the first line
  have trimmed (l : Text) : trim (c :: l) = trim l :=
    trim_append_of_blank (w := [c]) (by simpa using blank) l
  have first (l : Text) (one_line : '\n' ∉ l) : items (c :: l) = items l := by
    have one_line' : '\n' ∉ c :: l := by simp [one_line, Ne.symm newline]
    rw [items_of_newline_not_mem one_line', items_of_newline_not_mem one_line, trimmed]
  induction t using line_induction with
  | last l one_line => exact first l one_line
  | line l t one_line =>
    rw [← List.cons_append, items_append_newline, items_append_newline, first l one_line]

/-- Blanks in front of a text are layout. -/
theorem items_append_of_blank (blank : ∀ c ∈ w, isBlank c = true) (t : Text) :
    items (w ++ t) = items t := by
  induction w with
  | nil => rfl
  | cons c cs ih =>
    rw [List.cons_append, items_cons_of_isBlank (blank c (by simp))]
    exact ih fun d hd => blank d (List.mem_cons_of_mem c hd)

/-- A text of nothing but blanks has no items. -/
theorem items_of_blank (blank : ∀ c ∈ w, isBlank c = true) : items w = [] := by
  simpa using items_append_of_blank blank []

/-- Blanks at the end of a line are layout. -/
theorem items_line_append_blank (one_line : '\n' ∉ l) (one_line' : '\n' ∉ w)
    (blank : ∀ c ∈ w, isBlank c = true) : items (l ++ w) = items l := by
  have joined : '\n' ∉ l ++ w := by simp [one_line, one_line']
  rw [items_of_newline_not_mem joined, items_of_newline_not_mem one_line, trim_append_blank l blank]

/-- Blanks behind a text are layout. -/
theorem items_append_blank (t : Text) (blank : ∀ c ∈ w, isBlank c = true) :
    items (t ++ w) = items t := by
  induction t using line_induction with
  | line l t _ ih =>
    rw [List.append_assoc, List.cons_append, items_append_newline, items_append_newline, ih]
  | last l one_line =>
    -- the first line of the blanks goes on where the last line of the text ends
    induction w using line_induction with
    | last w one_line' => exact items_line_append_blank one_line one_line' blank
    | line w rest one_line' =>
      have first : items (l ++ w) = items l :=
        items_line_append_blank one_line one_line' fun c hc => blank c (by simp [hc])
      have none_left : items rest = [] := items_of_blank fun c hc => blank c (by simp [hc])
      rw [← List.append_assoc, items_append_newline, first, none_left, List.append_nil]

/-! ## The ends of lines -/

/-- A line without the carriage return at its end. -/
def dropReturn (l : Text) : Text := if l.getLast? = some '\r' then l.dropLast else l

/-- The lines that are left of what stands between line feeds: all but the last are ended, so a
carriage return at their end belongs to the end, and the last one counts if it is not empty. -/
def endLines : List Text → List Text
  | [] => []
  | [l] => if l.isEmpty then [] else [l]
  | l :: m :: ls => dropReturn l :: endLines (m :: ls)

/-- The lines of a text when each is ended by a line feed, or by a carriage return and a line feed;
the last one need not be ended. -/
def endedLines (t : Text) : List Text := endLines t.lines

theorem trim_dropReturn (l : Text) : trim (dropReturn l) = trim l := by
  unfold dropReturn
  split
  · rename_i ends
    obtain ⟨front, rfl⟩ := List.getLast?_eq_some_iff.1 ends
    have blank : ∀ c ∈ ['\r'], isBlank c = true := List.forall_mem_singleton.2 (by decide)
    rw [List.dropLast_concat, trim_append_blank front blank]
  · rfl

theorem endedLines_of_newline_not_mem (one_line : '\n' ∉ l) :
    endedLines l = if l.isEmpty then [] else [l] := by
  rw [endedLines, lines, List.splitOn_eq_singleton one_line, endLines]

theorem endedLines_append_newline (one_line : '\n' ∉ l) (t : Text) :
    endedLines (l ++ '\n' :: t) = dropReturn l :: endedLines t := by
  obtain ⟨m, ms, rest⟩ := List.exists_cons_of_ne_nil (List.splitOn_ne_nil '\n' t)
  have first : lines l = [l] := List.splitOn_eq_singleton one_line
  rw [endedLines, lines_append_newline, first, endedLines, lines, rest]
  rfl

/-- Which of the two ends a line has, and whether the last one has any, makes no difference. -/
theorem items_eq_endedLines (t : Text) :
    items t = (t.endedLines.map trim).filter fun l => !l.isEmpty := by
  induction t using line_induction with
  | last l one_line =>
    rw [items_of_newline_not_mem one_line, endedLines_of_newline_not_mem one_line]
    cases l <;> rfl
  | line l t one_line ih =>
    rw [items_append_newline, items_of_newline_not_mem one_line, ih,
      endedLines_append_newline one_line, List.map_cons, trim_dropReturn, ← List.filter_append,
      List.singleton_append]

/-! ## What is read -/

theorem mem_of_mem_trim {c : Char} (h : c ∈ trim t) : c ∈ t := by
  have behind : c ∈ (trimStart t).reverse.dropWhile isBlank := by
    simpa [trim, trimEnd] using h
  have front : c ∈ t.dropWhile isBlank :=
    List.mem_reverse.1 ((List.dropWhile_suffix isBlank).subset behind)
  exact (List.dropWhile_suffix isBlank).subset front

/-- What is read can be told from the layout around it. -/
theorem isItem_of_mem_items (h : l ∈ items t) : l.IsItem := by
  have alone (m : Text) (one_line : '\n' ∉ m) (read : l ∈ items m) : l.IsItem := by
    have some_char := ne_nil_of_mem_items read
    obtain rfl : l = m.trim := by
      rw [items_of_newline_not_mem one_line] at read
      exact List.mem_singleton.1 (List.mem_filter.1 read).1
    exact ⟨some_char, fun newline => one_line (mem_of_mem_trim newline), trim_trim m⟩
  induction t using line_induction with
  | last m one_line => exact alone m one_line h
  | line m t one_line ih =>
    rw [items_append_newline, List.mem_append] at h
    rcases h with first | later
    · exact alone m one_line first
    · exact ih later

/-! ## Changes of layout -/

/-- The text of some lines, with line feeds between them. -/
def ofLines (ls : List Text) : Text := ['\n'].intercalate ls

/-- A text is made of its lines. -/
theorem ofLines_lines (t : Text) : ofLines t.lines = t := List.intercalate_splitOn '\n'

theorem ofLines_cons_cons (l m : Text) (ls : List Text) :
    ofLines (l :: m :: ls) = l ++ '\n' :: ofLines (m :: ls) := by
  simp [ofLines, List.intercalate_cons_cons]

/-- The items of a text are those of its lines. -/
theorem items_ofLines (ls : List Text) : items (ofLines ls) = ls.flatMap items := by
  induction ls with
  | nil => rfl
  | cons l ls ih =>
    cases ls with
    | nil => simp [ofLines]
    | cons m ms => rw [ofLines_cons_cons, items_append_newline, ih]; rfl

/-- One change of layout. -/
inductive LayoutStep : Text → Text → Prop where
  /-- A line of blanks is put among the lines. -/
  | blankLine (before after : List Text) {w : Text} (blank : ∀ c ∈ w, isBlank c = true) :
    LayoutStep (ofLines (before ++ after)) (ofLines (before ++ w :: after))
  /-- Blanks are put at the ends of a line. -/
  | padding (before after : List Text) (l : Text) {u v : Text}
    (blank : ∀ c ∈ u, isBlank c = true) (blank' : ∀ c ∈ v, isBlank c = true) :
    LayoutStep (ofLines (before ++ l :: after)) (ofLines (before ++ (u ++ l ++ v) :: after))
  /-- A carriage return is put before a line feed. -/
  | carriageReturn (a b : Text) : LayoutStep (a ++ '\n' :: b) (a ++ '\r' :: '\n' :: b)

/-- A text after any changes of layout, forth and back. -/
def Relaid : Text → Text → Prop := Relation.EqvGen LayoutStep

/-- One change of layout makes no difference to the items. -/
theorem items_eq_of_layoutStep (h : LayoutStep t u) : items u = items t := by
  cases h with
  | blankLine before after blank =>
    simp [items_ofLines, items_of_blank blank]
  | padding before after l blank blank' =>
    simp [items_ofLines, items_append_of_blank blank, items_append_blank _ blank']
  | carriageReturn a b =>
    have shape : a ++ '\r' :: '\n' :: b = (a ++ ['\r']) ++ '\n' :: b := by simp
    rw [shape, items_append_newline, items_append_newline,
      items_append_blank a (by simp; decide)]

/-- The layout makes no difference to the items. -/
theorem items_eq_of_relaid (h : t.Relaid u) : items u = items t := by
  induction h with
  | rel _ _ step => exact items_eq_of_layoutStep step
  | refl _ => rfl
  | symm _ _ _ ih => exact ih.symm
  | trans _ _ _ _ _ first second => exact second.trans first

end ArithDrill.Text
