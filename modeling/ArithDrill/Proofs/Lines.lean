import ArithDrill.Proofs.Numbers
import ArithDrill.Text.Lines

/-!
# Items, written and read

Reading a file goes line by line, so it undoes writing whenever the items can be told from the
layout around them: an item is not empty, stays on one line and has no blanks at its ends.

## Main definitions

* `Text.IsItem` — a text that can be told from the layout around it.

## Main statements

* `Text.items_append_newline` — reading goes line by line.
* `Text.items_ofItems` — the items that were written are read again.
* `isItem_schoolForm` — an answer is an item.
-/

namespace ArithDrill

namespace Text

/-- A text that can be told from the layout around it. -/
structure IsItem (l : Text) : Prop where
  /-- It is not empty. -/
  ne_nil : l ≠ []
  /-- It stays on one line. -/
  newline_not_mem : '\n' ∉ l
  /-- It has no blanks at its ends. -/
  trim_eq : l.trim = l

/-- The lines before and after a line feed. -/
theorem lines_append_newline (a b : Text) : lines (a ++ '\n' :: b) = lines a ++ lines b :=
  List.splitOn_append_cons_self a b

/-- Reading goes line by line. -/
theorem items_append_newline (a b : Text) : items (a ++ '\n' :: b) = items a ++ items b := by
  rw [items, lines_append_newline, List.map_append, List.filter_append, items, items]

@[simp] theorem items_nil : items [] = [] := rfl

/-- An item on a line of its own is read as it is. -/
theorem items_of_isItem {l : Text} (h : l.IsItem) : items l = [l] := by
  have line : lines l = [l] := List.splitOn_eq_singleton h.newline_not_mem
  rw [items, line, List.map_singleton, h.trim_eq, List.filter_cons_of_pos (by simp [h.ne_nil]),
    List.filter_nil]

/-- The items that were written are read again. -/
theorem items_ofItems {ls : List Text} (h : ∀ l ∈ ls, l.IsItem) : items (ofItems ls) = ls := by
  induction ls with
  | nil => rfl
  | cons l ls ih =>
    have first : l.IsItem := h l (by simp)
    have later : items (ofItems ls) = ls := ih fun m hm => h m (List.mem_cons_of_mem l hm)
    rw [ofItems_cons, items_append_newline, items_of_isItem first, later, List.singleton_append]

/-- A text whose ends are not blank is an item if it stays on one line. -/
theorem isItem_of_ends {l : Text} {x y : Char} (first : l.head? = some x)
    (last : l.getLast? = some y) (not_blank : isBlank x = false)
    (not_blank' : isBlank y = false) (one_line : '\n' ∉ l) : l.IsItem where
  ne_nil := by
    rintro rfl
    simp at first
  newline_not_mem := one_line
  trim_eq := by
    refine trim_eq_self ?_ ?_
    · intro c hc
      rw [first, Option.mem_some_iff] at hc
      rw [← hc]
      exact not_blank
    · intro c hc
      rw [last, Option.mem_some_iff] at hc
      rw [← hc]
      exact not_blank'

end Text

/-- The text of a literal is an item. -/
theorem Literal.isItem_render (l : Literal) : l.render.IsItem where
  ne_nil := l.render_ne_nil
  newline_not_mem := fun h => absurd (isNumberChar_of_mem_render h) (by decide)
  trim_eq := Token.trim_of_isNumberChar fun _ => isNumberChar_of_mem_render

/-- An answer is an item. -/
theorem isItem_schoolForm {r : Rat} (h : 0 ≤ r) : (schoolForm r).IsItem := by
  rw [schoolForm, if_neg (Rat.not_lt.2 h)]
  exact Literal.isItem_render _

end ArithDrill
