import ArithDrill.Text.Blank

/-!
# Files of one item per line

A file of exercises or answers holds one item per line.  Reading is indifferent to layout:
each line is trimmed and the empty ones are left out, so that a carriage return before a line
feed is one more blank at the end of a line.

## Main definitions

* `Text.items` — the items of a file.
* `Text.ofItems` — the file of some items.

## Main statements

* `Text.ne_nil_of_mem_items` — an item is never empty.
-/

namespace ArithDrill.Text

/-- The lines of a text, without their line feeds; a text without a line feed is one line. -/
def lines (t : Text) : List Text := t.splitOn '\n'

/-- The items of a text: its lines, trimmed, without the empty ones. -/
def items (t : Text) : List Text := (t.lines.map trim).filter fun l => !l.isEmpty

/-- The text with one item per line, each line ended by a line feed. -/
def ofItems (ls : List Text) : Text := ls.flatMap fun l => l ++ ['\n']

@[simp] theorem ofItems_nil : ofItems [] = [] := rfl

@[simp] theorem ofItems_cons (l : Text) (ls : List Text) :
    ofItems (l :: ls) = l ++ '\n' :: ofItems ls := by
  simp [ofItems]

/-- An item has at least one character. -/
theorem ne_nil_of_mem_items {t l : Text} (h : l ∈ items t) : l ≠ [] := by
  simp only [items, List.mem_filter, Bool.not_eq_true', List.isEmpty_eq_false_iff] at h
  exact h.2

end ArithDrill.Text
