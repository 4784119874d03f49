import ArithDrill.Text.Ranges

/-!
# Blanks

A blank is a character with the property `White_Space` of the Unicode standard: twenty-five
code points.  Lines and answers are trimmed of blanks, and a line is read as if it held none.

## Main definitions

* `Text.isBlank` — membership in the property.
* `Text.trim` — a text without the blanks at its two ends.
* `Text.compact` — a text without any blank.

## Main statements

* `Text.trim_eq_self` — a text that neither begins nor ends with a blank is left as it is.
* `Text.trim_trim` — a trimmed text is such a text.
-/

namespace ArithDrill.Text

/-- The blanks, in increasing order. -/
def blankRanges : Ranges :=
  [(0x09, 0x0D), (0x20, 0x20), (0x85, 0x85), (0xA0, 0xA0), (0x1680, 0x1680), (0x2000, 0x200A),
    (0x2028, 0x2029), (0x202F, 0x202F), (0x205F, 0x205F), (0x3000, 0x3000)]

/-- Whether a character is a blank. -/
def isBlank (c : Char) : Bool := blankRanges.contains c

/-- The ranges hold twenty-five code points. -/
example : (blankRanges.map fun r => r.2 + 1 - r.1).sum = 25 := by decide

/-- A text without the blanks at its beginning. -/
def trimStart (t : Text) : Text := t.dropWhile isBlank

/-- A text without the blanks at its end. -/
def trimEnd (t : Text) : Text := (t.reverse.dropWhile isBlank).reverse

/-- A text without the blanks at its two ends. -/
def trim (t : Text) : Text := trimEnd (trimStart t)

/-- A text without its blanks, wherever they stand. -/
def compact (t : Text) : Text := t.filter fun c => !isBlank c

/-- Compacting is done character by character, so it may be done part by part. -/
@[simp] theorem compact_append (a b : Text) : compact (a ++ b) = compact a ++ compact b :=
  List.filter_append ..

/-- Dropping from the front stops at once when the first character has to stay. -/
private theorem dropWhile_isBlank_eq_self {t : Text} (h : ∀ c ∈ t.head?, isBlank c = false) :
    t.dropWhile isBlank = t := by
  cases t with
  | nil => rfl
  | cons c cs => simp [List.dropWhile, h c (by simp)]

/-- A text that neither begins nor ends with a blank is its own trimmed form. -/
theorem trim_eq_self {t : Text} (first : ∀ c ∈ t.head?, isBlank c = false)
    (last : ∀ c ∈ t.getLast?, isBlank c = false) : trim t = t := by
  rw [trim, trimStart, dropWhile_isBlank_eq_self first, trimEnd,
    dropWhile_isBlank_eq_self (by simpa using last), List.reverse_reverse]

/-- What is left after dropping from the front does not begin with a blank. -/
private theorem isBlank_of_mem_head?_dropWhile {t : Text} {c : Char}
    (h : c ∈ (t.dropWhile isBlank).head?) : isBlank c = false := by
  have first := List.head?_dropWhile_not isBlank t
  rw [Option.mem_def.1 h] at first
  simpa using first

/-- Dropping from the end leaves a beginning. -/
private theorem trimEnd_prefix (t : Text) : trimEnd t <+: t := by
  have rest := List.dropWhile_suffix isBlank (l := t.reverse)
  rwa [← List.reverse_prefix, List.reverse_reverse] at rest

/-- Trimming twice is trimming once. -/
@[simp] theorem trim_trim (t : Text) : t.trim.trim = t.trim := by
  refine trim_eq_self (fun c hc => ?_) fun c hc => ?_
  · -- the first character is that of the text without the blanks at its beginning
    obtain ⟨rest, whole⟩ := trimEnd_prefix (trimStart t)
    have first : c ∈ (trimStart t).head? := by
      rw [← whole, List.head?_append, ← trim, Option.mem_def.1 hc]
      rfl
    exact isBlank_of_mem_head?_dropWhile first
  · have last : c ∈ ((trimStart t).reverse.dropWhile isBlank).head? := by
      simpa [trim, trimEnd] using hc
    exact isBlank_of_mem_head?_dropWhile last

end ArithDrill.Text
