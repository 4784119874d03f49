import ArithDrill.Draw.Basic
import ArithDrill.Text.Basic

/-!
# Putting a part of a text in parentheses

A stretch of a text is drawn by its position, without regard to what stands there.  It is then
widened until neither end lies inside a number, and narrowed until it neither begins nor ends
with a space.  Parentheses are put around what remains, if anything does.

## Main definitions

* `Cut` — a text in three parts; `Cut.text` puts them together again.
* `Cut.widen`, `Cut.narrow` — the two corrections of the ends.
* `bracket` — draws a stretch of a text and puts it in parentheses.

## Main statements

* `Cut.text_widen`, `Cut.text_narrow` — the corrections move the ends only.
-/

namespace ArithDrill

/-- A text cut into the part to put in parentheses and what stands before and after it. -/
structure Cut where
  /-- The part before. -/
  before : Text
  /-- The part to put in parentheses. -/
  inside : Text
  /-- The part after. -/
  after : Text
  deriving DecidableEq, Repr

namespace Cut

/-- Whether an opening parenthesis may stand right after a character. -/
def mayPrecede (c : Char) : Bool := [' ', '+', '-', '×', '÷', '('].contains c

/-- Whether a closing parenthesis may stand right before a character. -/
def mayFollow (c : Char) : Bool := [' ', '+', '-', '×', '÷', ')'].contains c

/-- The cut of a text at two positions, of which `start` is not the larger one. -/
def ofPositions (t : Text) (start stop : Nat) : Cut :=
  ⟨t.take start, (t.take stop).drop start, t.drop stop⟩

/-- The text that was cut. -/
def text (c : Cut) : Text := c.before ++ c.inside ++ c.after

/-- Moves both ends outwards until parentheses may stand there. -/
def widen (c : Cut) : Cut :=
  let back := c.before.reverse
  ⟨(back.dropWhile fun x => !mayPrecede x).reverse,
    (back.takeWhile fun x => !mayPrecede x).reverse ++ c.inside ++
      c.after.takeWhile fun x => !mayFollow x,
    c.after.dropWhile fun x => !mayFollow x⟩

/-- Moves both ends inwards over spaces. -/
def narrow (c : Cut) : Cut :=
  let back := (c.inside.dropWhile (· == ' ')).reverse
  ⟨c.before ++ c.inside.takeWhile (· == ' '), (back.dropWhile (· == ' ')).reverse,
    (back.takeWhile (· == ' ')).reverse ++ c.after⟩

/-- The text with parentheses around the middle part, or unchanged when that is empty. -/
def bracketed (c : Cut) : Text :=
  if c.inside.isEmpty then c.text else c.before ++ '(' :: (c.inside ++ ')' :: c.after)

/-- The three parts put together again, with the first part read backwards. -/
private theorem reverse_dropWhile_append_reverse_takeWhile (p : Char → Bool) (t : Text) :
    (t.reverse.dropWhile p).reverse ++ (t.reverse.takeWhile p).reverse = t := by
  rw [← List.reverse_append, List.takeWhile_append_dropWhile, List.reverse_reverse]

/-- Widening a cut keeps the text. -/
@[simp] theorem text_widen (c : Cut) : c.widen.text = c.text := by
  simp only [text, widen, List.append_assoc, List.takeWhile_append_dropWhile]
  rw [← List.append_assoc, reverse_dropWhile_append_reverse_takeWhile]

/-- Narrowing a cut keeps the text. -/
@[simp] theorem text_narrow (c : Cut) : c.narrow.text = c.text := by
  simp only [text, narrow, List.append_assoc]
  rw [← List.append_assoc (List.reverse _) (List.reverse _),
    reverse_dropWhile_append_reverse_takeWhile, ← List.append_assoc (List.takeWhile _ _),
    List.takeWhile_append_dropWhile]

/-- The three parts of a cut make up the text, when the positions are in order. -/
@[simp] theorem text_ofPositions (t : Text) {start stop : Nat} (h : start ≤ stop) :
    (ofPositions t start stop).text = t := by
  have middle : t.take start ++ (t.take stop).drop start = t.take stop := by
    conv => rhs; rw [← List.take_append_drop start (t.take stop)]
    rw [List.take_take, Nat.min_eq_left h]
  rw [text, ofPositions, middle, List.take_append_drop]

end Cut

/-- Draws a stretch of a text and puts it in parentheses.  The stretch begins in the first half
and covers at least two characters, as far as there are any.  A text of fewer than two
characters is left as it is. -/
def bracket (t : Text) : Draw Text :=
  if t.length < 2 then .done t
  else do
    let start ← Draw.count 0 (t.length / 2)
    let extent ← Draw.count 2 (max (t.length - start) 2)
    return (Cut.ofPositions t start (min (start + extent) t.length)).widen.narrow.bracketed

end ArithDrill
