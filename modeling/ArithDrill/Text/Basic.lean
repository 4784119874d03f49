/-!
# Texts

Exercise lines, answers and messages are texts: lists of code points.  Every length,
position and comparison in this library is by code point, which a list makes literal.

## Main definitions

* `Text` — a list of code points.
* `Text.cut?` — the two sides of the first occurrence of a character.

## Main statements

* `Text.cut?_eq_some_iff` — what a cut is: the left side is free of the separator.
* `Text.cut?_eq_none_iff` — a text has no cut exactly when the separator does not occur.
-/

namespace ArithDrill

/-- A text, as the list of its code points. -/
abbrev Text := List Char

namespace Text

/-- The parts of a text before and after the first occurrence of `sep`; `none` when `sep`
does not occur. -/
def cut? (sep : Char) : Text → Option (Text × Text)
  | [] => none
  | c :: cs =>
    if c = sep then some ([], cs)
    else (cut? sep cs).map fun sides => (c :: sides.1, sides.2)

/-- A cut puts the text back together around the separator, and its left side does not
hold the separator. -/
theorem cut?_eq_some_iff {sep : Char} {t left right : Text} :
    cut? sep t = some (left, right) ↔ t = left ++ sep :: right ∧ sep ∉ left := by
  induction t generalizing left with
  | nil => simp [cut?]
  | cons c cs ih =>
    by_cases h : c = sep
    · subst h
      cases left with
      | nil => simp [cut?, eq_comm]
      | cons d ds => simp +contextual [cut?, eq_comm]
    · cases left with
      | nil => simp [cut?, h]
      | cons d ds =>
        have := @ih ds
        simp only [cut?, if_neg h, Option.map_eq_some_iff, Prod.mk.injEq, List.cons.injEq,
          List.cons_append, List.mem_cons, not_or]
        constructor
        · rintro ⟨⟨l, r⟩, hl, ⟨rfl, rfl⟩, rfl⟩
          exact ⟨⟨rfl, (this.1 hl).1⟩, fun e => h e.symm, (this.1 hl).2⟩
        · rintro ⟨⟨rfl, rest⟩, -, hds⟩
          exact ⟨(ds, right), this.2 ⟨rest, hds⟩, ⟨rfl, rfl⟩, rfl⟩

/-- A text cannot be cut exactly when the separator does not occur in it. -/
theorem cut?_eq_none_iff {sep : Char} {t : Text} : cut? sep t = none ↔ sep ∉ t := by
  induction t with
  | nil => simp [cut?]
  | cons c cs ih =>
    by_cases h : c = sep
    · simp [cut?, h]
    · simp [cut?, h, ih, Ne.symm h]

end Text

end ArithDrill
