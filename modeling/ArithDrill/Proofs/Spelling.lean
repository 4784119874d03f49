import ArithDrill.Literal.Reading
import ArithDrill.Token.Scan

/-!
# How numbers are spelled

A text that spells a number consists of runs of digits: one of them, two around a slash, or three
with an apostrophe after the first and a slash after the second.  Reading cuts a text at the first
apostrophe and the first slash, and finds such runs exactly if the text consists of them.

## Main definitions

* `Numeral` — a non-empty run of digits.
* `Spelling` — the runs of digits in a number, in one of the three forms.
* `Spelling.text`, `Spelling.literal` — what is spelled, and what it stands for.
* `Literal.spelling` — the runs of digits that a literal is written with.

## Main statements

* `Literal.shape?_eq_some_iff` — a text spells a literal exactly if it is the text of a spelling.
* `Spelling.isNumberChar_of_mem_text` — a spelling is made of number characters.
-/

namespace ArithDrill

/-- A non-empty run of ASCII digits. -/
structure Numeral where
  /-- The digits, as they are written. -/
  text : Text
  /-- There are digits, and nothing else. -/
  isNumeral : Decimal.isNumeral text = true

namespace Numeral

/-- The number that a run of digits stands for in base ten. -/
def number (n : Numeral) : Nat := Nat.ofDigitChars 10 n.text 0

/-- The run of digits that a number is written with. -/
def ofNat (n : Nat) : Numeral := ⟨Decimal.write n, Decimal.isNumeral_write n⟩

@[simp] theorem number_ofNat (n : Nat) : (ofNat n).number = n :=
  Nat.ofDigitChars_toDigits (by decide) (by decide)

theorem ne_nil (n : Numeral) : n.text ≠ [] := (Decimal.isNumeral_iff.1 n.isNumeral).1

theorem isDigit_of_mem {n : Numeral} {c : Char} (h : c ∈ n.text) : c.isDigit = true :=
  (Decimal.isNumeral_iff.1 n.isNumeral).2 c h

/-- A character that is no digit does not occur in a run of digits. -/
theorem not_mem_text {c : Char} (h : c.isDigit = false) (n : Numeral) : c ∉ n.text :=
  fun hc => by simp [isDigit_of_mem hc] at h

end Numeral

/-- The numbers that can be read are those of runs of digits. -/
theorem Decimal.read?_eq_some_iff {t : Text} {n : Nat} :
    read? t = some n ↔ ∃ d : Numeral, d.text = t ∧ d.number = n := by
  rw [read?, Option.ite_none_right_eq_some]
  constructor
  · rintro ⟨numeral, value⟩
    exact ⟨⟨t, numeral⟩, rfl, Option.some.inj value⟩
  · rintro ⟨d, rfl, rfl⟩
    exact ⟨d.isNumeral, rfl⟩

/-- The runs of digits of a number, in one of the three forms. -/
inductive Spelling where
  /-- One run: a whole number. -/
  | whole (n : Numeral)
  /-- Two runs around a slash: a fraction. -/
  | fraction (num den : Numeral)
  /-- A run and an apostrophe before a fraction: a mixed number. -/
  | mixed (units num den : Numeral)

namespace Spelling

/-- The text of a spelling. -/
def text : Spelling → Text
  | whole n => n.text
  | fraction num den => num.text ++ '/' :: den.text
  | mixed units num den => units.text ++ '\'' :: (num.text ++ '/' :: den.text)

/-- The literal that is spelled. -/
def literal : Spelling → Literal
  | whole n => .whole n.number
  | fraction num den => .fraction num.number den.number
  | mixed units num den => .mixed units.number num.number den.number

theorem text_ne_nil (w : Spelling) : w.text ≠ [] := by
  cases w <;> simp [text, Numeral.ne_nil]

/-- A spelling is made of number characters. -/
theorem isNumberChar_of_mem_text {w : Spelling} {c : Char} (h : c ∈ w.text) :
    Token.isNumberChar c = true := by
  have digit {n : Numeral} (hc : c ∈ n.text) : Token.isNumberChar c = true := by
    simp [Token.isNumberChar, Numeral.isDigit_of_mem hc]
  cases w with
  | whole n => exact digit h
  | fraction num den =>
    simp only [text, List.mem_append, List.mem_cons] at h
    rcases h with left | rfl | right
    · exact digit left
    · decide
    · exact digit right
  | mixed units num den =>
    simp only [text, List.mem_append, List.mem_cons] at h
    rcases h with first | rfl | left | rfl | right
    · exact digit first
    · decide
    · exact digit left
    · decide
    · exact digit right

end Spelling

namespace Literal

open Numeral

/-- What has two sides of a fraction bar is two runs of digits around a slash. -/
theorem fractionParts?_eq_some_iff {t : Text} {p : Nat × Nat} :
    fractionParts? t = some p ↔
      ∃ num den : Numeral, num.text ++ '/' :: den.text = t ∧ (num.number, den.number) = p := by
  simp only [fractionParts?, Option.bind_eq_bind, Option.bind_eq_some_iff, Option.pure_def,
    Option.some.injEq, Text.cut?_eq_some_iff, Decimal.read?_eq_some_iff, Prod.exists]
  constructor
  · rintro ⟨_, _, ⟨rfl, -⟩, _, ⟨num, rfl, rfl⟩, _, ⟨den, rfl, rfl⟩, rfl⟩
    exact ⟨num, den, rfl, rfl⟩
  · rintro ⟨num, den, rfl, rfl⟩
    exact ⟨_, _, ⟨rfl, not_mem_text (by decide) num⟩, _, ⟨num, rfl, rfl⟩, _, ⟨den, rfl, rfl⟩, rfl⟩

/-- The literal of a spelling is found in its text.  The first apostrophe and the first slash are
those of the spelling, for there are none in a run of digits. -/
theorem shape?_text (w : Spelling) : shape? w.text = some w.literal := by
  cases w with
  | whole n =>
    have no_units : Text.cut? '\'' n.text = none :=
      Text.cut?_eq_none_iff.2 (not_mem_text (by decide) n)
    have read : Decimal.read? n.text = some n.number :=
      Decimal.read?_eq_some_iff.2 ⟨n, rfl, rfl⟩
    simp [shape?, Spelling.text, Spelling.literal, no_units,
      not_mem_text (c := '/') (by decide) n, read]
  | fraction num den =>
    have no_units : Text.cut? '\'' (num.text ++ '/' :: den.text) = none := by
      refine Text.cut?_eq_none_iff.2 ?_
      simp [not_mem_text (c := '\'') (by decide)]
    have parts : fractionParts? (num.text ++ '/' :: den.text) = some (num.number, den.number) :=
      fractionParts?_eq_some_iff.2 ⟨num, den, rfl, rfl⟩
    simp [shape?, Spelling.text, Spelling.literal, no_units, parts]
  | mixed units num den =>
    have cut : Text.cut? '\'' (units.text ++ '\'' :: (num.text ++ '/' :: den.text))
        = some (units.text, num.text ++ '/' :: den.text) :=
      Text.cut?_eq_some_iff.2 ⟨rfl, not_mem_text (by decide) units⟩
    have read : Decimal.read? units.text = some units.number :=
      Decimal.read?_eq_some_iff.2 ⟨units, rfl, rfl⟩
    have parts : fractionParts? (num.text ++ '/' :: den.text) = some (num.number, den.number) :=
      fractionParts?_eq_some_iff.2 ⟨num, den, rfl, rfl⟩
    simp [shape?, Spelling.text, Spelling.literal, cut, read, parts]

/-- A text spells a literal exactly if it is the text of a spelling. -/
theorem shape?_eq_some_iff {t : Text} {l : Literal} :
    shape? t = some l ↔ ∃ w : Spelling, w.text = t ∧ w.literal = l := by
  constructor
  · intro h
    unfold shape? at h
    split at h
    · rename_i units rest cut
      simp only [Option.bind_eq_bind, Option.bind_eq_some_iff, Decimal.read?_eq_some_iff,
        fractionParts?_eq_some_iff] at h
      obtain ⟨_, ⟨n, rfl, rfl⟩, _, ⟨num, den, rfl, rfl⟩, spelled⟩ := h
      exact ⟨.mixed n num den, (Text.cut?_eq_some_iff.1 cut).1.symm, Option.some.inj spelled⟩
    · split at h
      · obtain ⟨p, parts, rfl⟩ := Option.map_eq_some_iff.1 h
        obtain ⟨num, den, rfl, rfl⟩ := fractionParts?_eq_some_iff.1 parts
        exact ⟨.fraction num den, rfl, rfl⟩
      · obtain ⟨n, read, rfl⟩ := Option.map_eq_some_iff.1 h
        obtain ⟨d, rfl, rfl⟩ := Decimal.read?_eq_some_iff.1 read
        exact ⟨.whole d, rfl, rfl⟩
  · rintro ⟨w, rfl, rfl⟩
    exact shape?_text w

/-- The runs of digits that a literal is written with. -/
def spelling : Literal → Spelling
  | whole n => .whole (ofNat n)
  | fraction num den => .fraction (ofNat num) (ofNat den)
  | mixed units num den => .mixed (ofNat units) (ofNat num) (ofNat den)

@[simp] theorem text_spelling (l : Literal) : l.spelling.text = l.render := by cases l <;> rfl

@[simp] theorem literal_spelling (l : Literal) : l.spelling.literal = l := by
  cases l <;> simp [spelling, Spelling.literal]

end Literal

end ArithDrill
