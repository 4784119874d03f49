import ArithDrill.Literal.School
import ArithDrill.Proofs.Spelling

/-!
# Numbers, read and written

A text that reads as a number consists of digits, a slash and an apostrophe at most.  So the
scanner never cuts it, and trimming leaves it as it is.  In the other direction a written literal
reads as itself, and the school form of a rational that is not negative reads as this rational.

## Main statements

* `Literal.isNumberChar_of_read` — what reads as a number is made of number characters.
* `readNumber_of_read` — an answer with the text of a literal has its value.
* `Literal.read_render` — a literal with a denominator reads as itself.
* `readNumber_schoolForm` — the school form of a rational reads as the rational.
-/

namespace ArithDrill

/-! ## Number characters -/

namespace Token

/-- The number characters lie between the apostrophe and the digit nine. -/
theorem toNat_of_isNumberChar {c : Char} (h : isNumberChar c = true) :
    39 ≤ c.toNat ∧ c.toNat ≤ 57 := by
  simp only [isNumberChar, Char.isDigit, Bool.or_eq_true, Bool.and_eq_true, decide_eq_true_eq,
    beq_iff_eq] at h
  rcases h with (⟨lower, upper⟩ | rfl) | rfl
  · have low : 48 ≤ c.toNat := UInt32.le_iff_toNat_le.1 lower
    exact ⟨by omega, UInt32.le_iff_toNat_le.1 upper⟩
  · decide
  · decide

/-- A number character is not a blank. -/
theorem isBlank_of_isNumberChar {c : Char} (h : isNumberChar c = true) :
    Text.isBlank c = false := by
  obtain ⟨low, high⟩ := toNat_of_isNumberChar h
  simp only [Text.isBlank, Text.blankRanges, Text.Ranges.contains, List.any_cons, List.any_nil,
    Bool.or_false, Bool.or_eq_false_iff, decide_eq_false_iff_not]
  omega

/-- A text of number characters is its own trimmed form. -/
theorem trim_of_isNumberChar {t : Text} (h : ∀ c ∈ t, isNumberChar c = true) : t.trim = t :=
  Text.trim_eq_self (fun c hc => isBlank_of_isNumberChar (h c (List.mem_of_mem_head? hc)))
    (fun c hc => isBlank_of_isNumberChar (h c (List.mem_of_getLast? hc)))

end Token

namespace Literal

open Token

/-! ## What reads as a number -/

/-- What spells a literal is made of number characters. -/
theorem isNumberChar_of_shape? {t : Text} {l : Literal} (h : shape? t = some l) {c : Char}
    (hc : c ∈ t) : isNumberChar c = true := by
  obtain ⟨w, rfl, -⟩ := shape?_eq_some_iff.1 h
  exact w.isNumberChar_of_mem_text hc

/-- What reading can come to: nothing to read, no form of a number, a form with the denominator
zero, or a literal. -/
theorem read_cases (t : Text) :
    (t = [] ∧ read t = .error .empty) ∨
    (t ≠ [] ∧ shape? t = none ∧ read t = .error (.malformed t)) ∨
    (∃ l, t ≠ [] ∧ shape? t = some l ∧ l.denominator = 0 ∧
      read t = .error (.zeroDenominator t)) ∨
    ∃ l, t ≠ [] ∧ shape? t = some l ∧ l.denominator ≠ 0 ∧ read t = .ok l := by
  unfold read
  by_cases empty : t = []
  · exact .inl ⟨empty, by simp [empty]⟩
  · rw [if_neg (by simpa using empty)]
    cases shape : shape? t with
    | none => exact .inr (.inl ⟨empty, rfl, rfl⟩)
    | some l =>
      by_cases zero : l.denominator = 0
      · exact .inr (.inr (.inl ⟨l, empty, rfl, zero, if_pos zero⟩))
      · exact .inr (.inr (.inr ⟨l, empty, rfl, zero, if_neg zero⟩))

/-- Reading succeeds exactly for what spells a literal with a denominator. -/
theorem read_eq_ok_iff {t : Text} {l : Literal} :
    read t = .ok l ↔ t ≠ [] ∧ shape? t = some l ∧ l.denominator ≠ 0 := by
  obtain ⟨rfl, read⟩ | ⟨-, shape, read⟩ | ⟨l', -, shape, zero, read⟩ |
    ⟨l', some_char, shape, nonzero, read⟩ := read_cases t
  · simp [read]
  · simp [read, shape]
  · grind
  · grind

/-- Nothing but the empty text is refused as empty. -/
theorem read_eq_empty_iff {t : Text} : read t = .error .empty ↔ t = [] := by
  obtain ⟨rfl, read⟩ | ⟨some_char, -, read⟩ | ⟨l, some_char, -, -, read⟩ |
    ⟨l, some_char, -, -, read⟩ := read_cases t
  · simp [read]
  all_goals simp [read, some_char]

/-- A text is refused as malformed exactly if there is a text and it spells no literal. -/
theorem read_eq_malformed_iff {t u : Text} :
    read t = .error (.malformed u) ↔ u = t ∧ t ≠ [] ∧ shape? t = none := by
  obtain ⟨rfl, read⟩ | ⟨some_char, shape, read⟩ | ⟨l, -, shape, -, read⟩ |
    ⟨l, -, shape, -, read⟩ := read_cases t
  · simp [read]
  · simp [read, some_char, shape, eq_comm]
  all_goals simp [read, shape]

/-- A text is refused for its denominator exactly if it spells a literal with the denominator
zero. -/
theorem read_eq_zeroDenominator_iff {t u : Text} :
    read t = .error (.zeroDenominator u) ↔
      u = t ∧ ∃ l, shape? t = some l ∧ l.denominator = 0 := by
  obtain ⟨rfl, read⟩ | ⟨-, shape, read⟩ | ⟨l, -, shape, zero, read⟩ |
    ⟨l, -, shape, nonzero, read⟩ := read_cases t
  · have no_shape : shape? [] = none := by decide
    simp [read, no_shape]
  · simp [read, shape]
  · simp [read, shape, zero, eq_comm]
  · simp [read, shape, nonzero]

/-- What reads as a number is made of number characters. -/
theorem isNumberChar_of_read {t : Text} {l : Literal} (h : read t = .ok l) :
    ∀ c ∈ t, isNumberChar c = true :=
  fun _ hc => isNumberChar_of_shape? (read_eq_ok_iff.1 h).2.1 hc

/-- The value of a literal is not negative. -/
theorem value_nonneg (l : Literal) : 0 ≤ l.value := by
  cases l with
  | whole n => exact Rat.natCast_nonneg
  | fraction num den =>
    rw [value, ← Rat.divInt_ofNat]
    exact Rat.divInt_nonneg (Int.natCast_nonneg _) (Int.natCast_nonneg _)
  | mixed units num den =>
    rw [value, ← Rat.divInt_ofNat]
    exact Rat.divInt_nonneg (by exact_mod_cast Nat.zero_le _) (Int.natCast_nonneg _)

end Literal

/-- The value of an answer is the value of the literal that it has between its blanks. -/
theorem readNumber_eq_ok_iff {t : Text} {v : Rat} :
    readNumber t = .ok v ↔ ∃ l, Literal.read t.trim = .ok l ∧ l.value = v := by
  unfold readNumber
  cases Literal.read t.trim <;> simp [Except.map]

/-- What an answer reads as is not negative. -/
theorem nonneg_of_readNumber {t : Text} {v : Rat} (h : readNumber t = .ok v) : 0 ≤ v := by
  obtain ⟨l, -, rfl⟩ := readNumber_eq_ok_iff.1 h
  exact l.value_nonneg

/-- An answer with the text of a literal has the value of the literal. -/
theorem readNumber_of_read {t : Text} {l : Literal} (h : Literal.read t = .ok l) :
    readNumber t = .ok l.value := by
  rw [readNumber, Token.trim_of_isNumberChar (Literal.isNumberChar_of_read h), h]
  rfl

namespace Literal

open Token

/-! ## What is written -/

/-- A literal is spelled by its own text. -/
theorem shape?_render (l : Literal) : shape? l.render = some l := by
  rw [← text_spelling, shape?_text, literal_spelling]

/-- The text of a literal is made of number characters. -/
theorem isNumberChar_of_mem_render {l : Literal} {c : Char} (h : c ∈ l.render) :
    isNumberChar c = true :=
  isNumberChar_of_shape? (shape?_render l) h

/-- The text of a literal is not empty. -/
theorem render_ne_nil (l : Literal) : l.render ≠ [] := by
  cases l <;> simp [render, Decimal.write_ne_nil]

/-- A literal with a denominator reads as itself. -/
theorem read_render {l : Literal} (h : l.denominator ≠ 0) : read l.render = .ok l :=
  read_eq_ok_iff.2 ⟨render_ne_nil l, shape?_render l, h⟩

/-! ## The school form -/

theorem denominator_school (r : Rat) : (school r).denominator ≠ 0 := by
  unfold school
  dsimp only
  split
  · exact Nat.one_ne_zero
  · split <;> exact r.den_nz

/-- The school form keeps the value of a rational that is not negative. -/
theorem value_school {r : Rat} (h : 0 ≤ r) : (school r).value = r := by
  have top : (r.num.natAbs : Int) = r.num := Int.natAbs_of_nonneg (Rat.num_nonneg.2 h)
  unfold school
  dsimp only
  split
  · rename_i whole_number
    rw [value, ← Rat.intCast_natCast, top]
    exact Rat.ext (Rat.num_intCast _) (by rw [Rat.den_intCast, whole_number])
  · split
    · rename_i proper
      have below : r.num.natAbs % r.den = r.num.natAbs := by
        have split_num := Nat.div_add_mod r.num.natAbs r.den
        rw [proper, Nat.mul_zero, Nat.zero_add] at split_num
        exact split_num
      rw [value, below, top, Rat.mkRat_self]
    · have joined : ((r.num.natAbs / r.den : Nat) : Int) * r.den + (r.num.natAbs % r.den : Nat)
          = r.num := by
        rw [← top]
        exact_mod_cast Nat.div_add_mod' r.num.natAbs r.den
      rw [value, joined, Rat.mkRat_self]

end Literal

/-- The school form of a rational that is not negative reads as the rational. -/
theorem readNumber_schoolForm {r : Rat} (h : 0 ≤ r) : readNumber (schoolForm r) = .ok r := by
  have nonneg : ¬ r < 0 := by grind
  rw [schoolForm, if_neg nonneg,
    readNumber_of_read (Literal.read_render (Literal.denominator_school r)),
    Literal.value_school h]

end ArithDrill
