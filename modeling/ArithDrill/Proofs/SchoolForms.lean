import ArithDrill.Proofs.Numbers
import Mathlib.Algebra.Order.Ring.Unbundled.Rat
import Mathlib.Data.Nat.GCD.Basic
import Mathlib.Tactic.NormNum

/-!
# The school form of a rational

Every rational that is not negative is the value of exactly one literal which is a whole number or
has a proper fraction in lowest terms, and the school form is the text of this literal.  So it is
read as the rational that it was written for.  For a negative rational a minus sign stands in front
of the school form of its absolute value, and such a text is no number.

## Main definitions

* `Literal.IsSchool` — the literals of school forms.

## Main statements

* `Literal.isSchool_school` — the school form has such a literal.
* `Literal.school_value` — there is only one such literal for a value.
* `schoolForm_of_neg`, `readNumber_schoolForm_of_neg` — negative rationals.
* `schoolForm_injective` — different rationals have different school forms.
* `schoolForm_reads_back` — the three shapes, and reading them again.
-/

namespace ArithDrill

namespace Literal

/-- A literal as it is in a school form: whole, or with a proper fraction in lowest terms, which has
a numerator, and with units only where there are some. -/
def IsSchool : Literal → Prop
  | whole _ => True
  | fraction num den => 0 < num ∧ num < den ∧ num.Coprime den
  | mixed units num den => 1 ≤ units ∧ 0 < num ∧ num < den ∧ num.Coprime den

/-! ## The three shapes -/

section

variable {r : Rat}

/-- A whole number is written as such. -/
theorem school_of_isInt (h : r.isInt = true) : school r = whole r.num.natAbs := by
  have one : r.den = 1 := by simpa [Rat.isInt] using h
  rw [school, if_pos one]

/-- Below one there is only a fraction. -/
theorem school_of_lt_one (broken : r.isInt = false) (nonneg : 0 ≤ r) (below : r < 1) :
    school r = fraction r.num.natAbs r.den := by
  have not_one : r.den ≠ 1 := by simpa [Rat.isInt] using broken
  have proper : r.num.natAbs < r.den := by
    have num_nonneg : 0 ≤ r.num := Rat.num_nonneg.2 nonneg
    have num_lt : r.num < r.den := Rat.num_lt_denom_iff.2 below
    omega
  rw [school, if_neg not_one, if_pos (Nat.div_eq_of_lt proper), Nat.mod_eq_of_lt proper]

/-- From one on there are units before the fraction. -/
theorem school_of_one_le (broken : r.isInt = false) (large : 1 ≤ r) :
    school r = mixed (r.num.natAbs / r.den) (r.num.natAbs % r.den) r.den := by
  have not_one : r.den ≠ 1 := by simpa [Rat.isInt] using broken
  have improper : r.den ≤ r.num.natAbs := by
    have le_num : (r.den : Int) ≤ r.num := not_lt.1 fun less =>
      not_lt.2 large (Rat.num_lt_denom_iff.1 less)
    omega
  have units : r.num.natAbs / r.den ≠ 0 := (Nat.div_pos improper r.pos).ne'
  rw [school, if_neg not_one, if_neg units]

/-- The remainder of the numerator is the numerator of a proper fraction in lowest terms, unless the
rational is whole. -/
theorem remainder_isSchool (broken : r.den ≠ 1) :
    0 < r.num.natAbs % r.den ∧ r.num.natAbs % r.den < r.den ∧
      (r.num.natAbs % r.den).Coprime r.den := by
  have lowest : (r.num.natAbs % r.den).Coprime r.den := by
    rw [Nat.Coprime, ← Nat.gcd_rec, Nat.gcd_comm]
    exact r.reduced
  have not_zero : r.num.natAbs % r.den ≠ 0 := by
    intro zero
    rw [zero, Nat.coprime_zero_left] at lowest
    exact broken lowest
  exact ⟨Nat.pos_of_ne_zero not_zero, Nat.mod_lt _ r.pos, lowest⟩

end

/-- The school form is a whole number or has a proper fraction in lowest terms. -/
theorem isSchool_school (r : Rat) : (school r).IsSchool := by
  unfold school
  dsimp only
  split
  · trivial
  · rename_i broken
    split
    · exact remainder_isSchool broken
    · rename_i units
      exact ⟨Nat.one_le_iff_ne_zero.2 units, remainder_isSchool broken⟩

/-! ## Only one literal for a value -/

/-- A fraction in lowest terms is a rational as it stands. -/
private theorem mkRat_of_coprime {num den : Nat} (lowest : num.Coprime den) (pos : den ≠ 0) :
    (mkRat num den).num.natAbs = num ∧ (mkRat num den).den = den := by
  rw [← Rat.mk_eq_mkRat num den pos lowest]
  exact ⟨rfl, rfl⟩

/-- The school form of the value of such a literal is this literal. -/
theorem school_value {l : Literal} (h : l.IsSchool) : school l.value = l := by
  cases l with
  | whole n =>
    rw [school_of_isInt (by simp [value, Rat.isInt])]
    simp [value]
  | fraction num den =>
    obtain ⟨pos, proper, lowest⟩ := h
    obtain ⟨num_eq, den_eq⟩ := mkRat_of_coprime lowest (by omega)
    have not_one : den ≠ 1 := by omega
    simp only [school, value, num_eq, den_eq]
    rw [if_neg not_one, if_pos (Nat.div_eq_of_lt proper), Nat.mod_eq_of_lt proper]
  | mixed units num den =>
    obtain ⟨some_units, pos, proper, lowest⟩ := h
    have all_lowest : (units * den + num).Coprime den :=
      (Nat.coprime_mul_right_add_left num den units).2 lowest
    obtain ⟨num_eq, den_eq⟩ := mkRat_of_coprime all_lowest (by omega)
    have not_one : den ≠ 1 := by omega
    have quotient : (units * den + num) / den = units := by
      rw [Nat.add_comm, Nat.add_mul_div_right _ _ (by omega), Nat.div_eq_of_lt proper,
        Nat.zero_add]
    have remainder : (units * den + num) % den = num := by
      rw [Nat.add_comm, Nat.add_mul_mod_self_right, Nat.mod_eq_of_lt proper]
    have cast : ((units : Int) * den + num) = ((units * den + num : Nat) : Int) := by push_cast; rfl
    simp only [school, value, cast, num_eq, den_eq]
    rw [if_neg not_one, quotient, remainder, if_neg (by omega)]

/-- The absolute value decides the literal. -/
theorem school_neg (r : Rat) : school (-r) = school r := by
  simp [school]

end Literal

/-! ## Texts -/

open Literal

variable {r s : Rat}

theorem schoolForm_of_nonneg (h : 0 ≤ r) : schoolForm r = (school r).render :=
  if_neg (not_lt.2 h)

/-- A negative rational has a minus sign in front of the school form of its absolute value. -/
theorem schoolForm_of_neg (h : r < 0) : schoolForm r = '-' :: schoolForm (-r) := by
  rw [schoolForm_of_nonneg (neg_nonneg.2 h.le), school_neg, schoolForm, if_pos h]

theorem read_schoolForm (h : 0 ≤ r) : Literal.read (schoolForm r) = .ok (school r) := by
  rw [schoolForm_of_nonneg h, read_render (denominator_school r)]

/-- A text that begins with a minus sign and goes on as a school form has no blanks to lose. -/
private theorem trim_schoolForm_of_neg (h : r < 0) : (schoolForm r).trim = schoolForm r := by
  rw [schoolForm_of_neg h, schoolForm_of_nonneg (neg_nonneg.2 h.le)]
  refine Text.trim_eq_self (fun c hc => ?_) fun c hc => ?_
  · obtain rfl : '-' = c := by simpa using hc
    decide
  · rcases List.mem_cons.1 (List.mem_of_getLast? hc) with rfl | digit
    · decide
    · exact Token.isBlank_of_isNumberChar (isNumberChar_of_mem_render digit)

/-- The school form of a negative rational is no number. -/
theorem readNumber_schoolForm_of_neg (h : r < 0) :
    readNumber (schoolForm r) = .error (.malformed (schoolForm r)) := by
  have no_shape : shape? (schoolForm r) = none := by
    cases shape : shape? (schoolForm r) with
    | none => rfl
    | some l =>
      have sign : '-' ∈ schoolForm r := by simp [schoolForm_of_neg h]
      exact absurd (isNumberChar_of_shape? shape sign) (by decide)
  have some_char : schoolForm r ≠ [] := by simp [schoolForm_of_neg h]
  rw [readNumber, trim_schoolForm_of_neg h, read_eq_malformed_iff.2 ⟨rfl, some_char, no_shape⟩]
  rfl

/-- Different rationals have different school forms. -/
theorem schoolForm_injective (same : schoolForm r = schoolForm s) : r = s := by
  have of_nonneg {x y : Rat} (hx : 0 ≤ x) (hy : 0 ≤ y) (same : schoolForm x = schoolForm y) :
      x = y := by
    have read := readNumber_schoolForm hx
    rw [same, readNumber_schoolForm hy] at read
    exact (Except.ok.inj read).symm
  rcases lt_or_ge r 0 with hr | hr <;> rcases lt_or_ge s 0 with hs | hs
  · rw [schoolForm_of_neg hr, schoolForm_of_neg hs] at same
    exact neg_inj.1 (of_nonneg (neg_nonneg.2 hr.le) (neg_nonneg.2 hs.le) (List.cons.inj same).2)
  · have read := readNumber_schoolForm hs
    rw [← same, readNumber_schoolForm_of_neg hr] at read
    cases read
  · have read := readNumber_schoolForm hr
    rw [same, readNumber_schoolForm_of_neg hs] at read
    cases read
  · exact of_nonneg hr hs same

/-- Every rational that is not negative is read back from its school form, which is a whole number
exactly where the rational is whole, has a fraction alone below one, and units and a fraction
otherwise.  Each fraction is proper and in lowest terms, and the school form is the only text of
such a literal with this value.  A negative rational has a minus sign in front, and its school form
is no number.  So whatever a text reads as is read back, and different rationals have different
school forms. -/
theorem schoolForm_reads_back :
    (∀ r : Rat, 0 ≤ r →
      readNumber (schoolForm r) = .ok r ∧
      (r.isInt = true →
        ∃ n : Nat, Literal.read (schoolForm r) = .ok (.whole n) ∧ (n : Rat) = r) ∧
      (r.isInt = false → r < 1 →
        ∃ num den, Literal.read (schoolForm r) = .ok (.fraction num den) ∧
          0 < num ∧ num < den ∧ num.Coprime den) ∧
      (r.isInt = false → 1 ≤ r →
        ∃ units num den, Literal.read (schoolForm r) = .ok (.mixed units num den) ∧
          1 ≤ units ∧ 0 < num ∧ num < den ∧ num.Coprime den) ∧
      ∀ l : Literal, l.IsSchool → l.value = r → l.render = schoolForm r) ∧
    (∀ r : Rat, r < 0 →
      schoolForm r = '-' :: schoolForm (-r) ∧
      readNumber (schoolForm r) = .error (.malformed (schoolForm r))) ∧
    (∀ (t : Text) (v : Rat), readNumber t = .ok v → readNumber (schoolForm v) = .ok v) ∧
    ∀ r s : Rat, schoolForm r = schoolForm s → r = s := by
  refine ⟨fun r nonneg => ⟨readNumber_schoolForm nonneg, ?_, ?_, ?_, ?_⟩,
    fun r negative => ⟨schoolForm_of_neg negative, readNumber_schoolForm_of_neg negative⟩,
    fun t v read => readNumber_schoolForm (nonneg_of_readNumber read),
    fun r s => schoolForm_injective⟩
  · intro whole_number
    have shape := school_of_isInt whole_number
    refine ⟨_, shape ▸ read_schoolForm nonneg, ?_⟩
    have keeps := value_school nonneg
    rwa [shape] at keeps
  · intro broken below
    have shape := school_of_lt_one broken nonneg below
    have proper := isSchool_school r
    rw [shape] at proper
    exact ⟨_, _, shape ▸ read_schoolForm nonneg, proper⟩
  · intro broken large
    have shape := school_of_one_le broken large
    have proper := isSchool_school r
    rw [shape] at proper
    exact ⟨_, _, _, shape ▸ read_schoolForm nonneg, proper⟩
  · rintro l isSchool rfl
    rw [schoolForm_of_nonneg nonneg, school_value isSchool]

/-- Eleven quarters have the school form `2'3/4`, with units; two thirds have none, and two has no
fraction.  The school form of minus three halves is no number, and the value of the answer `6/4` is
read back from its school form. -/
theorem school_form_of_eleven_quarters :
    let r : Rat := 11 / 4
    let l : Literal := .mixed 2 3 4
    0 ≤ r ∧ readNumber (schoolForm r) = .ok r ∧
    (r.isInt = false ∧ 1 ≤ r ∧ ∃ units num den,
      Literal.read (schoolForm r) = .ok (.mixed units num den) ∧
        1 ≤ units ∧ 0 < num ∧ num < den ∧ num.Coprime den) ∧
    (l.IsSchool ∧ l.value = r ∧ l.render = schoolForm r) ∧
    ((0 : Rat) ≤ 2 / 3 ∧ (2 / 3 : Rat).isInt = false ∧ (2 / 3 : Rat) < 1 ∧
      ∃ num den, Literal.read (schoolForm (2 / 3)) = .ok (.fraction num den) ∧
        0 < num ∧ num < den ∧ num.Coprime den) ∧
    ((0 : Rat) ≤ 2 ∧ (2 : Rat).isInt = true ∧
      ∃ n : Nat, Literal.read (schoolForm 2) = .ok (.whole n) ∧ (n : Rat) = 2) ∧
    ((-3 / 2 : Rat) < 0 ∧ schoolForm (-3 / 2) = '-' :: schoolForm (-(-3 / 2)) ∧
      readNumber (schoolForm (-3 / 2)) = .error (.malformed (schoolForm (-3 / 2)))) ∧
    readNumber " 6/4 ".toList = .ok (3 / 2) ∧ readNumber (schoolForm (3 / 2)) = .ok (3 / 2) ∧
    ∀ s : Rat, schoolForm r = schoolForm s → r = s := by
  intro r l
  obtain ⟨nonnegative, negative, again, apart⟩ := schoolForm_reads_back
  have pos : (0 : Rat) ≤ 11 / 4 := by norm_num
  have pos' : (0 : Rat) ≤ 2 / 3 := by norm_num
  have broken : (11 / 4 : Rat).isInt = false := by decide +kernel
  have broken' : (2 / 3 : Rat).isInt = false := by decide +kernel
  have large : (1 : Rat) ≤ 11 / 4 := by norm_num
  have below : (2 / 3 : Rat) < 1 := by norm_num
  have less : (-3 / 2 : Rat) < 0 := by norm_num
  have isSchool : (Literal.mixed 2 3 4).IsSchool := by simp only [IsSchool]; decide
  have value : (Literal.mixed 2 3 4).value = 11 / 4 := by decide +kernel
  have halves : readNumber " 6/4 ".toList = .ok (3 / 2) := by decide +kernel
  obtain ⟨back, -, -, mixed, unique⟩ := nonnegative (11 / 4) pos
  obtain ⟨-, -, fraction, -, -⟩ := nonnegative (2 / 3) pos'
  obtain ⟨-, whole, -, -, -⟩ := nonnegative 2 (by norm_num)
  exact ⟨pos, back, ⟨broken, large, mixed broken large⟩,
    ⟨isSchool, value, unique l isSchool value⟩,
    ⟨pos', broken', below, fraction broken' below⟩,
    ⟨by norm_num, rfl, whole rfl⟩, ⟨less, negative (-3 / 2) less⟩, halves,
    again " 6/4 ".toList (3 / 2) halves, apart r⟩

end ArithDrill
