import ArithDrill.Proofs.Numbers
import Mathlib.Algebra.Field.Rat
import Mathlib.Data.Nat.Digits.Defs
import Mathlib.Tactic.FieldSimp

/-!
# Which texts are read as numbers

A text is read as a number exactly if it is spelled in one of the three forms and its denominator is
not made of zeros alone.  Otherwise it is refused: as empty if there is nothing to read, for its
denominator if only that is wrong, and as malformed if it has none of the forms.  What is read is
written again without the zeros in front of a run of digits that stand for nothing.

## Main definitions

* `withoutZeros` — a run of digits without superfluous zeros in front.
* `Spelling.plain` — a spelling without such zeros.
* `Spelling.ZeroDenominator` — the denominator is all zeros.
* `Spelling.value` — the rational that is spelled, by its runs of digits.

## Main statements

* `Numeral.number_eq_ofDigits` — a run of digits is read in base ten.
* `Numeral.write_number` — it is written again without superfluous zeros.
* `Numeral.number_eq_zero_iff` — it stands for zero exactly if it is all zeros.
* `Literal.read_decides` — what is read, and what is refused for which reason.
-/

namespace ArithDrill

/-- A run of digits without the zeros in front that another digit follows. -/
def withoutZeros : Text → Text
  | [] => []
  | [c] => [c]
  | c :: d :: ds => if c = '0' then withoutZeros (d :: ds) else c :: d :: ds

/-! ## Runs of digits -/

/-- A digit is the sign of a number below ten. -/
private theorem exists_digitChar {c : Char} (h : c.isDigit = true) :
    ∃ d < 10, Nat.digitChar d = c := by
  obtain ⟨low, high⟩ := Char.isDigit_iff_toNat.1 h
  have zero : '0'.toNat = 48 := rfl
  have nine : '9'.toNat = 57 := rfl
  have small : c.toNat - 48 < 10 := by omega
  refine ⟨c.toNat - 48, small, Char.toNat_inj.1 ?_⟩
  rw [Nat.toNat_digitChar_of_lt_ten small]
  omega

/-- Behind a number that is not zero all digits count. -/
private theorem toDigits_append {cs : Text} {acc : Nat} (pos : 0 < acc)
    (digits : ∀ c ∈ cs, c.isDigit = true) :
    Nat.toDigits 10 acc ++ cs = Nat.toDigits 10 (Nat.ofDigitChars 10 cs acc) := by
  induction cs generalizing acc with
  | nil => simp
  | cons c cs ih =>
    obtain ⟨first, others⟩ := List.forall_mem_cons.1 digits
    obtain ⟨d, small, rfl⟩ := exists_digitChar first
    have one_more : Nat.toDigits 10 acc ++ [d.digitChar] = Nat.toDigits 10 (10 * acc + d) := by
      rw [← Nat.toDigits_append_toDigits (by decide) pos small, Nat.toDigits_of_lt_base small]
    rw [Nat.ofDigitChars_cons_digitChar_of_lt_ten small, ← ih (by omega) others, ← one_more,
      List.append_assoc, List.singleton_append]

/-- A run of digits is written again without superfluous zeros. -/
private theorem toDigits_ofDigitChars {t : Text} (some_digit : t ≠ [])
    (digits : ∀ c ∈ t, c.isDigit = true) :
    Nat.toDigits 10 (Nat.ofDigitChars 10 t 0) = withoutZeros t := by
  induction t with
  | nil => exact absurd rfl some_digit
  | cons c cs ih =>
    obtain ⟨first, others⟩ := List.forall_mem_cons.1 digits
    obtain ⟨d, small, rfl⟩ := exists_digitChar first
    rw [Nat.ofDigitChars_cons_digitChar_of_lt_ten small, Nat.mul_zero, Nat.zero_add]
    cases cs with
    | nil => rw [Nat.ofDigitChars_nil, Nat.toDigits_of_lt_base small, withoutZeros]
    | cons c cs =>
      rw [withoutZeros]
      split
      · rename_i zero
        rw [Nat.digitChar_eq_zero.1 zero]
        exact ih (List.cons_ne_nil c cs) others
      · rename_i other
        have pos : 0 < d := Nat.pos_of_ne_zero fun zero => other (Nat.digitChar_eq_zero.2 zero)
        rw [← toDigits_append pos others, Nat.toDigits_of_lt_base small, List.singleton_append]

/-- Only zeros stand for zero. -/
private theorem ofDigitChars_eq_zero_iff {t : Text} {acc : Nat}
    (digits : ∀ c ∈ t, c.isDigit = true) :
    Nat.ofDigitChars 10 t acc = 0 ↔ acc = 0 ∧ ∀ c ∈ t, c = '0' := by
  induction t generalizing acc with
  | nil => simp
  | cons c cs ih =>
    obtain ⟨first, others⟩ := List.forall_mem_cons.1 digits
    obtain ⟨d, small, rfl⟩ := exists_digitChar first
    rw [Nat.ofDigitChars_cons_digitChar_of_lt_ten small, ih others, List.forall_mem_cons,
      Nat.digitChar_eq_zero, ← and_assoc]
    exact and_congr_left fun _ => by omega

namespace Numeral

variable (n : Numeral)

/-- A run of digits is read in base ten. -/
theorem number_eq_ofDigits :
    n.number = Nat.ofDigits 10 (n.text.reverse.map fun c => c.toNat - '0'.toNat) := by
  rw [number, Nat.ofDigitChars_eq_foldl, Nat.ofDigits_eq_foldr, List.foldr_map,
    List.foldr_reverse]
  simp [Nat.add_comm]

/-- A number that is read is written again without superfluous zeros. -/
theorem write_number : Decimal.write n.number = withoutZeros n.text :=
  toDigits_ofDigitChars n.ne_nil fun _ => isDigit_of_mem

/-- A run of digits stands for zero exactly if it is all zeros. -/
theorem number_eq_zero_iff : n.number = 0 ↔ ∀ c ∈ n.text, c = '0' := by
  rw [number, ofDigitChars_eq_zero_iff fun _ => isDigit_of_mem]
  simp

end Numeral

/-! ## Spellings -/

namespace Spelling

/-- The text of a spelling without superfluous zeros. -/
def plain : Spelling → Text
  | whole n => withoutZeros n.text
  | fraction num den => withoutZeros num.text ++ '/' :: withoutZeros den.text
  | mixed units num den =>
    withoutZeros units.text ++ '\'' :: (withoutZeros num.text ++ '/' :: withoutZeros den.text)

/-- The denominator is all zeros. -/
def ZeroDenominator : Spelling → Prop
  | whole _ => False
  | fraction _ den | mixed _ _ den => ∀ c ∈ den.text, c = '0'

/-- The rational that is spelled: units plus numerator over denominator, where there are any. -/
def value : Spelling → Rat
  | whole n => n.number
  | fraction num den => num.number / den.number
  | mixed units num den => units.number + num.number / den.number

variable {w : Spelling}

theorem denominator_literal_eq_zero_iff : w.literal.denominator = 0 ↔ w.ZeroDenominator := by
  cases w with
  | whole n => simp [literal, Literal.denominator, ZeroDenominator]
  | fraction num den => exact den.number_eq_zero_iff
  | mixed units num den => exact den.number_eq_zero_iff

/-- The literal that is spelled is written without superfluous zeros. -/
theorem render_literal (w : Spelling) : w.literal.render = w.plain := by
  cases w <;> simp [literal, Literal.render, plain, Numeral.write_number]

/-- The literal that is spelled has the value that is spelled. -/
theorem value_literal (h : ¬w.ZeroDenominator) : w.literal.value = w.value := by
  cases w with
  | whole n => rfl
  | fraction num den => simp [literal, Literal.value, value, Rat.mkRat_eq_div]
  | mixed units num den =>
    have nonzero : (den.number : Rat) ≠ 0 :=
      Nat.cast_ne_zero.2 fun zero => h (den.number_eq_zero_iff.1 zero)
    simp only [literal, Literal.value, value, Rat.mkRat_eq_div]
    push_cast
    field_simp

end Spelling

/-! ## Reading -/

namespace Literal

/-- What is read as a number, and what is refused for which reason.  A number is read from the texts
of spellings that have a denominator other than zero.  A text is refused as empty if it is empty,
for its denominator if it is the text of another spelling, and as malformed if it is none.  The
literal that is read is written without superfluous zeros, and its value is that of its runs of
digits, read in base ten. -/
theorem read_decides (t : Text) :
    (∀ l, read t = .ok l ↔
      ∃ w : Spelling, w.text = t ∧ ¬w.ZeroDenominator ∧ w.literal = l) ∧
    (read t = .error .empty ↔ t = []) ∧
    (∀ u, read t = .error (.zeroDenominator u) ↔
      u = t ∧ ∃ w : Spelling, w.text = t ∧ w.ZeroDenominator) ∧
    (∀ u, read t = .error (.malformed u) ↔ u = t ∧ t ≠ [] ∧ ∀ w : Spelling, w.text ≠ t) ∧
    (∀ w : Spelling, w.text = t → ¬w.ZeroDenominator →
      w.literal.render = w.plain ∧ w.literal.value = w.value) ∧
    ∀ n : Numeral,
      n.number = Nat.ofDigits 10 (n.text.reverse.map fun c => c.toNat - '0'.toNat) := by
  refine ⟨fun l => ?_, read_eq_empty_iff, fun u => ?_, fun u => ?_,
    fun w _ nonzero => ⟨w.render_literal, Spelling.value_literal nonzero⟩,
    Numeral.number_eq_ofDigits⟩
  · rw [read_eq_ok_iff, shape?_eq_some_iff]
    constructor
    · rintro ⟨-, ⟨w, rfl, rfl⟩, nonzero⟩
      exact ⟨w, rfl, fun zero => nonzero (Spelling.denominator_literal_eq_zero_iff.2 zero), rfl⟩
    · rintro ⟨w, rfl, nonzero, rfl⟩
      exact ⟨w.text_ne_nil, ⟨w, rfl, rfl⟩,
        fun zero => nonzero (Spelling.denominator_literal_eq_zero_iff.1 zero)⟩
  · rw [read_eq_zeroDenominator_iff]
    refine and_congr_right fun _ => ⟨?_, ?_⟩
    · rintro ⟨l, shape, zero⟩
      obtain ⟨w, rfl, rfl⟩ := shape?_eq_some_iff.1 shape
      exact ⟨w, rfl, Spelling.denominator_literal_eq_zero_iff.1 zero⟩
    · rintro ⟨w, rfl, zero⟩
      exact ⟨w.literal, shape?_text w, Spelling.denominator_literal_eq_zero_iff.2 zero⟩
  · rw [read_eq_malformed_iff]
    refine and_congr_right fun _ => and_congr_right fun _ => ⟨?_, ?_⟩
    · rintro shape w rfl
      simp [shape?_text] at shape
    · intro none_spelled
      cases shape : shape? t with
      | none => rfl
      | some l =>
        obtain ⟨w, text, -⟩ := shape?_eq_some_iff.1 shape
        exact absurd text (none_spelled w)

/-- `02'003/4` is read as `2'3/4`, with the value `2 + 3/4`.  The text `1/00` is refused for its
denominator, and `1''2` as malformed, for it is not the text of any spelling. -/
theorem read_decides_zeros :
    let t := "02'003/4".toList
    let w : Spelling := .mixed ⟨"02".toList, rfl⟩ ⟨"003".toList, rfl⟩ ⟨"4".toList, rfl⟩
    (w.text = t ∧ ¬w.ZeroDenominator ∧ read t = .ok w.literal ∧
      w.literal.render = w.plain ∧ w.plain = "2'3/4".toList ∧
      w.literal.value = w.value ∧ w.value = 2 + 3 / 4) ∧
    read "1/00".toList = .error (.zeroDenominator "1/00".toList) ∧
    read "1''2".toList = .error (.malformed "1''2".toList) ∧
    ∀ w : Spelling, w.text ≠ "1''2".toList := by
  intro t w
  have nonzero : ¬w.ZeroDenominator := by
    intro zero
    exact absurd (zero '4' (by decide)) (by decide)
  obtain ⟨reads, -, -, -, written, -⟩ := read_decides t
  obtain ⟨render, value⟩ := written w rfl nonzero
  obtain ⟨-, -, zeros, -⟩ := read_decides "1/00".toList
  have malformed : read "1''2".toList = .error (.malformed "1''2".toList) := by rfl
  obtain ⟨-, -, -, forms, -⟩ := read_decides "1''2".toList
  refine ⟨⟨rfl, nonzero, (reads w.literal).2 ⟨w, rfl, nonzero, rfl⟩, render, rfl, value, ?_⟩,
    (zeros _).2 ⟨rfl, .fraction ⟨['1'], rfl⟩ ⟨['0', '0'], rfl⟩, rfl, ?_⟩, malformed,
    ((forms _).1 malformed).2.2⟩
  · rfl
  · simp [Spelling.ZeroDenominator]

end Literal

end ArithDrill
