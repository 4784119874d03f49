import ArithDrill.Text.Basic

/-!
# Decimal numerals

Natural numbers in base ten.  Only the ten ASCII digits count as digits; a numeral may have
superfluous leading zeros when it is read, and is written without them.

## Main definitions

* `Decimal.write` — the numeral of a number.
* `Decimal.read?` — the number of a non-empty run of digits.
* `Decimal.readWord?` — the number of a setting, which has at most 64 bits.

## Main statements

* `Decimal.isNumeral_iff` — what a numeral is.
* `Decimal.read?_write` — a written numeral is read back.
-/

namespace ArithDrill.Decimal

/-- The numeral of `n`, without superfluous leading zeros. -/
def write (n : Nat) : Text := Nat.toDigits 10 n

/-- Whether a text is a numeral: a non-empty run of ASCII digits. -/
def isNumeral (t : Text) : Bool := !t.isEmpty && t.all Char.isDigit

theorem isNumeral_iff {t : Text} : isNumeral t = true ↔ t ≠ [] ∧ ∀ c ∈ t, c.isDigit = true := by
  simp [isNumeral]

/-- The number that a numeral stands for; `none` for any other text. -/
def read? (t : Text) : Option Nat :=
  if isNumeral t then some (Nat.ofDigitChars 10 t 0) else none

/-- The number that a setting spells: a numeral, with or without a plus sign, within 64 bits. -/
def readWord? (t : Text) : Option Nat :=
  let digits := if t.head? = some '+' then t.tail else t
  (read? digits).filter fun n => n < UInt64.size

/-- A numeral has at least one digit. -/
theorem write_ne_nil (n : Nat) : write n ≠ [] := by
  simp [write]

/-- A numeral consists of digits. -/
theorem isDigit_of_mem_write {n : Nat} {c : Char} (h : c ∈ write n) : c.isDigit = true :=
  Nat.isDigit_of_mem_toDigits (by decide) (by decide) h

/-- What is written is a numeral. -/
theorem isNumeral_write (n : Nat) : isNumeral (write n) = true :=
  isNumeral_iff.2 ⟨write_ne_nil n, fun _ => isDigit_of_mem_write⟩

/-- Reading undoes writing. -/
@[simp] theorem read?_write (n : Nat) : read? (write n) = some n := by
  rw [read?, if_pos (isNumeral_write n), write,
    Nat.ofDigitChars_toDigits (by decide) (by decide)]

end ArithDrill.Decimal
