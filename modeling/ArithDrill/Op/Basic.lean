import ArithDrill.Text.Basic

/-!
# Operators

The four operators of school arithmetic, with the signs that pupils write: `÷` divides, while
the bar of a fraction belongs to the number.

## Main definitions

* `Op` — the four operators.
* `Op.symbol`, `Op.ofSymbol?` — the written sign of an operator, and back.
* `Op.precedence` — `×` and `÷` bind tighter than `+` and `-`.
* `Op.isCommutative` — whether the operands may be swapped.

## Main statements

* `Op.ofSymbol?_eq_some_iff` — an operator is read from its own sign and from no other.
-/

namespace ArithDrill

/-- An arithmetic operator. -/
inductive Op where
  /-- Addition, written `+`. -/
  | add
  /-- Subtraction, written `-`. -/
  | sub
  /-- Multiplication, written `×`. -/
  | mul
  /-- Division, written `÷`. -/
  | div
  deriving DecidableEq, Repr, Inhabited

namespace Op

/-- The operators, in the order in which they are numbered for drawing. -/
def all : List Op := [add, sub, mul, div]

/-- The sign with which an operator is written. -/
def symbol : Op → Char
  | add => '+'
  | sub => '-'
  | mul => '×'
  | div => '÷'

/-- The operator with a given sign. -/
def ofSymbol? (c : Char) : Option Op := all.find? fun o => o.symbol == c

/-- How tightly an operator binds; operators of one precedence associate to the left. -/
def precedence : Op → Nat
  | add | sub => 1
  | mul | div => 2

/-- Whether swapping the operands never changes the value. -/
def isCommutative : Op → Bool
  | add | mul => true
  | sub | div => false

/-- There are two precedences. -/
theorem precedence_eq (o : Op) : o.precedence = 1 ∨ o.precedence = 2 := by
  cases o
  · exact .inl rfl
  · exact .inl rfl
  · exact .inr rfl
  · exact .inr rfl

/-- Every operator is in the list. -/
theorem mem_all (o : Op) : o ∈ all := by cases o <;> decide

/-- An operator is read from its own sign and from no other character. -/
theorem ofSymbol?_eq_some_iff {c : Char} {o : Op} : ofSymbol? c = some o ↔ c = o.symbol := by
  constructor
  · intro h
    have sign := List.find?_some h
    exact (beq_iff_eq.1 sign).symm
  · rintro rfl
    cases o <;> decide

/-- Reading undoes writing. -/
@[simp] theorem ofSymbol?_symbol (o : Op) : ofSymbol? o.symbol = some o :=
  ofSymbol?_eq_some_iff.2 rfl

/-- The signs are four characters. -/
theorem isSome_ofSymbol?_iff {c : Char} :
    (ofSymbol? c).isSome = true ↔ c = '+' ∨ c = '-' ∨ c = '×' ∨ c = '÷' := by
  rw [Option.isSome_iff_exists]
  constructor
  · rintro ⟨o, sign⟩
    rw [ofSymbol?_eq_some_iff.1 sign]
    cases o <;> decide
  · rintro (rfl | rfl | rfl | rfl)
    · exact ⟨.add, rfl⟩
    · exact ⟨.sub, rfl⟩
    · exact ⟨.mul, rfl⟩
    · exact ⟨.div, rfl⟩

end Op

end ArithDrill
