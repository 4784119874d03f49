import ArithDrill.Proofs.Agreement
import ArithDrill.Proofs.RoundTrip

/-!
# Answers read as lines

An answer is trimmed and read as a number.  A line loses all its blanks, is scanned into tokens and
is read as an expression, in which the numbers are read once more.  Where an answer can be read,
both come to the same number: nothing inside of a number is a blank, and a number is scanned in one
piece.  A text of number characters alone is a single token, so that it is refused as a line for the
reason for which it is refused as an answer.

## Main statements

* `Token.scan_trim` — the blanks around a line make no difference.
* `Expr.ofTokens_number`, `evaluateTokens_number` — a single number as an expression.
* `answer_read_as_line` — the two readings agree.
-/

namespace ArithDrill

/-! ## Blanks around a line -/

namespace Text

/-- Dropping blanks from the front takes away nothing else. -/
private theorem compact_dropWhile (t : Text) : compact (t.dropWhile isBlank) = compact t := by
  induction t with
  | nil => rfl
  | cons c cs ih =>
    by_cases blank : isBlank c = true
    · rw [List.dropWhile_cons_of_pos blank, ih]
      simp [compact, blank]
    · rw [List.dropWhile_cons_of_neg blank]

/-- Trimming takes away nothing but blanks. -/
theorem compact_trim (t : Text) : t.trim.compact = t.compact := by
  have reversed (u : Text) : compact u.reverse = (compact u).reverse := List.filter_reverse
  rw [trim, trimEnd, reversed, compact_dropWhile, reversed, List.reverse_reverse, trimStart,
    compact_dropWhile]

end Text

namespace Token

/-- The blanks around a line make no difference. -/
theorem scan_trim (t : Text) : scan t.trim = scan t := by
  rw [scan_eq_scanFrom, scan_eq_scanFrom, Text.compact_trim]

/-- A line of number characters alone is one token. -/
theorem scan_of_isNumberChar {t : Text} (some_char : t ≠ [])
    (h : ∀ c ∈ t, isNumberChar c = true) : scan t = [number t] := by
  have no_blanks := compact_of_isTokenChar fun c hc => isTokenChar_of_isNumberChar (h c hc)
  rw [scan_eq_scanFrom, no_blanks, scanFrom_of_isNumberChar some_char h]

/-- A number with blanks around it is one token. -/
theorem scan_of_read {t : Text} {l : Literal} (h : Literal.read t.trim = .ok l) :
    scan t = [number t.trim] := by
  rw [← scan_trim]
  exact scan_of_isNumberChar (Literal.read_eq_ok_iff.1 h).1 (Literal.isNumberChar_of_read h)

end Token

/-! ## A single number -/

/-- A single number is a leaf, or is refused for the number. -/
theorem Expr.ofTokens_number (t : Text) :
    ofTokens [.number t] =
      match Literal.read t with
      | .error x => .error (.literal x)
      | .ok l => .ok (.leaf l) := by
  have factor := Parser.plain_factor_number t []
  cases read : Literal.read t with
  | error x =>
    rw [read] at factor
    rw [ofTokens_eq, Parser.plain_sum, Parser.plain_product, factor]
    rfl
  | ok l =>
    rw [read] at factor
    rw [ofTokens_eq, plain_sum_of_factor factor (by simp [Parser.StopsBelow])]
    rfl

/-- A single number has its own value, or none for the reason for which it is refused. -/
theorem evaluateTokens_number (t : Text) :
    evaluateTokens [.number t] =
      match Literal.read t with
      | .error x => .error (.unreadable (.literal x))
      | .ok l => .ok (some l.value) := by
  rw [evaluateTokens_eq_evaluateTree (by simp), evaluateTree, Expr.ofTokens_number]
  cases Literal.read t <;> rfl

/-- The two readings agree.  An answer that reads as a number has the same value as a line, with and
without the equals sign of an exercise, and as a line it is nothing but this number.  A text of
digits, slashes and apostrophes is refused as an answer exactly if it is refused as a line for its
number, and for the same reason. -/
theorem answer_read_as_line (t : Text) :
    (∀ v, readNumber t = .ok v → ∀ line, line = t ∨ line = t ++ " =".toList →
      evaluate line = .ok (some v) ∧ ∃ l, Expr.ofText line = .ok (.leaf l) ∧ l.value = v) ∧
    (t ≠ [] → (∀ c ∈ t, c.isDigit = true ∨ c = '/' ∨ c = '\'') →
      ∀ x, readNumber t = .error x ↔ evaluate t = .error (.unreadable (.literal x))) := by
  constructor
  · rintro v reads line with_sign
    obtain ⟨l, read, value⟩ := readNumber_eq_ok_iff.1 reads
    have tokens : Token.scan line = [.number t.trim] := by
      rw [← Token.scan_of_read read]
      rcases with_sign with rfl | rfl
      · rfl
      · exact Token.scan_append_equals t
    rw [evaluate, Expr.ofText, tokens, evaluateTokens_number, Expr.ofTokens_number, read, ← value]
    exact ⟨rfl, l, rfl, rfl⟩
  · intro some_char marks x
    have digits : ∀ c ∈ t, Token.isNumberChar c = true := fun c hc => by
      simpa [Token.isNumberChar, or_assoc] using marks c hc
    rw [readNumber, Token.trim_of_isNumberChar digits, evaluate,
      Token.scan_of_isNumberChar some_char digits, evaluateTokens_number]
    cases Literal.read t <;> simp [Except.map]

/-- The answer `02'3/4`, with a no-break space before it and a line feed after it, is a line with
the value `11/4`.  The text `1/2/3` is refused as an answer and as a line, and so is `5/0`. -/
theorem answer_with_blanks_as_line :
    let t : Text := "\u00a002'3/4\n".toList
    let u : Text := "1/2/3".toList
    let w : Text := "5/0".toList
    (readNumber t = .ok (11 / 4) ∧ evaluate t = .ok (some (11 / 4)) ∧
      evaluate (t ++ " =".toList) = .ok (some (11 / 4))) ∧
    ((∀ c ∈ u, c.isDigit = true ∨ c = '/' ∨ c = '\'') ∧ readNumber u = .error (.malformed u) ∧
      evaluate u = .error (.unreadable (.literal (.malformed u)))) ∧
    readNumber w = .error (.zeroDenominator w) ∧
      evaluate w = .error (.unreadable (.literal (.zeroDenominator w))) := by
  intro t u w
  have trimmed : t.trim = "02'3/4".toList := by decide
  have read : Literal.read t.trim = .ok (.mixed 2 3 4) := by
    rw [trimmed]
    rfl
  have value : (Literal.mixed 2 3 4).value = 11 / 4 := by decide +kernel
  have number : readNumber t = .ok (11 / 4) := readNumber_eq_ok_iff.2 ⟨_, read, value⟩
  have malformed : readNumber u = .error (.malformed u) := by rfl
  have zero : readNumber w = .error (.zeroDenominator w) := by rfl
  have marks : ∀ c ∈ u, c.isDigit = true ∨ c = '/' ∨ c = '\'' := by simp [u]
  obtain ⟨same, -⟩ := answer_read_as_line t
  have plain := same _ number t (.inl rfl)
  have signed := same _ number (t ++ " =".toList) (.inr rfl)
  exact ⟨⟨number, plain.1, signed.1⟩,
    ⟨marks, malformed, ((answer_read_as_line u).2 (by simp [u]) marks _).1 malformed⟩,
    zero, ((answer_read_as_line w).2 (by simp [w]) (by simp [w]) _).1 zero⟩

end ArithDrill
