import ArithDrill.Proofs.Numbers

/-!
# Tokens of written lines

An equals sign is no part of a token, so a line is scanned as its compact form, whether or not it
ends in one.  There every character that is not of a number ends the number before it, which lets a
line be scanned piece by piece.

## Main definitions

* `Token.isTokenChar` — whether a character is part of a token.

## Main statements

* `Token.scan_eq_scanFrom` — a line is scanned as its compact form.
* `Token.scan_append_equals` — the equals sign of an exercise adds no token.
* `Token.scanFrom_openParen`, `Token.scanFrom_closeParen`, `Token.scanFrom_symbol` — the tokens
  of single characters.
* `Token.scanFrom_render` — a written literal is one token.
-/

namespace ArithDrill.Token

open Text

/-- An equals sign at the end adds no token. -/
theorem scanFrom_append_equals (run t : Text) : scanFrom run (t ++ ['=']) = scanFrom run t := by
  have no_token : scanFrom [] ['='] = [] := by decide
  rw [scanFrom_append (by decide), no_token, List.append_nil]

/-- A line is scanned as its compact form: the equals sign that is taken off its end would add no
token. -/
theorem scan_eq_scanFrom (t : Text) : scan t = scanFrom [] t.compact := by
  unfold scan stripped
  dsimp only
  split
  · rename_i sign
    obtain ⟨line, parts⟩ := List.getLast?_eq_some_iff.1 sign
    rw [parts, List.dropLast_concat, scanFrom_append_equals]
  · rfl

/-- The equals sign of an exercise adds no token, even after another one. -/
theorem scan_append_equals (t : Text) : scan (t ++ " =".toList) = scan t := by
  have sign : compact " =".toList = ['='] := by decide
  rw [scan_eq_scanFrom, scan_eq_scanFrom, compact_append, sign, scanFrom_append_equals]

/-- An opening parenthesis is a token. -/
theorem scanFrom_openParen (t : Text) : scanFrom [] ('(' :: t) = openParen :: scanFrom [] t := rfl

/-- A closing parenthesis is a token. -/
theorem scanFrom_closeParen (t : Text) :
    scanFrom [] (')' :: t) = closeParen :: scanFrom [] t := rfl

/-- The sign of an operator is no number character. -/
theorem isNumberChar_symbol (o : Op) : isNumberChar o.symbol = false := by cases o <;> decide

/-- The sign of an operator is a token. -/
theorem scanFrom_symbol (o : Op) (t : Text) :
    scanFrom [] (o.symbol :: t) = op o :: scanFrom [] t := by
  cases o <;> rfl

/-- A run of number characters is one token. -/
theorem scanFrom_of_isNumberChar {t : Text} (some_char : t ≠ [])
    (h : ∀ c ∈ t, isNumberChar c = true) : scanFrom [] t = [number t] := by
  have run := @scanFrom_append_of_isNumberChar [] t [] h
  rw [List.append_nil, List.append_nil] at run
  rw [run, scanFrom, emit, if_neg (by simpa using some_char), List.reverse_reverse]

/-- A written literal is one token. -/
theorem scanFrom_render (l : Literal) : scanFrom [] l.render = [number l.render] :=
  scanFrom_of_isNumberChar l.render_ne_nil fun _ => Literal.isNumberChar_of_mem_render

/-! ## The characters of tokens -/

/-- Whether a character is part of a token, as blanks and equals signs are not. -/
def isTokenChar (c : Char) : Bool := isNumberChar c || (ofChar? c).isSome

theorem isTokenChar_of_isNumberChar {c : Char} (h : isNumberChar c = true) :
    isTokenChar c = true := by
  simp [isTokenChar, h]

theorem isTokenChar_symbol (o : Op) : isTokenChar o.symbol = true := by cases o <;> decide

/-- A token that is a single character is no number, and the character is its text. -/
theorem text_of_ofChar? {c : Char} {t : Token} (h : ofChar? c = some t) :
    t.isNumber = false ∧ t.text = [c] := by
  unfold ofChar? at h
  split at h
  · cases h
    simp_all [isNumber, text]
  · split at h
    · cases h
      simp_all [isNumber, text]
    · obtain ⟨o, sign, rfl⟩ := Option.map_eq_some_iff.1 h
      simp [isNumber, text, Op.ofSymbol?_eq_some_iff.1 sign]

/-- The characters of tokens are the digits, the two marks of numbers, the four signs and the
parentheses. -/
theorem isTokenChar_iff {c : Char} :
    isTokenChar c = true ↔ c.isDigit = true ∨ c ∈ "/'+-×÷()".toList := by
  have single : (ofChar? c).isSome = true ↔ c ∈ "()+-×÷".toList := by
    unfold ofChar?
    split
    · rename_i opening
      simp [opening]
    · split
      · rename_i closing
        simp [closing]
      · rename_i no_opening no_closing
        simp [no_opening, no_closing, Op.isSome_ofSymbol?_iff]
  simp [isTokenChar, isNumberChar, single]
  grind

/-- A character of a token is not a blank. -/
theorem isBlank_of_isTokenChar {c : Char} (h : isTokenChar c = true) : isBlank c = false := by
  have signs : "/'+-×÷()".toList.all (fun d => !isBlank d) = true := by decide
  rcases isTokenChar_iff.1 h with digit | sign
  · exact isBlank_of_isNumberChar (by simp [isNumberChar, digit])
  · simpa using List.all_eq_true.1 signs c sign

/-- A text of such characters has no blanks to lose. -/
theorem compact_of_isTokenChar {t : Text} (h : ∀ c ∈ t, isTokenChar c = true) : t.compact = t :=
  List.filter_eq_self.2 fun c hc => by simp [isBlank_of_isTokenChar (h c hc)]

end ArithDrill.Token
