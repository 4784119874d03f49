import ArithDrill.Proofs.Spacing

/-!
# Scanning piece by piece

Scanning loses nothing but the characters that belong to no token, and a number is as long as it
can be.  So a line that is cut in two gives the tokens of both pieces, one after the other, but for
one case: where a number character stands on either side of the cut, blanks aside, the number at the
end of the first piece and the number at the beginning of the second are one number of the line.

A run of number characters is open on both sides.  On its left it takes up whatever run stands
before it, and on its right it goes on into what follows; the two lemmas about open runs say this
without cutting the run out of its piece.

## Main definitions

* `Token.endsInNumber`, `Token.beginsWithNumber` — the sides on which a text is open.

## Main statements

* `Token.flatMap_text_scan` — the texts of the tokens are the characters that belong to tokens.
* `Token.whole_of_mem_scan` — a number token is a run of number characters.
* `Token.scanFrom_of_last`, `Token.scanFrom_of_first` — the two sides of an open run.
* `Token.scan_piece_by_piece` — what scanning keeps, and how two pieces of a line scan.
-/

namespace ArithDrill.Token

open Text

variable {t : Token} {run a b : Text}

/-! ## The characters that are kept -/

/-- The run goes in front of the texts of the tokens after it. -/
theorem flatMap_text_emit (run : Text) (ts : List Token) :
    (emit run ts).flatMap text = run.reverse ++ ts.flatMap text := by
  cases run with
  | nil => rfl
  | cons d ds => simp [emit, text]

/-- No character of a token is lost, and no other one is kept. -/
theorem flatMap_text_scanFrom (run line : Text) :
    (scanFrom run line).flatMap text = run.reverse ++ line.filter isTokenChar := by
  induction line generalizing run with
  | nil => simp [scanFrom, flatMap_text_emit]
  | cons d ds ih =>
    by_cases digit : isNumberChar d = true
    · simp [scanFrom, digit, ih, isTokenChar]
    · cases single : ofChar? d with
      | none => simp [scanFrom, digit, single, flatMap_text_emit, ih, isTokenChar]
      | some u =>
        simp [scanFrom, digit, single, flatMap_text_emit, ih, isTokenChar,
          (text_of_ofChar? single).2]

/-- The texts of the tokens of a line are the characters of the line that belong to tokens. -/
theorem flatMap_text_scan (line : Text) : (scan line).flatMap text = line.filter isTokenChar := by
  rw [scan_eq_scanFrom, flatMap_text_scanFrom, compact, List.filter_filter]
  refine (List.nil_append _).trans (List.filter_congr fun d _ => ?_)
  by_cases char : isTokenChar d = true
  · simp [char, isBlank_of_isTokenChar char]
  · simp [char]

/-- A run of number characters is scanned as one. -/
theorem whole_of_mem_emit {ts : List Token} (digits : ∀ d ∈ run, isNumberChar d = true)
    (later : ∀ u ∈ ts, u.Whole) (h : t ∈ emit run ts) : t.Whole := by
  unfold emit at h
  split at h
  · exact later t h
  · rename_i some_char
    rcases List.mem_cons.1 h with rfl | after
    · exact ⟨by simpa using some_char, fun d hd => digits d (List.mem_reverse.1 hd)⟩
    · exact later t after

/-- Every token of a line is scanned as one. -/
theorem whole_of_mem_scanFrom {line : Text} (digits : ∀ d ∈ run, isNumberChar d = true)
    (h : t ∈ scanFrom run line) : t.Whole := by
  induction line generalizing run t with
  | nil => exact whole_of_mem_emit digits (by simp) h
  | cons d ds ih =>
    rw [scanFrom] at h
    split at h
    · rename_i digit
      exact ih (by simpa [digit] using digits) h
    · refine whole_of_mem_emit digits (fun u hu => ?_) h
      rcases List.mem_append.1 hu with single | later
      · have other : u.isNumber = false := (text_of_ofChar? (by simpa using single)).1
        cases u with
        | number x => cases other
        | op o => trivial
        | openParen => trivial
        | closeParen => trivial
      · exact ih (by simp) later

theorem whole_of_mem_scan {line : Text} (h : t ∈ scan line) : t.Whole := by
  rw [scan_eq_scanFrom] at h
  exact whole_of_mem_scanFrom (by simp) h

/-! ## Open runs -/

/-- Whether the last character that is no blank is of a number. -/
def endsInNumber (line : Text) : Bool := line.compact.getLast?.any isNumberChar

/-- Whether the first character that is no blank is of a number. -/
def beginsWithNumber (line : Text) : Bool := line.compact.head?.any isNumberChar

/-- A piece that ends in a number character leaves a run open, and what follows goes on from it. -/
theorem scanFrom_of_last (last : a.getLast?.any isNumberChar = true) :
    ∃ ts open_run, open_run ≠ [] ∧
      ∀ rest, scanFrom run (a ++ rest) = ts ++ scanFrom open_run rest := by
  induction a generalizing run with
  | nil => simp at last
  | cons d ds ih =>
    by_cases single : ds = []
    · subst ds
      have digit : isNumberChar d = true := by simpa using last
      exact ⟨[], d :: run, by simp, fun rest => by simp [scanFrom, digit]⟩
    · rw [List.getLast?_cons_of_ne_nil single] at last
      by_cases digit : isNumberChar d = true
      · obtain ⟨ts, open_run, some_char, goes_on⟩ := @ih (d :: run) last
        exact ⟨ts, open_run, some_char, fun rest => by simp [scanFrom, digit, goes_on]⟩
      · obtain ⟨ts, open_run, some_char, goes_on⟩ := @ih [] last
        refine ⟨emit run ((ofChar? d).toList ++ ts), open_run, some_char, fun rest => ?_⟩
        simp [scanFrom, digit, goes_on, ← emit_append]

/-- A piece that begins with a number character takes up the run before it. -/
theorem scanFrom_of_first (first : b.head?.any isNumberChar = true) :
    ∃ digits ts, ∀ run, scanFrom run b = number (run.reverse ++ digits) :: ts := by
  induction b with
  | nil => simp at first
  | cons d ds ih =>
    have digit : isNumberChar d = true := by simpa using first
    cases ds with
    | nil => exact ⟨[d], [], fun run => by simp [scanFrom, digit, emit]⟩
    | cons e es =>
      by_cases more : isNumberChar e = true
      · obtain ⟨digits, ts, takes_up⟩ := ih (by simpa using more)
        refine ⟨d :: digits, ts, fun run => ?_⟩
        rw [scanFrom, if_pos digit, takes_up]
        simp
      · refine ⟨[d], (ofChar? e).toList ++ scanFrom [] es, fun run => ?_⟩
        simp [scanFrom, digit, more, emit]

/-! ## Two pieces of a line -/

/-- A piece that does not end in a number character leaves nothing open. -/
theorem scanFrom_append_of_last (closed : a.getLast?.any isNumberChar = false) (b : Text) :
    scanFrom [] (a ++ b) = scanFrom [] a ++ scanFrom [] b := by
  rcases List.eq_nil_or_concat a with rfl | ⟨line, d, rfl⟩
  · rfl
  · have other : isNumberChar d = false := by simpa using closed
    rw [List.concat_eq_append, List.append_assoc, List.singleton_append, scanFrom_append other,
      scanFrom_append other]
    simp [scanFrom, other]

/-- A piece that does not begin with a number character takes nothing up. -/
theorem scanFrom_append_of_first (a : Text) (closed : b.head?.any isNumberChar = false) :
    scanFrom [] (a ++ b) = scanFrom [] a ++ scanFrom [] b := by
  cases b with
  | nil => simp [scanFrom]
  | cons d ds => exact scanFrom_append (by simpa using closed)

/-- Where a run goes on across the cut, the last number of the first piece and the first number of
the second are one number. -/
theorem exists_scanFrom_append (last : a.getLast?.any isNumberChar = true)
    (first : b.head?.any isNumberChar = true) :
    ∃ ts x y us, scanFrom [] a = ts ++ [number x] ∧ scanFrom [] b = number y :: us ∧
      scanFrom [] (a ++ b) = ts ++ number (x ++ y) :: us := by
  obtain ⟨ts, open_run, some_char, goes_on⟩ := @scanFrom_of_last [] a last
  obtain ⟨digits, us, takes_up⟩ := scanFrom_of_first first
  refine ⟨ts, open_run.reverse, digits, us, ?_, takes_up [], ?_⟩
  · have alone := goes_on []
    rw [List.append_nil] at alone
    simp [alone, scanFrom, emit, some_char]
  · rw [goes_on, takes_up]

/-- Scanning loses nothing, and it may be done piece by piece.  The tokens of a line are made of its
digits, slashes, apostrophes, signs and parentheses, in order, and a number token is a run of number
characters.  Two pieces of a line give their tokens one after the other, unless the first ends in a
number character and the second begins with one, blanks aside; then the last token of the first and
the first token of the second are joined.  The equals sign of an exercise adds no token, whatever is
before it. -/
theorem scan_piece_by_piece :
    (∀ line, (scan line).flatMap text =
      line.filter fun c => c.isDigit = true ∨ c ∈ "/'+-×÷()".toList) ∧
    (∀ line x, number x ∈ scan line →
      x ≠ [] ∧ ∀ c ∈ x, c.isDigit = true ∨ c = '/' ∨ c = '\'') ∧
    (∀ a b, ¬ (endsInNumber a = true ∧ beginsWithNumber b = true) →
      scan (a ++ b) = scan a ++ scan b) ∧
    (∀ a b, endsInNumber a = true → beginsWithNumber b = true →
      ∃ ts x y us, scan a = ts ++ [number x] ∧ scan b = number y :: us ∧
        scan (a ++ b) = ts ++ number (x ++ y) :: us) ∧
    ∀ line, scan (line ++ " =".toList) = scan line := by
  refine ⟨fun line => ?_, fun line x h => ?_, fun a b apart => ?_, fun a b last first => ?_,
    scan_append_equals⟩
  · rw [flatMap_text_scan]
    refine List.filter_congr fun c _ => ?_
    rw [Bool.eq_iff_iff, isTokenChar_iff, decide_eq_true_iff]
  · have whole : (number x).Whole := whole_of_mem_scan h
    refine ⟨whole.1, fun c hc => ?_⟩
    simpa [isNumberChar, or_assoc] using whole.2 c hc
  · rw [scan_eq_scanFrom, scan_eq_scanFrom, scan_eq_scanFrom, compact_append]
    by_cases last : endsInNumber a = true
    · have closed : beginsWithNumber b = false := by simpa [last] using apart
      exact scanFrom_append_of_first _ closed
    · exact scanFrom_append_of_last (by simpa [endsInNumber] using last) _
  · simp only [scan_eq_scanFrom, compact_append]
    exact exists_scanFrom_append last first

/-- Cut inside of its mixed number, beside a blank, `2 × 1'1/2 - 3 =` has the tokens of its pieces
but for this number; cut after its sign `×`, it has all of them. -/
theorem scan_cut_product :
    let a : Text := "2 × 1' ".toList
    let b : Text := " 1/2 - 3 =".toList
    let c : Text := "2 × ".toList
    let d : Text := "1' 1/2 - 3 =".toList
    endsInNumber a = true ∧ beginsWithNumber b = true ∧
      (∃ ts x y us, scan a = ts ++ [number x] ∧ scan b = number y :: us ∧
        scan (a ++ b) = ts ++ number (x ++ y) :: us) ∧
      ¬ (endsInNumber c = true ∧ beginsWithNumber d = true) ∧ scan (c ++ d) = scan c ++ scan d ∧
      number "1'1/2".toList ∈ scan (a ++ b) ∧
      ∀ x ∈ "1'1/2".toList, x.isDigit = true ∨ x = '/' ∨ x = '\'' := by
  intro a b c d
  have last : endsInNumber a = true := by decide
  have first : beginsWithNumber b = true := by decide
  have apart : ¬ (endsInNumber c = true ∧ beginsWithNumber d = true) := by decide
  have joined : number "1'1/2".toList ∈ scan (a ++ b) := by decide
  obtain ⟨-, numbers, separate, join, -⟩ := scan_piece_by_piece
  exact ⟨last, first, join a b last first, apart, separate c d apart, joined,
    (numbers _ _ joined).2⟩

end ArithDrill.Token
