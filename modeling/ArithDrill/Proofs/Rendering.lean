import ArithDrill.Expr.Canonical
import ArithDrill.Proofs.Agreement
import ArithDrill.Proofs.Pieces
import ArithDrill.Proofs.Refusals

/-!
# Lines written from tokens

A list of tokens can be written as a line, and the line scans into the same tokens if no two
numbers are neighbours.  The tokens of a line need not be of this kind, for a character that is
ignored keeps two numbers apart that a space would not.  But whoever goes through the tokens of an
expression, the parser or the conversion to a postfix list, never accepts two numbers side by side:
after a number no value is expected.  So an accepted line may be written anew from its tokens, and
the new line has the same tree, the same key and the same value.

## Main definitions

* `Postfix.Yard.Spaced` — the invariant of the conversion.

## Main statements

* `Postfix.Yard.Spaced.step`, `Postfix.Yard.spaced_of_foldlM` — one token and many tokens.
* `Postfix.isChain_of_ofTokens` — accepted tokens have no two numbers side by side.
* `Token.scan_rendered_tokens` — what is written from tokens is scanned into them.
-/

namespace ArithDrill

namespace Postfix

variable {ts : List Token} {t : Token} {text : Text} {y z : Yard}

namespace Yard

/-- The tokens gone through have no two numbers side by side, and no value is expected after a
number. -/
structure Spaced (ts : List Token) (y : Yard) : Prop where
  /-- No number follows a number. -/
  chain : ts.IsChain fun t u => t.isNumber = true → u.isNumber = false
  /-- After a number no value is expected. -/
  last : ∀ t ∈ ts.getLast?, t.isNumber = true → y.expectsValue = false

/-- A number stands where a value is expected, and no value is expected after it. -/
theorem expectsValue_of_step_number (h : y.step (.number text) = .ok z) :
    y.expectsValue = true ∧ z.expectsValue = false := by
  cases expects : y.expectsValue with
  | false => simp [step, expects] at h
  | true =>
    refine ⟨rfl, ?_⟩
    cases read : Literal.read text with
    | error x => simp [step, expects, read] at h
    | ok l =>
      obtain rfl : _ = z := by simpa [step, expects, read] using h
      rfl

/-- One more token. -/
theorem Spaced.step (h : Spaced ts y) (stepped : y.step t = .ok z) : Spaced (ts ++ [t]) z := by
  constructor
  · refine List.isChain_append.2 ⟨h.chain, List.isChain_singleton t, ?_⟩
    intro u last t' first number
    obtain rfl : t = t' := by simpa using first
    cases t with
    | number text =>
      have closed := h.last u last number
      rw [(expectsValue_of_step_number stepped).1] at closed
      cases closed
    | op o => rfl
    | openParen => rfl
    | closeParen => rfl
  · intro t' last number
    obtain rfl : t = t' := by simpa using last
    cases t with
    | number text => exact (expectsValue_of_step_number stepped).2
    | op o => cases number
    | openParen => cases number
    | closeParen => cases number

/-- Many tokens. -/
theorem spaced_of_foldlM (run : ts.foldlM Yard.step start = .ok y) : Spaced ts y :=
  foldlM_keeps (P := Spaced) Spaced.step ⟨List.isChain_nil, by simp⟩ run

end Yard

/-- The tokens of a postfix conversion have no two numbers side by side. -/
theorem isChain_of_ofTokens {ps : List Token} (h : ofTokens ts = .ok ps) :
    ts.IsChain fun t u => t.isNumber = true → u.isNumber = false := by
  by_cases nothing : ts = []
  · rw [nothing]
    exact List.isChain_nil
  · rw [ofTokens_eq_run nothing] at h
    obtain ⟨y, gone, -⟩ := exists_run_eq_ok_iff.1 ⟨ps, h⟩
    exact (Yard.spaced_of_foldlM gone).chain

end Postfix

namespace Token

variable {line : Text}

/-- The tokens of a line that the conversion accepts stay apart. -/
theorem apart_scan {ps : List Token} (h : Postfix.ofTokens (scan line) = .ok ps) :
    Apart (scan line) :=
  ⟨fun _ => whole_of_mem_scan, Postfix.isChain_of_ofTokens h⟩

/-- The same of a line that the parser accepts, for the conversion accepts it as well. -/
theorem apart_scan_of_expr {e : Expr} (h : Expr.ofTokens (scan line) = .ok e) :
    Apart (scan line) := by
  obtain ⟨ps, -, list⟩ := Postfix.ofTokens_of_expr h
  exact apart_scan list

/-- What is written from tokens is scanned into them, if every number token is a run of number
characters and no two numbers are neighbours.  The tokens of a line that is parsed or converted are
of this kind.  So the line that is written from them has the same tokens, and with them the same
tree, the same key and the same value. -/
theorem scan_rendered_tokens :
    (∀ ts, Apart ts → scan (render ts) = ts) ∧
    ∀ line, ((∃ e, Expr.ofTokens (scan line) = .ok e) ∨
        ∃ ps, Postfix.ofTokens (scan line) = .ok ps) →
      scan (render (scan line)) = scan line ∧
      Expr.ofText (render (scan line)) = Expr.ofText line ∧
      Expr.key (render (scan line)) = Expr.key line ∧
      evaluate (render (scan line)) = evaluate line := by
  refine ⟨fun ts => scan_render, fun line accepted => ?_⟩
  have apart : Apart (scan line) := by
    rcases accepted with ⟨e, tree⟩ | ⟨ps, list⟩
    · exact apart_scan_of_expr tree
    · exact apart_scan list
  have again : scan (render (scan line)) = scan line := scan_render apart
  have tree : Expr.ofText (render (scan line)) = Expr.ofText line := by
    rw [Expr.ofText, Expr.ofText, again]
  refine ⟨again, tree, ?_, ?_⟩
  · rw [Expr.key, Expr.key, tree]
  · rw [evaluate, evaluate, again]

/-- The line `2×(1'1/2-3 =` is read, its parenthesis open, and comes back as `2 × ( 1'1/2 - 3`.  The
tokens of `7=8`, which is not read, do not come back. -/
theorem scan_rendered_product :
    let line : Text := "2×(1'1/2-3 =".toList
    let ts : List Token := [number ['2'], op .mul, openParen, number "1'1/2".toList, op .sub,
      number ['3']]
    let refused : Text := "7=8".toList
    Apart ts ∧ scan (render ts) = ts ∧ (∃ ps, Postfix.ofTokens (scan line) = .ok ps) ∧
      render (scan line) = "2 × ( 1'1/2 - 3".toList ∧ scan (render (scan line)) = scan line ∧
      evaluate (render (scan line)) = evaluate line ∧
      scan (render (scan refused)) ≠ scan refused := by
  intro line ts refused
  have tokens : scan line = ts := by decide
  have accepted : ∃ ps, Postfix.ofTokens (scan line) = .ok ps := by
    rw [tokens]
    exact ⟨_, by cbv⟩
  obtain ⟨inverse, again⟩ := scan_rendered_tokens
  have apart : Apart ts := tokens ▸ apart_scan accepted.choose_spec
  obtain ⟨same, -, -, value⟩ := again line (.inr accepted)
  exact ⟨apart, inverse ts apart, accepted, by decide, same, value, by decide⟩

end Token

end ArithDrill
