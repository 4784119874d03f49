import ArithDrill.Expr.Basic
import ArithDrill.Literal.Reading
import ArithDrill.Token.Scan

/-!
# Parsing expressions

Recursive descent over three levels, from the loosest to the tightest:

* a sum is a product, then any number of `+` or `-` with a further product;
* a product is a factor, then any number of `×` or `÷` with a further factor;
* a factor is a number or a sum in parentheses.

Both kinds of chain group to the left.  A parenthesis that is still open at the end of the
input counts as closed there; the only other leniency is in the scanner.

Each function returns the tree that it read together with the tokens after it and the fact that
they have become fewer, which is what the recursion descends on.

## Main definitions

* `Expr.ofTokens` — the tree of a list of tokens.
* `Expr.ofText` — the tree of a line.
-/

namespace ArithDrill

namespace Parser

/-- A tree and the tokens that follow it, fewer than `n`. -/
abbrev Reading (n : Nat) := Except ParseError (Expr × { rest : List Token // rest.length < n })

/-- A tree and the tokens that follow it, at most `n`. -/
abbrev Extension (n : Nat) := Except ParseError (Expr × { rest : List Token // rest.length ≤ n })

/-- The tokens after an optional closing parenthesis. -/
def skipClosing : List Token → List Token
  | .closeParen :: ts => ts
  | ts => ts

theorem length_skipClosing_le (ts : List Token) : (skipClosing ts).length ≤ ts.length := by
  unfold skipClosing
  split
  · exact Nat.le_succ _
  · exact Nat.le_refl _

mutual

/-- Reads a sum. -/
def sum (ts : List Token) : Reading ts.length :=
  match product ts with
  | .error e => .error e
  | .ok (left, ⟨rest, shorter⟩) =>
    match moreTerms left rest with
    | .error e => .error e
    | .ok (tree, ⟨rest', le⟩) => .ok (tree, ⟨rest', Nat.lt_of_le_of_lt le shorter⟩)
termination_by (ts.length, 2)

/-- Extends a sum to the right, as long as `+` or `-` follows. -/
def moreTerms (left : Expr) (ts : List Token) : Extension ts.length :=
  match ts with
  | .op o :: ts =>
    if o.precedence = 1 then
      match product ts with
      | .error e => .error e
      | .ok (right, ⟨rest, shorter⟩) =>
        match moreTerms (.node o left right) rest with
        | .error e => .error e
        | .ok (tree, ⟨rest', le⟩) => .ok (tree, ⟨rest', by simp only [List.length_cons]; omega⟩)
    else .ok (left, ⟨.op o :: ts, Nat.le_refl _⟩)
  | ts => .ok (left, ⟨ts, Nat.le_refl _⟩)
termination_by (ts.length, 0)

/-- Reads a product. -/
def product (ts : List Token) : Reading ts.length :=
  match factor ts with
  | .error e => .error e
  | .ok (left, ⟨rest, shorter⟩) =>
    match moreFactors left rest with
    | .error e => .error e
    | .ok (tree, ⟨rest', le⟩) => .ok (tree, ⟨rest', Nat.lt_of_le_of_lt le shorter⟩)
termination_by (ts.length, 1)

/-- Extends a product to the right, as long as `×` or `÷` follows. -/
def moreFactors (left : Expr) (ts : List Token) : Extension ts.length :=
  match ts with
  | .op o :: ts =>
    if o.precedence = 2 then
      match factor ts with
      | .error e => .error e
      | .ok (right, ⟨rest, shorter⟩) =>
        match moreFactors (.node o left right) rest with
        | .error e => .error e
        | .ok (tree, ⟨rest', le⟩) => .ok (tree, ⟨rest', by simp only [List.length_cons]; omega⟩)
    else .ok (left, ⟨.op o :: ts, Nat.le_refl _⟩)
  | ts => .ok (left, ⟨ts, Nat.le_refl _⟩)
termination_by (ts.length, 0)

/-- Reads a factor.  After a sum that stands in parentheses the closing one is skipped when it
is there; what else may follow is for the caller to judge. -/
def factor (ts : List Token) : Reading ts.length :=
  match ts with
  | [] => .error .incomplete
  | .openParen :: ts =>
    match sum ts with
    | .error e => .error e
    | .ok (tree, ⟨rest, shorter⟩) =>
      .ok (tree, ⟨skipClosing rest, by
        have le := length_skipClosing_le rest
        simp only [List.length_cons]
        omega⟩)
  | .number text :: ts =>
    match Literal.read text with
    | .error e => .error (.literal e)
    | .ok l => .ok (.leaf l, ⟨ts, Nat.lt_succ_self _⟩)
  | t :: _ => .error (.unexpected t)
termination_by (ts.length, 0)

end

/-! ## The equations of the descent

The lengths carried along serve the recursion only.  `plain` forgets them, and each function has
one equation for its plain result. -/

/-- A tree and the tokens that follow it. -/
abbrev Plain := Except ParseError (Expr × List Token)

/-- A reading without the bound on what follows. -/
def Reading.plain {n : Nat} (r : Reading n) : Plain := r.map fun p => (p.1, p.2.1)

/-- An extension without the bound on what follows. -/
def Extension.plain {n : Nat} (r : Extension n) : Plain := r.map fun p => (p.1, p.2.1)

theorem plain_sum (ts : List Token) :
    (sum ts).plain = (product ts).plain.bind fun p => (moreTerms p.1 p.2).plain := by
  rw [sum]
  cases product ts with
  | error e => rfl
  | ok p =>
    simp only [Reading.plain, Except.map, Except.bind]
    cases moreTerms p.1 p.2.1 <;> rfl

theorem plain_product (ts : List Token) :
    (product ts).plain = (factor ts).plain.bind fun p => (moreFactors p.1 p.2).plain := by
  rw [product]
  cases factor ts with
  | error e => rfl
  | ok p =>
    simp only [Reading.plain, Except.map, Except.bind]
    cases moreFactors p.1 p.2.1 <;> rfl

theorem plain_moreTerms_op (left : Expr) (o : Op) (ts : List Token) :
    (moreTerms left (.op o :: ts)).plain =
      if o.precedence = 1 then
        (product ts).plain.bind fun p => (moreTerms (.node o left p.1) p.2).plain
      else .ok (left, .op o :: ts) := by
  rw [moreTerms]
  split
  · cases product ts with
    | error e => rfl
    | ok p =>
      simp only [Reading.plain, Except.map, Except.bind]
      cases moreTerms (.node o left p.1) p.2.1 <;> rfl
  · rfl

theorem plain_moreTerms_of_not_op (left : Expr) {ts : List Token}
    (h : ∀ o, ts.head? ≠ some (.op o)) : (moreTerms left ts).plain = .ok (left, ts) := by
  rw [moreTerms.eq_def]
  split
  · simp_all
  · rfl

theorem plain_moreFactors_op (left : Expr) (o : Op) (ts : List Token) :
    (moreFactors left (.op o :: ts)).plain =
      if o.precedence = 2 then
        (factor ts).plain.bind fun p => (moreFactors (.node o left p.1) p.2).plain
      else .ok (left, .op o :: ts) := by
  rw [moreFactors]
  split
  · cases factor ts with
    | error e => rfl
    | ok p =>
      simp only [Reading.plain, Except.map, Except.bind]
      cases moreFactors (.node o left p.1) p.2.1 <;> rfl
  · rfl

theorem plain_moreFactors_of_not_op (left : Expr) {ts : List Token}
    (h : ∀ o, ts.head? ≠ some (.op o)) : (moreFactors left ts).plain = .ok (left, ts) := by
  rw [moreFactors.eq_def]
  split
  · simp_all
  · rfl

theorem plain_factor_nil : (factor []).plain = .error .incomplete := by
  rw [factor]; rfl

theorem plain_factor_openParen (ts : List Token) :
    (factor (.openParen :: ts)).plain =
      (sum ts).plain.map fun p => (p.1, skipClosing p.2) := by
  rw [factor]
  cases sum ts <;> rfl

theorem plain_factor_number (text : Text) (ts : List Token) :
    (factor (.number text :: ts)).plain =
      match Literal.read text with
      | .error e => .error (.literal e)
      | .ok l => .ok (.leaf l, ts) := by
  rw [factor]
  cases Literal.read text <;> rfl

theorem plain_factor_op (o : Op) (ts : List Token) :
    (factor (.op o :: ts)).plain = .error (.unexpected (.op o)) := by
  rw [factor] <;> simp [Reading.plain, Except.map]

theorem plain_factor_closeParen (ts : List Token) :
    (factor (.closeParen :: ts)).plain = .error (.unexpected .closeParen) := by
  rw [factor] <;> simp [Reading.plain, Except.map]

/-- What the tokens after a complete expression mean: nothing may be left. -/
def finish (tree : Expr) : List Token → Except ParseError Expr
  | [] => .ok tree
  | .closeParen :: _ => .error .unopened
  | t :: _ => .error (.unexpected t)

end Parser

namespace Expr

/-- The tree of a list of tokens. -/
def ofTokens (ts : List Token) : Except ParseError Expr :=
  match Parser.sum ts with
  | .error e => .error e
  | .ok (tree, rest) => Parser.finish tree rest.1

/-- The tree of a list of tokens, by the plain result of the descent. -/
theorem ofTokens_eq (ts : List Token) :
    ofTokens ts = (Parser.sum ts).plain.bind fun p => Parser.finish p.1 p.2 := by
  unfold ofTokens
  cases Parser.sum ts <;> rfl

/-- There is no tree of nothing. -/
theorem ofTokens_nil : ofTokens [] = .error .incomplete := by
  rw [ofTokens_eq, Parser.plain_sum, Parser.plain_product, Parser.plain_factor_nil]
  rfl

/-- The tree of a line. -/
def ofText (t : Text) : Except ParseError Expr := ofTokens (Token.scan t)

end Expr

end ArithDrill
