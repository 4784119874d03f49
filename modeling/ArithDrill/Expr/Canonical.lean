import ArithDrill.Expr.Parser

/-!
# The canonical form of an expression

Two exercises count as the same when they differ only in the order of the operands of `+` and
`×`.  The canonical form orders these operands by their text, innermost first, and its text is
the key by which a series recognises repetitions.  Nothing is regrouped: `(1+2)+3` and
`1+(2+3)` stay two exercises.

Of a literal only the text matters for this order, so the way in which literals are written is a
parameter.

## Main definitions

* `Expr.renderWith` — the text of a tree with literals written in any way.
* `Expr.canonicalWith` — the canonical form together with its text, with literals written so.
* `Expr.canonicalWithText`, `Expr.canonical` — the canonical form with literals written as usual.
* `Expr.key` — the key of a line.

## Main statements

* `Expr.canonicalWith_snd` — the text that is carried along is the text of the result.
* `Expr.fst_canonicalWith_node` — the canonical form of an operator.
-/

namespace ArithDrill.Expr

/-! ## Literals written in any way -/

/-- The text of a tree, with its literals written in any way. -/
def renderWith (write : Literal → Text) : Expr → Text
  | leaf l => write l
  | node o a b => '(' :: (a.renderWith write ++ o.symbol :: (b.renderWith write ++ [')']))

/-- The canonical form of a tree and its text, with literals written in any way.  The text of each
part is computed once and handed up with it. -/
def canonicalWith (write : Literal → Text) : Expr → Expr × Text
  | leaf l => (leaf l, write l)
  | node o a b =>
    let (x, s) := a.canonicalWith write
    let (y, t) := b.canonicalWith write
    if o.isCommutative ∧ t < s then (node o y x, '(' :: (t ++ o.symbol :: (s ++ [')'])))
    else (node o x y, '(' :: (s ++ o.symbol :: (t ++ [')'])))

/-- The text that is carried along is the text of the canonical form, at every depth. -/
theorem canonicalWith_snd (write : Literal → Text) (e : Expr) :
    (e.canonicalWith write).2 = (e.canonicalWith write).1.renderWith write := by
  induction e with
  | leaf l => rfl
  | node o a b iha ihb =>
    simp only [canonicalWith, iha, ihb]
    split <;> rfl

/-- The canonical form of an operator: the operands in canonical form, and swapped when the
operator allows it and the text of the right one is smaller. -/
theorem fst_canonicalWith_node (write : Literal → Text) (o : Op) (a b : Expr) :
    ((node o a b).canonicalWith write).1 =
      if o.isCommutative ∧ (b.canonicalWith write).1.renderWith write <
          (a.canonicalWith write).1.renderWith write then
        node o (b.canonicalWith write).1 (a.canonicalWith write).1
      else node o (a.canonicalWith write).1 (b.canonicalWith write).1 := by
  simp only [canonicalWith, canonicalWith_snd]
  exact apply_ite Prod.fst _ _ _

/-! ## Literals written as usual -/

/-- The canonical form of a tree and its text. -/
def canonicalWithText (e : Expr) : Expr × Text := e.canonicalWith Literal.render

/-- The canonical form of a tree. -/
def canonical (e : Expr) : Expr := e.canonicalWithText.1

/-- The key of a line: the text of the canonical form of its tree. -/
def key (t : Text) : Except ParseError Text := (ofText t).map fun e => e.canonical.render

/-- Literals are usually written by `Literal.render`. -/
theorem renderWith_render : renderWith Literal.render = render := by
  funext e
  induction e with
  | leaf l => rfl
  | node o a b iha ihb => rw [renderWith, render, iha, ihb]

theorem canonicalWithText_snd (e : Expr) : e.canonicalWithText.2 = e.canonical.render := by
  rw [← renderWith_render]
  exact canonicalWith_snd Literal.render e

theorem canonical_node (o : Op) (a b : Expr) :
    (node o a b).canonical =
      if o.isCommutative ∧ b.canonical.render < a.canonical.render then
        node o b.canonical a.canonical
      else node o a.canonical b.canonical := by
  rw [← renderWith_render]
  exact fst_canonicalWith_node Literal.render o a b

end ArithDrill.Expr
