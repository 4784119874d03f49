import ArithDrill.Proofs.Rearrangement
import Mathlib.Data.Char
import Mathlib.Data.List.Lex

/-!
# The order of operands in a canonical form

In a canonical form the operands of every `+` and `×` are ordered by their texts, and the trees
that are ordered in this way are exactly those which canonicalisation leaves as they are.  So it
does nothing the second time.  A key is read as the canonical form that it is the text of, hence a
key is its own key.

Of a literal only the text matters for this.  That the text is a number, or that different literals
have different texts, plays no part, and so trees are looked at with literals written in any way.
A tree that has other literals, such as a negative number, is one of these: let each of its literals
be a whole number that counts them, and be written as the text of the literal it stands for.

## Main definitions

* `Expr.OrderedBy` — the operands of every `+` and `×` are in order.

## Main statements

* `Expr.orderedBy_canonicalWith` — canonical forms are ordered.
* `Expr.canonicalWith_fst_eq_self_iff` — the ordered trees are left as they are, and no others.
* `Expr.key_of_key` — a key is its own key.
* `Expr.canonical_orders_operands` — all this, for the usual way of writing and for any other.
-/

namespace ArithDrill.Expr

/-- At every `+` and `×` of a tree, the text of the left operand is at most that of the right
one. -/
def OrderedBy (text : Expr → Text) : Expr → Prop
  | leaf _ => True
  | node o a b =>
    (o.isCommutative = true → text a ≤ text b) ∧ a.OrderedBy text ∧ b.OrderedBy text

/-! ## Literals written in any way -/

section

variable {write : Literal → Text} {e : Expr}

/-- The canonical form of an operator has its operands in canonical form, swapped if the operator
allows it and they would be out of order. -/
theorem canonicalWith_node_cases (write : Literal → Text) (o : Op) (a b : Expr) :
    let x := (a.canonicalWith write).1
    let y := (b.canonicalWith write).1
    (((node o a b).canonicalWith write).1 = node o y x ∧
      y.renderWith write ≤ x.renderWith write) ∨
    (((node o a b).canonicalWith write).1 = node o x y ∧
      (o.isCommutative = true → x.renderWith write ≤ y.renderWith write)) := by
  intro x y
  by_cases swap : o.isCommutative = true ∧ y.renderWith write < x.renderWith write
  · refine .inl ⟨?_, le_of_lt swap.2⟩
    rw [fst_canonicalWith_node, if_pos swap]
  · refine .inr ⟨?_, fun commutes => not_lt.1 fun less => swap ⟨commutes, less⟩⟩
    rw [fst_canonicalWith_node, if_neg swap]

/-- Canonical forms are ordered. -/
theorem orderedBy_canonicalWith (write : Literal → Text) (e : Expr) :
    (e.canonicalWith write).1.OrderedBy (renderWith write) := by
  induction e with
  | leaf l => trivial
  | node o a b iha ihb =>
    obtain ⟨swapped, order⟩ | ⟨kept, order⟩ := canonicalWith_node_cases write o a b
    · rw [swapped]
      exact ⟨fun _ => order, ihb, iha⟩
    · rw [kept]
      exact ⟨order, iha, ihb⟩

/-- An ordered tree is its own canonical form. -/
theorem canonicalWith_of_orderedBy (h : e.OrderedBy (renderWith write)) :
    e.canonicalWith write = (e, e.renderWith write) := by
  induction e with
  | leaf l => rfl
  | node o a b iha ihb =>
    obtain ⟨order, left, right⟩ := h
    have no_swap : ¬(o.isCommutative = true ∧ b.renderWith write < a.renderWith write) :=
      fun swap => not_lt.2 (order swap.1) swap.2
    rw [canonicalWith, iha left, ihb right]
    exact if_neg no_swap

/-- The ordered trees are left as they are, and no others. -/
theorem canonicalWith_fst_eq_self_iff :
    (e.canonicalWith write).1 = e ↔ e.OrderedBy (renderWith write) := by
  constructor
  · intro fixed
    rw [← fixed]
    exact orderedBy_canonicalWith write e
  · intro ordered
    rw [canonicalWith_of_orderedBy ordered]

/-- Nothing is left to do after the first time. -/
theorem canonicalWith_canonicalWith (write : Literal → Text) (e : Expr) :
    (e.canonicalWith write).1.canonicalWith write = e.canonicalWith write := by
  rw [canonicalWith_of_orderedBy (orderedBy_canonicalWith write e), ← canonicalWith_snd]

end

/-! ## Literals written as usual -/

theorem orderedBy_canonical (e : Expr) : e.canonical.OrderedBy render := by
  rw [← renderWith_render]
  exact orderedBy_canonicalWith Literal.render e

theorem canonical_eq_self_iff {e : Expr} : e.canonical = e ↔ e.OrderedBy render := by
  rw [← renderWith_render, ← canonicalWith_fst_eq_self_iff, canonical, canonicalWithText]

theorem canonical_canonical (e : Expr) : e.canonical.canonical = e.canonical :=
  canonical_eq_self_iff.2 (orderedBy_canonical e)

/-- A key is its own key: it is read as the canonical form that it is the text of. -/
theorem key_of_key {t k : Text} (h : key t = .ok k) : key k = .ok k := by
  cases tree : ofText t with
  | error x => simp [key, tree, Except.map] at h
  | ok e =>
    obtain rfl : e.canonical.render = k := by simpa [key, tree, Except.map] using h
    rw [key, ofText_render (readable_canonical (readable_of_ofTokens tree))]
    show Except.ok e.canonical.canonical.render = _
    rw [canonical_canonical]

/-- The canonical form of a tree comes with its own text, has the operands of every `+` and `×` in
the order of their texts, and is its own canonical form; the trees that are their own canonical
forms are exactly those with the operands in order.  The same is true when literals are written in
any other way, as negative ones would be.  For lines it follows that a key is its own key. -/
theorem canonical_orders_operands :
    (∀ e : Expr, e.canonicalWithText.2 = e.canonicalWithText.1.render ∧
      e.canonical.OrderedBy render ∧ e.canonical.canonical = e.canonical ∧
      (e.canonical = e ↔ e.OrderedBy render)) ∧
    (∀ (write : Literal → Text) (e : Expr),
      (e.canonicalWith write).2 = (e.canonicalWith write).1.renderWith write ∧
      (e.canonicalWith write).1.OrderedBy (renderWith write) ∧
      (e.canonicalWith write).1.canonicalWith write = e.canonicalWith write ∧
      ((e.canonicalWith write).1 = e ↔ e.OrderedBy (renderWith write))) ∧
    ∀ t k : Text, key t = .ok k → key k = .ok k :=
  ⟨fun e => ⟨canonicalWithText_snd e, orderedBy_canonical e, canonical_canonical e,
      canonical_eq_self_iff⟩,
    fun write e => ⟨canonicalWith_snd write e, orderedBy_canonicalWith write e,
      canonicalWith_canonicalWith write e, canonicalWith_fst_eq_self_iff⟩,
    fun _ _ => key_of_key⟩

/-- The key of `3 + 2 × 1` is `((1×2)+3)`, where both operators have swapped their operands, and it
is its own key. -/
theorem key_of_swapped_sum :
    let t := "3 + 2 × 1 =".toList
    let k := "((1×2)+3)".toList
    key t = .ok k ∧ key k = .ok k := by
  intro t k
  have swapped : key "3 + 2 × 1 =".toList = .ok "((1×2)+3)".toList := by cbv
  exact ⟨swapped, canonical_orders_operands.2.2 t k swapped⟩

end ArithDrill.Expr
