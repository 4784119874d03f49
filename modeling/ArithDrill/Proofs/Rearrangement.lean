import ArithDrill.Expr.Canonical
import ArithDrill.Proofs.RoundTrip
import Mathlib

/-!
# Rearrangements and the canonical form

Two trees are rearrangements of each other when swapping operands of `+` and `×`, at any depth,
turns one into the other.  The canonical form is a rearrangement, and it is the same one for all
rearrangements of a tree: where two operands have the same text, so that their order is left as
it is, they are the same tree, since a text is read back as the tree it was written for.

## Main definitions

* `Expr.Rearranged` — the smallest congruence that swaps operands of `+` and `×`.

## Main statements

* `Expr.rearranged_canonicalWith` — the canonical form of a tree is a rearrangement of it.
* `Expr.canonical_eq_of_rearranged` — rearrangements have the same canonical form.
* `Expr.key_eq_iff_rearranged` — keys tell trees apart up to rearrangement.
-/

namespace ArithDrill

namespace Expr

/-- Two trees differ only in the order of operands of `+` and `×`. -/
inductive Rearranged : Expr → Expr → Prop where
  /-- A tree is a rearrangement of itself. -/
  | refl (e : Expr) : Rearranged e e
  /-- Rearranging can be undone. -/
  | symm {e₁ e₂ : Expr} (h : Rearranged e₁ e₂) : Rearranged e₂ e₁
  /-- Rearranging twice is rearranging. -/
  | trans {e₁ e₂ e₃ : Expr} (h : Rearranged e₁ e₂) (h' : Rearranged e₂ e₃) : Rearranged e₁ e₃
  /-- Operands may be rearranged. -/
  | node (o : Op) {a a' b b' : Expr} (left : Rearranged a a') (right : Rearranged b b') :
    Rearranged (node o a b) (node o a' b')
  /-- The operands of `+` and `×` may be swapped. -/
  | swap {o : Op} (commutes : o.isCommutative = true) (a b : Expr) :
    Rearranged (node o a b) (node o b a)

/-- Rearranging keeps the literals, so a rearrangement is readable when the tree is. -/
theorem Rearranged.readable_iff {e₁ e₂ : Expr} (h : Rearranged e₁ e₂) :
    e₁.Readable ↔ e₂.Readable := by
  induction h with
  | refl e => exact Iff.rfl
  | symm _ ih => exact ih.symm
  | trans _ _ ih ih' => exact ih.trans ih'
  | node o _ _ ihLeft ihRight => rw [readable_node, readable_node, ihLeft, ihRight]
  | swap _ a b => rw [readable_node, readable_node, and_comm]

/-! ## The canonical form -/

/-- The canonical form of a tree is a rearrangement of it, however literals are written. -/
theorem rearranged_canonicalWith (write : Literal → Text) (e : Expr) :
    Rearranged e (e.canonicalWith write).1 := by
  induction e with
  | leaf l => exact .refl _
  | node o a b iha ihb =>
    rw [fst_canonicalWith_node]
    split
    · rename_i swapped
      exact (Rearranged.node o iha ihb).trans (.swap swapped.1 _ _)
    · exact .node o iha ihb

theorem rearranged_canonical (e : Expr) : Rearranged e e.canonical :=
  rearranged_canonicalWith Literal.render e

/-- The canonical form of a readable tree is readable. -/
theorem readable_canonical {e : Expr} (h : e.Readable) : e.canonical.Readable :=
  (rearranged_canonical e).readable_iff.1 h

/-- The canonical form does not depend on the order of two operands that may be swapped. -/
theorem canonical_swap {o : Op} (commutes : o.isCommutative = true) {a b : Expr}
    (ha : a.Readable) (hb : b.Readable) :
    (node o a b).canonical = (node o b a).canonical := by
  rw [canonical_node, canonical_node]
  by_cases less : a.canonical.render < b.canonical.render
  · rw [if_neg fun h => List.lt_asymm less h.2, if_pos ⟨commutes, less⟩]
  · by_cases greater : b.canonical.render < a.canonical.render
    · rw [if_pos ⟨commutes, greater⟩, if_neg fun h => less h.2]
    · -- two texts of which neither is smaller are equal, and then so are the trees
      have same_text : a.canonical.render = b.canonical.render :=
        List.le_antisymm (List.not_lt.1 greater) (List.not_lt.1 less)
      have same : a.canonical = b.canonical :=
        render_injective (readable_canonical ha) (readable_canonical hb) same_text
      rw [same]

/-- Rearrangements have the same canonical form. -/
theorem canonical_eq_of_rearranged {e₁ e₂ : Expr} (h : Rearranged e₁ e₂) (h₁ : e₁.Readable) :
    e₁.canonical = e₂.canonical := by
  induction h with
  | refl e => rfl
  | symm h ih => exact (ih (h.readable_iff.2 h₁)).symm
  | trans h _ ih ih' => exact (ih h₁).trans (ih' (h.readable_iff.1 h₁))
  | node o _ _ ihLeft ihRight =>
    obtain ⟨left, right⟩ := readable_node.1 h₁
    rw [canonical_node, canonical_node, ihLeft left, ihRight right]
  | swap commutes a b =>
    obtain ⟨left, right⟩ := readable_node.1 h₁
    exact canonical_swap commutes left right

/-- Trees with the same canonical form are rearrangements of each other. -/
theorem rearranged_of_canonical_eq {e₁ e₂ : Expr} (h : e₁.canonical = e₂.canonical) :
    Rearranged e₁ e₂ := by
  have first := rearranged_canonical e₁
  rw [h] at first
  exact first.trans (rearranged_canonical e₂).symm

/-- The texts of canonical forms tell readable trees apart up to rearrangement. -/
theorem render_canonical_eq_render_iff {e₁ e₂ : Expr} (h₁ : e₁.Readable) (h₂ : e₂.Readable) :
    e₁.canonical.render = e₂.canonical.render ↔ Rearranged e₁ e₂ := by
  constructor
  · intro same_text
    exact rearranged_of_canonical_eq
      (render_injective (readable_canonical h₁) (readable_canonical h₂) same_text)
  · intro rearranged
    rw [canonical_eq_of_rearranged rearranged h₁]

/-- The keys of two lines with trees are equal exactly if the trees are rearrangements of each
other. -/
theorem key_eq_key_iff {t₁ t₂ : Text} {e₁ e₂ : Expr} (h₁ : ofText t₁ = .ok e₁)
    (h₂ : ofText t₂ = .ok e₂) : key t₁ = key t₂ ↔ Rearranged e₁ e₂ := by
  rw [← render_canonical_eq_render_iff (readable_of_ofTokens h₁) (readable_of_ofTokens h₂),
    key, key, h₁, h₂]
  simp [Except.map]

/-- The key decides exactly whether two exercises are the same up to the order of the operands of
`+` and `×`: for all trees of literals that can be read, and so for all lines that are
expressions. -/
theorem key_eq_iff_rearranged :
    (∀ e₁ e₂ : Expr, e₁.Readable → e₂.Readable →
      (e₁.canonical.render = e₂.canonical.render ↔ Rearranged e₁ e₂)) ∧
    ∀ (t₁ t₂ : Text) (e₁ e₂ : Expr), ofText t₁ = .ok e₁ → ofText t₂ = .ok e₂ →
      (key t₁ = key t₂ ↔ Rearranged e₁ e₂) :=
  ⟨fun _ _ => render_canonical_eq_render_iff, fun _ _ _ _ => key_eq_key_iff⟩

/-- `(1 + 2) × 3` and `3 × (2 + 1)` are one exercise: both trees are readable, and they are
rearrangements because the keys are the same. -/
theorem rearranged_of_key_product :
    let e₁ := node .mul (node .add (leaf (.whole 1)) (leaf (.whole 2))) (leaf (.whole 3))
    let e₂ := node .mul (leaf (.whole 3)) (node .add (leaf (.whole 2)) (leaf (.whole 1)))
    e₁.Readable ∧ e₂.Readable ∧ (e₁.canonical.render = e₂.canonical.render ↔ Rearranged e₁ e₂) ∧
      ofText "(1 + 2) × 3 =".toList = .ok e₁ ∧ ofText "3 × (2 + 1) =".toList = .ok e₂ ∧
      Rearranged e₁ e₂ := by
  intro e₁ e₂
  have h₁ : ofText "(1 + 2) × 3 =".toList = .ok e₁ := by cbv
  have h₂ : ofText "3 × (2 + 1) =".toList = .ok e₂ := by cbv
  have same_key : key "(1 + 2) × 3 =".toList = key "3 × (2 + 1) =".toList := by cbv
  have r₁ : e₁.Readable := readable_of_ofTokens h₁
  have r₂ : e₂.Readable := readable_of_ofTokens h₂
  exact ⟨r₁, r₂, key_eq_iff_rearranged.1 e₁ e₂ r₁ r₂, h₁, h₂,
    (key_eq_iff_rearranged.2 _ _ e₁ e₂ h₁ h₂).1 same_key⟩

end Expr

end ArithDrill
