import ArithDrill.Proofs.DrawnLiterals
import ArithDrill.Proofs.Retention
import Mathlib.Data.List.GetD

/-!
# Every plain exercise can be drawn

A chain is drawn as the number of its operators, its numbers and its operators, in this order, and
each of these draws can have any answer that the order allows.  So every chain to order is possible.
If it has a value after each operator, a coin decides whether parentheses are drawn as well, and it
may fall on the side without.  Then the chain becomes an exercise as it is, unless the answer is
zero although it divides.

## Main statements

* `Chain.sometimes_draw` — every chain to order is possible.
* `Chain.exercise?_plain` — the exercise of a chain without parentheses.
* `every_plain_exercise_drawn` — words from which a given exercise is drawn.
-/

namespace ArithDrill

open Draw Token

variable {bound maxOps : Nat}

/-- Each operator is possible. -/
theorem Op.sometimes_draw (o : Op) : draw.Sometimes fun a => a = o := by
  obtain ⟨i, within, there⟩ := List.getElem_of_mem (mem_all o)
  refine sometimes_bind (sometimes_count (Nat.zero_le i) (by omega) (by decide)) fun j drawn => ?_
  subst j
  show all.getD i add = o
  rw [List.getD_eq_getElem _ _ within, there]

namespace Chain

variable {c : Chain} {v : Rat}

/-- Every chain to order is possible. -/
theorem sometimes_draw (bound_fits : bound < UInt64.size) (ops_fit : maxOps < UInt64.size)
    (some_op : 1 ≤ c.rest.length) (few : c.rest.length ≤ maxOps)
    (drawable : ∀ l ∈ c.numbers, l.Drawable bound) :
    (draw bound maxOps).Sometimes fun a => a = c := by
  have literal (l : Literal) (hl : l ∈ c.numbers) : (Literal.draw bound).Sometimes fun a => a = l :=
    Literal.sometimes_draw bound_fits (drawable l hl)
  have others : (replicate c.rest.length (Literal.draw bound)).Sometimes fun ls =>
      ls = c.rest.map Prod.snd := by
    rw [← List.length_map Prod.snd]
    exact sometimes_replicate fun l hl => literal l (List.mem_cons_of_mem _ hl)
  have ops : (replicate c.rest.length Op.draw).Sometimes fun os => os = c.rest.map Prod.fst := by
    rw [← List.length_map Prod.fst]
    exact sometimes_replicate fun o _ => o.sometimes_draw
  refine sometimes_bind (sometimes_count some_op (by omega) ?_) fun k drawn => ?_
  · rw [Nat.max_eq_left (Nat.le_trans some_op few)]
    exact ops_fit
  subst k
  refine sometimes_bind (literal c.first List.mem_cons_self) fun first drawn => ?_
  subst first
  refine sometimes_bind others fun ls drawn => ?_
  subst ls
  refine sometimes_bind ops fun os drawn => ?_
  subst os
  show (⟨c.first, (c.rest.map Prod.fst).zip (c.rest.map Prod.snd)⟩ : Chain) = c
  rw [List.zip_map']
  simp

/-- The key of the line of a chain is the text of the canonical form of its tree. -/
theorem key_line (readable : ∀ l ∈ c.numbers, l.denominator ≠ 0) :
    Expr.key (c.render ++ " =".toList) = .ok c.tree.canonical.render := by
  rw [Expr.key, Expr.ofText, scan_append_equals, c.render_eq, scan_render c.apart_tokens,
    ofTokens_tokens readable]
  rfl

/-- The exercise of a chain without parentheses, all of whose beginnings have a value. -/
theorem exercise?_plain (some_op : 1 ≤ c.rest.length)
    (readable : ∀ l ∈ c.numbers, l.denominator ≠ 0)
    (each : ∀ i, 1 ≤ i → i ≤ c.rest.length → ∃ w, (c.take i).tree.eval = .ok w)
    (value : c.tree.eval = .ok v) (not_zero : .div ∈ c.rest.map Prod.fst → v ≠ 0) :
    c.value? = .ok (some v) ∧ (⟨c, none⟩ : Sketch).exercise? =
      .ok (some ⟨c.render ++ " =".toList, v, c.tree.canonical.render⟩) := by
  rcases value?_cases some_op readable with ⟨-, i, first, within, stuck⟩ | ⟨w, whole, own, -⟩
  · obtain ⟨w, there⟩ := each i first within
    exact absurd there (stuck w)
  · obtain rfl : w = v := Except.ok.inj (own.symm.trans value)
    have form := @Sketch.form?_eq ⟨c, none⟩ _ whole
    have made : Exercise.ofExpression c.render w =
        .ok ⟨c.render ++ " =".toList, w, c.tree.canonical.render⟩ := by
      rw [Exercise.ofExpression, key_line readable]
      rfl
    have kept : ¬ (⟨c, none⟩ : Sketch).refuses w := by
      rw [Sketch.refuses, Bool.and_eq_true, beq_iff_eq, divides_iff]
      rintro ⟨zero, divides⟩
      exact not_zero divides zero
    refine ⟨whole, ?_⟩
    rw [Sketch.exercise?_of_form?_some form made, if_neg kept]

end Chain

/-- A chain to order without parentheses is possible. -/
theorem Sketch.sometimes_draw {c : Chain}
    (possible : (Chain.draw bound maxOps).Sometimes fun a => a = c) :
    (draw bound maxOps).Sometimes fun s => s = ⟨c, none⟩ := by
  refine sometimes_bind possible fun a drawn => ?_
  subst a
  split
  · have tails : (toss bracketOdds).Sometimes fun b => b = false := sometimes_toss (by decide)
    refine sometimes_bind tails fun b fell => ?_
    subst b
    rfl
  · rfl

/-- Every plain exercise to order can be drawn.  Take any chain of at least one and at most `maxOps`
operators, with numbers that are drawn below the bound, that has a value after each operator, where
the value of the whole chain is not zero if there is a division.  Then there is a stream of words
from which the candidate is the line of this chain, with its value and its key; what decides on it
is finitely many words. -/
theorem every_plain_exercise_drawn (c : Chain) (v : Rat) (positive : 1 ≤ bound)
    (bound_fits : bound < UInt64.size) (ops_fit : maxOps < UInt64.size)
    (some_op : 1 ≤ c.rest.length) (few : c.rest.length ≤ maxOps)
    (drawn : ∀ l ∈ c.numbers, ∃ s : Stream' UInt32, ((Literal.draw bound).run s).1 = l)
    (each : ∀ i, 1 ≤ i → i ≤ c.rest.length → ∃ w, (c.take i).tree.eval = .ok w)
    (value : c.tree.eval = .ok v) (not_zero : .div ∈ c.rest.map Prod.fst → v ≠ 0) :
    let e : Exercise := ⟨c.render ++ " =".toList, v, c.tree.canonical.render⟩
    Expr.key e.text = .ok e.key ∧
    (∃ s : Stream' UInt32, ((candidate bound maxOps).run s).1 = .ok (some e)) ∧
    ∃ ws, Decides ws (candidate bound maxOps).run (.ok (some e)) := by
  intro e
  have drawable : ∀ l ∈ c.numbers, l.Drawable bound := by
    intro l hl
    obtain ⟨s, rfl⟩ := drawn l hl
    exact always_run (Literal.always_draw positive) s
  have readable : ∀ l ∈ c.numbers, l.denominator ≠ 0 :=
    fun l hl => (drawable l hl).within.denominator_ne_zero
  have possible : (candidate bound maxOps).Sometimes fun r => r = .ok (some e) := by
    have sketch := Sketch.sometimes_draw
      (Chain.sometimes_draw bound_fits ops_fit some_op few drawable)
    refine sometimes_bind sketch fun s same => ?_
    subst s
    exact (Chain.exercise?_plain some_op readable each value not_zero).2
  obtain ⟨_, rfl, decided⟩ := exists_decides possible
  exact ⟨Chain.key_line readable, exists_stream possible, decided⟩

/-- The exercise `7 ÷ 1/2 - 2'1/3 =`, with the answer `35/3`, can be drawn below ten. -/
theorem quotient_less_mixed_number_drawn :
    let c : Chain := ⟨.whole 7, [(.div, .fraction 1 2), (.sub, .mixed 2 1 3)]⟩
    let e : Exercise := ⟨"7 ÷ 1/2 - 2'1/3 =".toList, 35 / 3, "((7÷1/2)-2'1/3)".toList⟩
    (∀ l ∈ c.numbers, ∃ s : Stream' UInt32, ((Literal.draw 10).run s).1 = l) ∧
    (∀ i, 1 ≤ i → i ≤ c.rest.length → ∃ w, (c.take i).tree.eval = .ok w) ∧
    c.tree.eval = .ok (35 / 3) ∧ .div ∈ c.rest.map Prod.fst ∧ (35 / 3 : Rat) ≠ 0 ∧
    ∃ s : Stream' UInt32, ((candidate 10 2).run s).1 = .ok (some e) := by
  intro c e
  have drawable : ∀ l ∈ c.numbers, l.Drawable 10 := by
    intro l hl
    obtain rfl | rfl | rfl : l = .whole 7 ∨ l = .fraction 1 2 ∨ l = .mixed 2 1 3 := by
      simpa [c, Chain.numbers] using hl
    · exact (by decide : 7 < 10)
    · exact ⟨by decide, by decide, by decide, by decide, by decide⟩
    · exact ⟨by decide, by decide, by decide, by decide, by decide, by decide, by decide⟩
  have drawn : ∀ l ∈ c.numbers, ∃ s : Stream' UInt32, ((Literal.draw 10).run s).1 = l :=
    fun l hl => exists_stream (Literal.sometimes_draw (by decide) (drawable l hl))
  have value : c.tree.eval = .ok (35 / 3) := by cbv
  have each : ∀ i, 1 ≤ i → i ≤ c.rest.length → ∃ w, (c.take i).tree.eval = .ok w := by
    intro i first within
    obtain rfl | rfl : i = 1 ∨ i = 2 := by
      simp only [c, List.length_cons, List.length_nil] at within
      omega
    · exact ⟨14, by cbv⟩
    · exact ⟨35 / 3, value⟩
  have not_zero : (35 / 3 : Rat) ≠ 0 := by decide +kernel
  obtain ⟨-, stream, -⟩ := every_plain_exercise_drawn c (35 / 3) (by decide : 1 ≤ 10)
    (by decide) (by decide : 2 < UInt64.size) (by decide) (by decide) drawn each value
    fun _ => not_zero
  exact ⟨drawn, each, value, by decide, not_zero, stream⟩

end ArithDrill
