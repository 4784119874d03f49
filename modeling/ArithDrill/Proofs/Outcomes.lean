import ArithDrill.Draw.Words
import ArithDrill.Exercise.Chain
import ArithDrill.Proofs.Numbers

/-!
# What holds of every draw

A postcondition of a computation that draws is checked along its tree: every range that is asked
for must have a number in it, and whatever the answers are, the result must have the property.
Such a postcondition holds of every run, on any source of words.

## Main definitions

* `Draw.Always` — a property of all results of a computation.
* `Literal.Drawable` — the literals that are drawn below a bound.
* `Literal.Within`, `Chain.Within` — the numbers and chains that an order asks for.

## Main statements

* `Draw.always_bind`, `Draw.always_replicate` — one draw after another.
* `Draw.always_run` — what always holds is true of every run.
* `Literal.always_draw` — only literals for the bound are drawn.
* `Chain.always_draw` — only chains that the order asks for are drawn.
-/

namespace ArithDrill

namespace Draw

variable {α β : Type} {P Q : α → Prop} {R : β → Prop}

/-- All results of a computation have a property, and none of its ranges is empty. -/
def Always (P : α → Prop) : Draw α → Prop
  | done a => P a
  | number span next => span.lo ≤ span.hi ∧
      ∀ n, span.lo ≤ n → n ≤ span.hi → (next n).Always P
  | coin _ next => ∀ b, (next b).Always P

/-- A postcondition may be weakened. -/
theorem Always.mono {d : Draw α} (h : d.Always P) (weaker : ∀ a, P a → Q a) : d.Always Q := by
  induction d with
  | done a => exact weaker a h
  | number span next ih => exact ⟨h.1, fun n lower upper => ih n (h.2 n lower upper)⟩
  | coin odds next ih => exact fun b => ih b (h b)

/-- Two postconditions may be checked one by one. -/
theorem Always.and {d : Draw α} (h : d.Always P) (h' : d.Always Q) :
    d.Always fun a => P a ∧ Q a := by
  induction d with
  | done a => exact ⟨h, h'⟩
  | number span next ih =>
    exact ⟨h.1, fun n lower upper => ih n (h.2 n lower upper) (h'.2 n lower upper)⟩
  | coin odds next ih => exact fun b => ih b (h b) (h' b)

/-- One draw after another: what always holds of the first result is all that the second draw
may rely on. -/
theorem always_bind {d : Draw α} {f : α → Draw β} (h : d.Always P)
    (next : ∀ a, P a → (f a).Always R) : (d >>= f).Always R := by
  induction d with
  | done a => exact next a h
  | number span rest ih => exact ⟨h.1, fun n lower upper => ih n (h.2 n lower upper)⟩
  | coin odds rest ih => exact fun b => ih b (h b)

/-- A value lies in its range. -/
theorem always_value {lo hi : Nat} (h : lo ≤ hi) :
    (value lo hi).Always fun n => lo ≤ n ∧ n ≤ hi :=
  ⟨h, fun _ lower upper => ⟨lower, upper⟩⟩

/-- A count lies in its range. -/
theorem always_count {lo hi : Nat} (h : lo ≤ hi) :
    (count lo hi).Always fun n => lo ≤ n ∧ n ≤ hi :=
  ⟨h, fun _ lower upper => ⟨lower, upper⟩⟩

/-- Nothing is known of a coin. -/
theorem always_toss (odds : Nat) : (toss odds).Always fun _ => True := fun _ => trivial

/-- Repeating a draw gives as many results as asked for, each with the property of one. -/
theorem always_replicate {d : Draw α} (h : d.Always P) (n : Nat) :
    (replicate n d).Always fun as => as.length = n ∧ ∀ a ∈ as, P a := by
  induction n with
  | zero => exact ⟨rfl, by simp⟩
  | succ n ih =>
    refine always_bind h fun a ha => always_bind ih fun as has => ?_
    refine ⟨by simp [has.1], ?_⟩
    intro x hx
    rcases List.mem_cons.1 hx with rfl | later
    · exact ha
    · exact has.2 x later

/-- What always holds is true of every run. -/
theorem always_run {σ : Type} [WordSource σ] {d : Draw α} (h : d.Always P) (s : σ) :
    P (d.run s).1 := by
  induction d generalizing s with
  | done a => exact h
  | number span next ih =>
    obtain ⟨lower, upper⟩ := span.sample_mem h.1 s
    exact ih _ (h.2 _ lower upper) _
  | coin odds next ih => exact ih _ (h _) _

end Draw

open Draw

/-! ## Numbers -/

namespace Literal

/-- A number that can be read and lies below a bound. -/
structure Within (bound : Nat) (l : Literal) : Prop where
  /-- Its denominator is not zero. -/
  denominator_ne_zero : l.denominator ≠ 0
  /-- It is below the bound. -/
  value_lt : l.value < bound

theorem within_whole {bound n : Nat} (h : n < bound) : Within bound (whole n) where
  denominator_ne_zero := by simp [denominator]
  value_lt := by simpa [value] using Rat.natCast_lt_natCast.2 h

/-- A proper fraction added to at most the bound less two stays below the bound. -/
theorem within_parts {bound units num den : Nat} (proper : num < den)
    (below : units + 2 ≤ bound) : Within bound (mixed units num den) where
  denominator_ne_zero := by
    simp only [denominator]
    omega
  value_lt := by
    have den_pos : (0 : Rat) < den := Rat.natCast_pos.2 (by omega)
    have numerator : units * den + num < bound * den := by
      calc units * den + num < units * den + den := by omega
        _ = (units + 1) * den := by rw [Nat.add_mul, Nat.one_mul]
        _ ≤ bound * den := Nat.mul_le_mul_right den (by omega)
    simp only [value, Rat.mkRat_eq_div]
    rw [Rat.div_lt_iff den_pos]
    exact_mod_cast numerator

theorem within_fraction {bound num den : Nat} (proper : num < den) (below : 2 ≤ bound) :
    Within bound (fraction num den) := by
  have parts := @within_parts bound 0 num den proper (by omega)
  exact ⟨parts.denominator_ne_zero, by simpa [value] using parts.value_lt⟩

/-- A proper fraction whose denominator lies below a bound; two may be the denominator in any
case. -/
structure Proper (bound num den : Nat) : Prop where
  /-- It is not zero. -/
  num_pos : 0 < num
  /-- It is less than one. -/
  num_lt : num < den
  /-- Its denominator is not one. -/
  two_le : 2 ≤ den
  /-- Its denominator is two or lies below the bound. -/
  den_le : den ≤ max (bound - 1) 2

/-- The literals that are drawn below a bound. -/
def Drawable (bound : Nat) : Literal → Prop
  | whole n => n < bound
  | fraction num den => 2 ≤ bound ∧ Proper bound num den
  | mixed units num den => 2 ≤ bound ∧ 1 ≤ units ∧ units ≤ bound - 2 ∧ Proper bound num den

/-- What is drawn below a bound is below it. -/
theorem Drawable.within {bound : Nat} {l : Literal} (h : l.Drawable bound) : l.Within bound := by
  cases l with
  | whole n => exact within_whole h
  | fraction num den => exact within_fraction h.2.num_lt h.1
  | mixed units num den =>
    obtain ⟨some_bound, some_units, below, proper⟩ := h
    exact within_parts proper.num_lt (by omega)

theorem always_drawWhole {bound : Nat} (h : 1 ≤ bound) :
    (drawWhole bound).Always (Drawable bound) := by
  refine always_bind (always_value (Nat.zero_le _)) fun n range => ?_
  show n < bound
  omega

theorem always_drawParts {bound : Nat} (h : 2 ≤ bound) :
    (drawParts bound).Always (Drawable bound) := by
  refine always_bind (always_value (Nat.zero_le _)) fun units range => ?_
  -- the same for the denominator that is drawn and for the one that is not
  have numerator : ∀ den, 2 ≤ den → den ≤ max (bound - 1) 2 → Always (Drawable bound) (do
      let num ← Draw.value 1 (den - 1)
      return if units = 0 then fraction num den else mixed units num den) := by
    intro den large below
    refine always_bind (always_value (by omega)) fun num between => ?_
    have proper : Proper bound num den := ⟨by omega, by omega, large, below⟩
    show Drawable bound (if units = 0 then fraction num den else mixed units num den)
    split
    · exact ⟨h, proper⟩
    · exact ⟨h, by omega, by omega, proper⟩
  dsimp only
  split
  · exact always_bind (always_value (by omega)) fun den range =>
      numerator den range.1 (by omega)
  · exact numerator 2 (Nat.le_refl 2) (by omega)

/-- What is drawn below a bound is one of the literals for it. -/
theorem always_draw {bound : Nat} (h : 1 ≤ bound) : (draw bound).Always (Drawable bound) := by
  unfold draw
  split
  · exact always_drawWhole h
  · refine always_bind (always_toss _) fun heads _ => ?_
    split
    · exact always_drawWhole h
    · exact always_drawParts (by omega)

end Literal

/-! ## Chains -/

/-- Drawing an operator asks for a range that is not empty. -/
theorem Op.always_draw : Op.draw.Always fun _ => True :=
  always_bind (always_count (by decide)) fun _ _ => trivial

namespace Chain

/-- The numbers of a chain, in order. -/
def numbers (c : Chain) : List Literal := c.first :: c.rest.map Prod.snd

/-- A chain with at least one and at most `maxOps` operators, and with numbers below a bound. -/
structure Within (bound maxOps : Nat) (c : Chain) : Prop where
  /-- It has an operator. -/
  one_le_length : 1 ≤ c.rest.length
  /-- It has no more operators than allowed. -/
  length_le : c.rest.length ≤ maxOps
  /-- Its numbers are below the bound. -/
  within : ∀ l ∈ c.numbers, l.Within bound

/-- The numbers of a chain to order can be read. -/
theorem Within.denominator_ne_zero {bound maxOps : Nat} {c : Chain} (h : c.Within bound maxOps) :
    ∀ l ∈ c.numbers, l.denominator ≠ 0 := fun l hl => (h.within l hl).denominator_ne_zero

/-- A chain that is drawn has a number of operators that is allowed, and its numbers have what every
number that is drawn has. -/
theorem always_draw_of {bound maxOps : Nat} {P : Literal → Prop} (some_op : 1 ≤ maxOps)
    (literals : (Literal.draw bound).Always P) :
    (draw bound maxOps).Always fun c =>
      1 ≤ c.rest.length ∧ c.rest.length ≤ maxOps ∧ ∀ l ∈ c.numbers, P l := by
  refine always_bind (always_count (by omega)) fun k range => ?_
  refine always_bind literals fun first below => ?_
  refine always_bind (always_replicate literals k) fun others drawn => ?_
  refine always_bind (always_replicate Op.always_draw k) fun ops signs => ?_
  have length : (ops.zip others).length = k := by
    rw [List.length_zip, signs.1, drawn.1, Nat.min_self]
  refine ⟨length ▸ range.1, by rw [length]; omega, ?_⟩
  intro l hl
  rcases List.mem_cons.1 hl with rfl | other
  · exact below
  · obtain ⟨p, hp, rfl⟩ := List.mem_map.1 other
    exact drawn.2 _ (List.of_mem_zip hp).2

/-- A chain that is drawn is one that was asked for. -/
theorem always_draw {bound maxOps : Nat} (some_bound : 1 ≤ bound) (some_op : 1 ≤ maxOps) :
    (draw bound maxOps).Always (Within bound maxOps) := by
  have literals := (Literal.always_draw some_bound).mono fun _ => Literal.Drawable.within
  exact (always_draw_of some_op literals).mono fun c ⟨least, most, below⟩ => ⟨least, most, below⟩

end Chain

end ArithDrill
