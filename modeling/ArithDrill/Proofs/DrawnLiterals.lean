import ArithDrill.Proofs.Possible
import Mathlib.Data.Set.Insert

/-!
# Which literals are drawn

The draw of a literal below a bound gives the literals for this bound and all of them, up to the
largest bound that there is.  That it gives no other is checked along its requests; that it gives
each is a choice of the coin and of one number of each range.  Neither range is longer than the
words are many, so that the words for these answers exist.

## Main statements

* `Literal.sometimes_draw` — each literal for the bound is possible.
* `Literal.drawn_exactly` — the literals that are drawn, over all streams of words.
-/

namespace ArithDrill.Literal

open Draw

variable {bound units num den n : Nat}

/-- Each whole number below the bound. -/
theorem sometimes_drawWhole (fits : bound < UInt64.size) (below : n < bound) :
    (drawWhole bound).Sometimes fun l => l = whole n := by
  refine sometimes_bind (sometimes_value (Nat.zero_le n) (by omega) (by omega)) fun m drawn => ?_
  exact congrArg whole drawn

/-- Each proper fraction, with each number of units that the bound leaves room for. -/
theorem sometimes_drawParts (fits : bound < UInt64.size) (some_bound : 2 ≤ bound)
    (below : units ≤ bound - 2) (proper : Proper bound num den) :
    (drawParts bound).Sometimes fun l =>
      l = if units = 0 then fraction num den else mixed units num den := by
  obtain ⟨positive, less, large, small⟩ := proper
  have numerator : (Draw.value 1 (den - 1)).Sometimes fun m => m = num :=
    sometimes_value positive (by omega) (by omega)
  refine sometimes_bind (sometimes_value (Nat.zero_le units) below (by omega)) fun u drawn => ?_
  subst u
  dsimp only
  by_cases some_choice : 2 < bound
  · rw [if_pos some_choice]
    refine sometimes_bind (sometimes_value large (by omega) (by omega)) fun d drawn => ?_
    subst d
    refine sometimes_bind numerator fun m drawn => ?_
    subst m
    rfl
  · rw [if_neg some_choice]
    obtain rfl : den = 2 := by omega
    rw [pure_eq, done_bind]
    refine sometimes_bind numerator fun m drawn => ?_
    subst m
    rfl

/-- Each literal for the bound is possible. -/
theorem sometimes_draw {l : Literal} (fits : bound < UInt64.size) (drawable : l.Drawable bound) :
    (draw bound).Sometimes fun a => a = l := by
  -- above one the coin decides between whole numbers and the others
  have tossed (b : Bool) (large : 2 ≤ bound)
      (side : (if b then drawWhole bound else drawParts bound).Sometimes fun a => a = l) :
      (draw bound).Sometimes fun a => a = l := by
    rw [draw, if_neg (by omega)]
    refine sometimes_bind (sometimes_flip b) fun c fell => ?_
    subst c
    exact side
  cases l with
  | whole n =>
    have whole_number := sometimes_drawWhole fits drawable
    by_cases large : 2 ≤ bound
    · exact tossed true large whole_number
    · rw [draw, if_pos (by omega)]
      exact whole_number
  | fraction num den =>
    obtain ⟨large, proper⟩ := drawable
    exact tossed false large (sometimes_drawParts fits large (Nat.zero_le _) proper)
  | mixed units num den =>
    obtain ⟨large, some_units, below, proper⟩ := drawable
    have parts := sometimes_drawParts fits large below proper
    rw [if_neg (by omega)] at parts
    exact tossed false large parts

/-- There are words that decide on a given literal for the bound. -/
theorem exists_decides_draw {l : Literal} (fits : bound < UInt64.size)
    (drawable : l.Drawable bound) : ∃ ws, Decides ws (draw bound).run l := by
  obtain ⟨_, rfl, decided⟩ := exists_decides (sometimes_draw fits drawable)
  exact decided

/-- The draw of a literal gives exactly the literals for its bound.  Over all streams of words they
are the whole numbers below the bound and, if it is at least two, the proper fractions whose
denominator is two or lies below the bound, alone and with one unit up to two less than the bound.
No source of words gives another, for each there are finitely many words that decide on it, and its
value is neither negative nor as large as the bound. -/
theorem drawn_exactly (positive : 1 ≤ bound) (fits : bound < UInt64.size) :
    {l | ∃ s : Stream' UInt32, ((draw bound).run s).1 = l} = {l | Drawable bound l} ∧
    (∀ {σ : Type} [WordSource σ] (s : σ), Drawable bound ((draw bound).run s).1) ∧
    (∀ l, Drawable bound l → ∃ ws, Decides ws (draw bound).run l) ∧
    ∀ l, Drawable bound l → 0 ≤ l.value ∧ l.value < bound := by
  have sound : ∀ {σ : Type} [WordSource σ] (s : σ), Drawable bound ((draw bound).run s).1 :=
    fun s => always_run (always_draw positive) s
  refine ⟨Set.ext fun l => ⟨?_, fun drawable => ?_⟩, sound,
    fun l drawable => exists_decides_draw fits drawable,
    fun l drawable => ⟨value_nonneg l, drawable.within.value_lt⟩⟩
  · rintro ⟨s, rfl⟩
    exact sound s
  · obtain ⟨ws, decided⟩ := exists_decides_draw fits drawable
    -- after the words that decide, the stream may go on in any way
    have run := run_of_decides decided (supplies_stream ws (Stream'.const 0))
    exact ⟨ws ++ₛ Stream'.const 0, by rw [run]⟩

/-- Below two only `0`, `1` and `1/2` are drawn.  Below the largest bound the largest mixed number
is drawn from a list of words that starts over at its end. -/
theorem drawn_below_two :
    {l | ∃ s : Stream' UInt32, ((draw 2).run s).1 = l} = {whole 0, whole 1, fraction 1 2} ∧
    ∃ ws, ((draw (UInt64.size - 1)).run (CyclicWords.ofList ws)).1 =
      mixed (UInt64.size - 3) (UInt64.size - 3) (UInt64.size - 2) := by
  constructor
  · rw [(drawn_exactly (by decide : 1 ≤ 2) (by decide)).1]
    ext l
    simp only [Set.mem_ofPred_eq, Set.mem_insert_iff, Set.mem_singleton_iff]
    constructor
    · intro drawable
      cases l with
      | whole n =>
        have small : n < 2 := drawable
        obtain rfl | rfl : n = 0 ∨ n = 1 := by omega
        · exact .inl rfl
        · exact .inr (.inl rfl)
      | fraction num den =>
        obtain ⟨-, positive, less, large, small⟩ := drawable
        obtain ⟨rfl, rfl⟩ : num = 1 ∧ den = 2 := by omega
        exact .inr (.inr rfl)
      | mixed units num den =>
        obtain ⟨-, some_units, below, -⟩ := drawable
        omega
    · rintro (rfl | rfl | rfl)
      · exact Nat.zero_lt_two
      · exact Nat.one_lt_two
      · exact ⟨Nat.le_refl 2, by decide, by decide, by decide, by decide⟩
  · have size : UInt64.size = 18446744073709551616 := rfl
    have drawable : Drawable (UInt64.size - 1)
        (mixed (UInt64.size - 3) (UInt64.size - 3) (UInt64.size - 2)) :=
      ⟨by omega, by omega, by omega, by omega, by omega, by omega, by omega⟩
    obtain ⟨-, -, possible, -⟩ := drawn_exactly (by omega : 1 ≤ UInt64.size - 1) (by omega)
    obtain ⟨ws, decided⟩ := possible _ drawable
    exact ⟨ws, by rw [run_of_decides decided (CyclicWords.supplies ws)]⟩

end ArithDrill.Literal
