import ArithDrill.Command.Settings

/-!
# What settings ask for

Settings ask for generating if they make up an order within the limits and name no file to grade.

## Main definitions

* `Settings.Asks` — the order that settings for generating make up.

## Main statements

* `Settings.order_eq_ok_iff`, `Settings.task_eq_generation_iff` — the checks, all at once.
-/

namespace ArithDrill.Settings

variable {s : Settings} {o : Order} {seed : Option Nat}

/-- The order that settings for generating make up: each value is given, and within its limits. -/
structure Asks (s : Settings) (o : Order) : Prop where
  /-- The size is given. -/
  count_eq : s.count = some o.count
  /-- The bound is given. -/
  bound_eq : s.bound = some o.bound
  /-- There is a number below the bound. -/
  one_le_bound : 1 ≤ o.bound
  /-- The bound is not too large. -/
  bound_le : o.bound ≤ maxBound
  /-- The series is not too large. -/
  count_le : o.count ≤ maxCount
  /-- The number of operators is as it is set. -/
  maxOps_eq : o.maxOps = s.maxOps
  /-- There is room for an operator. -/
  one_le_maxOps : 1 ≤ s.maxOps
  /-- There are not too many operators. -/
  maxOps_le : s.maxOps ≤ maxOpsLimit
  /-- Some attempt is allowed. -/
  some_attempt : s.attempts ≠ 0
  /-- The attempts are allowed for each exercise, and cut down to the limit. -/
  maxAttempts_eq : o.maxAttempts = min (s.attempts * max o.count 1) attemptsLimit

/-- A check that is passed leaves the rest. -/
theorem check_eq_ok_iff {α ε : Type} {c : Prop} [Decidable c] {e : ε} {x : Except ε α} {a : α} :
    (if c then .error e else x) = .ok a ↔ ¬c ∧ x = .ok a := by
  split <;> simp_all

/-- The checks are passed by the settings that make up an order within the limits. -/
theorem order_eq_ok_iff : s.order = .ok o ↔ s.Asks o := by
  unfold order
  constructor
  · intro h
    cases count : s.count with
    | none => simp [count, need, bind, Except.bind] at h
    | some n =>
      cases bound : s.bound with
      | none => simp [count, bound, need, bind, Except.bind] at h
      | some b =>
        simp only [count, bound, need, bind, Except.bind, check_eq_ok_iff, Except.ok.injEq] at h
        obtain ⟨one_le_bound, bound_le, count_le, ops_in_range, some_attempt, rfl⟩ := h
        exact ⟨count, bound, Nat.not_lt.1 one_le_bound, Nat.not_lt.1 bound_le,
          Nat.not_lt.1 count_le, rfl, by omega, by omega, some_attempt, rfl⟩
  · intro h
    have one_le := h.one_le_maxOps
    have le := h.maxOps_le
    simp only [h.count_eq, h.bound_eq, need, bind, Except.bind, check_eq_ok_iff]
    refine ⟨Nat.not_lt.2 h.one_le_bound, Nat.not_lt.2 h.bound_le, Nat.not_lt.2 h.count_le,
      by omega, h.some_attempt, ?_⟩
    rw [← h.maxOps_eq, ← h.maxAttempts_eq]

/-- Settings ask for generating if they make up an order and name no file to grade. -/
theorem task_eq_generation_iff :
    s.task = .ok (.generation o seed) ↔ s.asksGrading = false ∧ s.seed = seed ∧ s.Asks o := by
  rw [← order_eq_ok_iff]
  unfold task
  cases generation : s.asksGeneration <;> cases grading : s.asksGrading
  · have no_count : s.count = none := by
      simp only [asksGeneration, Bool.or_eq_false_iff, Option.isSome_eq_false_iff,
        Option.isNone_iff_eq_none] at generation
      exact generation.1
    simp [order, no_count, need, bind, Except.bind]
  · cases s.exercises <;> cases s.answers <;> simp [need, bind, Except.bind, pure, Except.pure]
  · cases made : s.order <;> simp [bind, Except.bind, pure, Except.pure, and_comm]
  · simp

end ArithDrill.Settings
