import ArithDrill.Proofs.Candidates
import ArithDrill.Proofs.Cycle
import ArithDrill.Proofs.Requests
import Mathlib.Order.MinMax

/-!
# Longer series and more attempts

What is drawn from a seed depends neither on how many exercises are asked for nor on how many
attempts are allowed.  So a longer series from the same seed continues a shorter one, and a series
that could be completed is the same when more attempts are allowed.  The product of attempts and
exercises is cut down to the limit, which keeps the order of the attempts.

## Main definitions

* `Settings.asking` — the same settings with another size and other attempts.
* `Settings.Yields` — accepted settings with a seed, and the series from it.

## Main statements

* `Run.extend_of_isOver` — a run that is over makes no use of more attempts.
* `take_of_generate` — a longer series continues a shorter one.
* `World.execute_asking` — the whole program makes no use of more attempts.
* `Settings.yields_continues` — the two properties for the settings of the command line.
-/

namespace ArithDrill

/-! ## Orders -/

namespace Settings

variable {s : Settings} {o : Order} {seed : Option Nat} {n n' t t' : Nat}

/-- The same settings with another size and other attempts. -/
def asking (s : Settings) (count attempts : Nat) : Settings :=
  { s with count := some count, attempts := attempts }

/-- More attempts for each exercise are more attempts in all, or as many. -/
theorem exists_task_of_le (le : t ≤ t')
    (accepted : (s.asking n t).task = .ok (.generation o seed)) :
    ∃ limit, o.maxAttempts ≤ limit ∧
      (s.asking n t').task = .ok (.generation { o with maxAttempts := limit } seed) := by
  obtain ⟨no_grading, same_seed, asks⟩ := task_eq_generation_iff.1 accepted
  refine ⟨min (t' * max o.count 1) attemptsLimit, ?_, ?_⟩
  · rw [asks.maxAttempts_eq]
    exact min_le_min_right _ (Nat.mul_le_mul_right _ le)
  · have some_attempt : t' ≠ 0 := by
      have before : t ≠ 0 := asks.some_attempt
      omega
    exact task_eq_generation_iff.2 ⟨no_grading, same_seed,
      { asks with some_attempt, maxAttempts_eq := rfl }⟩

end Settings

/-! ## Two generations from one source -/

section

variable {σ : Type} [WordSource σ] {source : σ} {count bound maxOps : Nat}

/-- A run that is over after some attempts makes no use of more. -/
theorem Run.extend_of_isOver {r : Run} {left left' : Nat} (le : left ≤ left')
    (over_then : ((extend count bound maxOps left r).run source).1.isOver count = true) :
    (extend count bound maxOps left' r).run source =
      (extend count bound maxOps left r).run source := by
  -- where the smaller number of attempts is used up, the run is over already
  induction left generalizing r source left' with
  | zero =>
    have over_now : r.isOver count = true := over_then
    cases left' with
    | zero => rfl
    | succ left' =>
      rw [extend, extend, if_pos over_now]
  | succ left ih =>
    obtain ⟨left', rfl⟩ := Nat.exists_eq_add_of_lt (Nat.lt_of_succ_le le)
    rw [extend] at over_then ⊢
    rw [extend]
    split
    · rfl
    · rename_i going
      rw [if_neg going, Draw.run_bind] at over_then
      rw [Draw.run_bind, Draw.run_bind]
      exact ih (by omega) over_then

/-- A run that makes up a series is over. -/
theorem Run.isOver_of_result {r : Run} {es : List Exercise} (h : r.result count = .ok es) :
    r.isOver count = true := by
  rw [result] at h
  split at h
  · simp at h
  · split at h
    · rename_i enough
      simp [isOver, enough]
    · simp at h

/-- When a series can be completed, the run is the same with more attempts. -/
theorem run_of_generate {o : Order} {limit : Nat} {es : List Exercise}
    (le : o.maxAttempts ≤ limit) (generated : ((generate o).run source).1 = .ok es) :
    (Order.run { o with maxAttempts := limit }).run source = o.run.run source := by
  rw [run_generate] at generated
  exact Run.extend_of_isOver le (Run.isOver_of_result generated)

/-- A longer series continues a shorter one, whatever attempts are allowed for them. -/
theorem take_of_generate {o o' : Order} {es es' : List Exercise} (same_bound : o'.bound = o.bound)
    (same_ops : o'.maxOps = o.maxOps) (le : o.count ≤ o'.count)
    (generated : ((generate o).run source).1 = .ok es)
    (generated' : ((generate o').run source).1 = .ok es') : es = es'.take o.count := by
  -- both series are the exercises among some first candidates
  obtain ⟨k, stops, rfl, length⟩ := exists_stopsAt_of_generate generated
  obtain ⟨k', -, rfl, length'⟩ := exists_stopsAt_of_generate generated'
  rw [same_bound, same_ops] at length' ⊢
  have not_before : ¬ k' < k := by
    intro before
    have short := stops.short k' before
    omega
  have front := distinctExercises_mono o.bound o.maxOps source (Nat.le_of_not_lt not_before)
  rw [← length]
  exact List.prefix_iff_eq_take.1 front

end

/-! ## Two runs of the program -/

section

variable {w : World} {s : Settings} {o : Order} {n t t' : Nat}

/-- What is done for an order depends on its attempts through the run alone. -/
theorem run_runGeneration_congr {seed : Option Nat} {dir : Path} {limit : Nat}
    (same : ((Order.run { o with maxAttempts := limit }).run
        (ChaCha.Stream.ofKey (w.keyFor seed))).1 =
      (o.run.run (ChaCha.Stream.ofKey (w.keyFor seed))).1) :
    (runGeneration { o with maxAttempts := limit } seed dir : Action Unit).run.run w =
      (runGeneration o seed dir : Action Unit).run.run w := by
  have drawn : (drawKey seed : Action ChaCha.Key).run.run w = (.ok (w.keyFor seed), w) := by
    cases seed <;> rfl
  rw [runGeneration, runGeneration, run_bind_of_run drawn, run_bind_of_run drawn]
  dsimp only
  rw [same]
  rfl

/-- Settings with a size do not ask for grading alone. -/
theorem Settings.task_asking_ne_grading (p q : Path) :
    (s.asking n t).task ≠ .ok (.grading p q) := by
  have generation : (s.asking n t).asksGeneration = true := rfl
  unfold task
  rw [generation]
  cases (s.asking n t).asksGrading with
  | true => simp
  | false => cases (s.asking n t).order <;> simp [bind, Except.bind, pure, Except.pure]

/-- A run that succeeds has a series. -/
theorem World.exists_task_of_execute (succeeds : (w.execute (s.asking n t)).1 = .ok ()) :
    ∃ o es, (s.asking n t).task = .ok (.generation o s.seed) ∧
      ((generate o).run (ChaCha.Stream.ofKey (w.keyFor s.seed))).1 = .ok es := by
  cases asked : (s.asking n t).task with
  | error e =>
    have failed : (w.execute (s.asking n t)).1 = .error (.settings e) := by
      rw [execute, Settings.execute, asked]
      rfl
    rw [failed] at succeeds
    simp at succeeds
  | ok task =>
    cases task with
    | grading p q => exact absurd asked (Settings.task_asking_ne_grading p q)
    | generation o seed =>
      obtain ⟨-, rfl, -⟩ := Settings.task_eq_generation_iff.1 asked
      obtain ⟨es, generated⟩ := exists_generated asked succeeds
      exact ⟨o, es, rfl, generated⟩

/-- When a run succeeds, more attempts change neither its files nor its journal. -/
theorem World.execute_asking (le : t ≤ t')
    (succeeds : (w.execute (s.asking n t)).1 = .ok ()) :
    w.execute (s.asking n t') = w.execute (s.asking n t) := by
  obtain ⟨o, es, asked, generated⟩ := exists_task_of_execute succeeds
  obtain ⟨limit, more, asked'⟩ := Settings.exists_task_of_le le asked
  rw [execute, execute, Settings.execute, Settings.execute, asked, asked']
  exact run_runGeneration_congr (congrArg Prod.fst (run_of_generate more generated))

end

namespace Settings

/-- Settings that are accepted and have a seed, and the series from the seed. -/
def Yields (s : Settings) (es : List Exercise) : Prop :=
  ∃ o seed, s.task = .ok (.generation o (some seed)) ∧
    ((generate o).run (ChaCha.Stream.ofKey (.ofSeed (.ofNat seed)))).1 = .ok es

/-- Settings that differ only in the size of the series and in the attempts.  If both yield a
series, then the longer one continues the shorter one.  If a series can be completed, then it is
the same with more attempts, and the settings are accepted then; and so it is with the whole run of
the program, which has a series whenever it succeeds. -/
theorem yields_continues (s : Settings) (n t t' : Nat) :
    (∀ n' es es', n ≤ n' → (s.asking n t).Yields es → (s.asking n' t').Yields es' →
      es = es'.take n) ∧
    (∀ es, t ≤ t' → (s.asking n t).Yields es → (s.asking n t').Yields es) ∧
    ∀ w : World, (w.execute (s.asking n t)).1 = .ok () →
      (s.seed.isSome → ∃ es, (s.asking n t).Yields es) ∧
      (t ≤ t' → w.execute (s.asking n t') = w.execute (s.asking n t)) := by
  refine ⟨?_, ?_, ?_⟩
  · rintro n' es es' le ⟨o, seed, asked, generated⟩ ⟨o', seed', asked', generated'⟩
    obtain ⟨-, same_seed, asks⟩ := task_eq_generation_iff.1 asked
    obtain ⟨-, same_seed', asks'⟩ := task_eq_generation_iff.1 asked'
    obtain rfl : seed = seed' := Option.some.inj (same_seed.symm.trans same_seed')
    have count : n = o.count := Option.some.inj asks.count_eq
    have count' : n' = o'.count := Option.some.inj asks'.count_eq
    have bound : o'.bound = o.bound := Option.some.inj (asks'.bound_eq.symm.trans asks.bound_eq)
    have ops : o'.maxOps = o.maxOps := asks'.maxOps_eq.trans asks.maxOps_eq.symm
    rw [count] at le ⊢
    rw [count'] at le
    exact take_of_generate bound ops le generated generated'
  · rintro es le ⟨o, seed, asked, generated⟩
    obtain ⟨limit, more, asked'⟩ := exists_task_of_le le asked
    refine ⟨_, seed, asked', ?_⟩
    have same := run_of_generate more generated
    rw [run_generate] at generated ⊢
    rw [same]
    exact generated
  · intro w succeeds
    refine ⟨fun seeded => ?_, fun le => World.execute_asking le succeeds⟩
    obtain ⟨o, es, asked, generated⟩ := World.exists_task_of_execute succeeds
    obtain ⟨seed, given⟩ := Option.isSome_iff_exists.1 seeded
    rw [given] at asked generated
    exact ⟨es, o, seed, asked, generated⟩

/-- The seed 14 yields `3 ÷ 5 =` with one attempt, and a second exercise with one attempt more.
With so many attempts that their product passes the limit it yields the same, and the program does
the same. -/
theorem yields_quotient :
    let s : Settings := { bound := some 10, maxOps := 1, seed := some 14 }
    let w := World.ofTree .empty
    let e : Exercise := ⟨"3 ÷ 5 =".toList, 3 / 5, "(3÷5)".toList⟩
    let e' : Exercise := ⟨"9 - 5'1/4 =".toList, 15 / 4, "(9-5'1/4)".toList⟩
    (s.asking 1 1).Yields [e] ∧ (s.asking 2 2).Yields [e, e'] ∧ [e] = [e, e'].take 1 ∧
    attemptsLimit < attemptsLimit * 2 ∧ (s.asking 2 attemptsLimit).Yields [e, e'] ∧
    w.execute (s.asking 1 attemptsLimit) = w.execute (s.asking 1 1) := by
  intro s w e e'
  have first : (s.asking 1 1).Yields [e] := ⟨⟨1, 10, 1, 1⟩, 14, rfl, by dsimp only [e]; cbv⟩
  have second : (s.asking 2 2).Yields [e, e'] :=
    ⟨⟨2, 10, 1, 4⟩, 14, rfl, by dsimp only [e, e']; cbv⟩
  have succeeds : (w.execute (s.asking 1 1)).1 = .ok () := by cbv
  have enough : 2 ≤ attemptsLimit := by simp [attemptsLimit]
  obtain ⟨continues, -, -⟩ := yields_continues s 1 1 2
  obtain ⟨-, more, -⟩ := yields_continues s 2 2 attemptsLimit
  obtain ⟨-, -, whole⟩ := yields_continues s 1 1 attemptsLimit
  exact ⟨first, second, continues 2 _ _ (by decide) first second, by omega, more _ enough second,
    (whole w succeeds).2 (by omega)⟩

end Settings

end ArithDrill
