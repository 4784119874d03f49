import ArithDrill.Proofs.WordSafety

/-!
# The loop of a generation on words

The generator draws candidates in a loop that counts them and compares the count with the attempts
it is allowed.  Pass by pass, the loop goes where a run of the model goes.  So it draws without a
trap, its counter never exceeds the attempts, and once it has had one pass more than there are
attempts it is over, with what `generate` comes to.

## Main definitions

* `Guarded.EndsAt` — what holds where a guarded computation is not stopped.
* `Run.progress` — the progress of the loop that belongs to a run.

## Main statements

* `Guarded.pass_of_over`, `Guarded.givesAt_pass` — one pass.
* `Guarded.endsAt_passes` — many passes.
* `generator_without_traps` — the whole generator on words.
-/

namespace ArithDrill

variable {α β σ : Type} [WordSource σ] {large : Prop}

/-! ## Runs -/

namespace Run

/-- The trial of a sketch goes before all others. -/
theorem exists_trials_record (r : Run) (s : Sketch) :
    ∃ x, (r.record s).trials = ⟨s, x⟩ :: r.trials := by
  unfold record
  split <;> exact ⟨_, rfl⟩

theorem attempts_record (r : Run) (s : Sketch) : (r.record s).attempts = r.attempts + 1 := by
  obtain ⟨x, trials⟩ := r.exists_trials_record s
  rw [attempts, trials, List.length_cons, attempts]

/-- A run that is over or has no attempt left stays as it is. -/
theorem extend_of_ended (bound maxOps : Nat) {count left : Nat} {r : Run}
    (ended : r.isOver count = true ∨ left = 0) : extend count bound maxOps left r = .done r := by
  cases left with
  | zero => rfl
  | succ left => rw [extend, if_pos (ended.resolve_right (Nat.succ_ne_zero left))]

/-- The trials there are remain. -/
theorem trials_suffix_extend (count bound maxOps left : Nat) (r : Run) (s : σ) :
    r.trials <:+ ((extend count bound maxOps left r).run s).1.trials := by
  induction left generalizing r s with
  | zero => exact List.suffix_rfl
  | succ left ih =>
    rw [extend]
    split
    · exact List.suffix_rfl
    · obtain ⟨x, trials⟩ := r.exists_trials_record ((Sketch.draw bound maxOps).run s).1
      rw [Draw.run_bind]
      exact (List.suffix_cons _ _).trans (trials ▸ ih _ _)

/-- The progress of the loop that belongs to a run. -/
def progress (r : Run) : Guarded.Progress :=
  ⟨r.series, r.attempts, r.broken.map fun x => .error (.broken x)⟩

/-- What the loop makes of a candidate is what a run makes of its sketch. -/
theorem progress_record {r : Run} (not_broken : r.broken = none) (s : Sketch) :
    (r.record s).progress = r.progress.record (r.attempts + 1) s.exercise? := by
  rw [progress, attempts_record, record]
  cases s.exercise? with
  | error x => rfl
  | ok x => cases x <;> simp [not_broken, Guarded.Progress.record, progress]

end Run

/-- The chain of a sketch is drawn first. -/
theorem Sketch.chain_run_draw (bound maxOps : Nat) (s : σ) :
    ((draw bound maxOps).run s).1.chain = ((Chain.draw bound maxOps).run s).1 := by
  rw [draw, Draw.run_bind]
  split
  · rw [Draw.run_bind]
    split
    · rw [Draw.run_bind]
      rfl
    · rfl
  · rfl

namespace Guarded

/-! ## Results without a trap -/

/-- From one source, the result of a guarded computation has a property.  Where something is too
large, a sum may stop the computation; nothing else ever does. -/
def EndsAt (large : Prop) (d : Guarded α) (P : α → Prop) (s : σ) : Prop :=
  (∃ a, (Draw.run (ExceptT.run d) s).1 = .ok a ∧ P a) ∨
    large ∧ (Draw.run (ExceptT.run d) s).1 = .error .overflow

theorem endsAt_pure {P : α → Prop} {a : α} (h : P a) (s : σ) :
    (pure a : Guarded α).EndsAt large P s := .inl ⟨a, rfl, h⟩

/-- The property may be weakened. -/
theorem EndsAt.mono {d : Guarded α} {P Q : α → Prop} {s : σ} (h : d.EndsAt large P s)
    (weaker : ∀ a, P a → Q a) : d.EndsAt large Q s :=
  h.imp_left fun ⟨a, result, holds⟩ => ⟨a, result, weaker a holds⟩

/-- Where nothing is too large, there is a result. -/
theorem EndsAt.exists_ok {d : Guarded α} {P : α → Prop} {s : σ} (h : d.EndsAt large P s)
    (small : ¬large) : ∃ a, (Draw.run (ExceptT.run d) s).1 = .ok a ∧ P a :=
  h.resolve_right fun excess => small excess.1

/-- One computation after another, from one source. -/
theorem GivesAt.endsAt {d : Guarded α} {e : Draw α} {f : α → Guarded β} {P : β → Prop} {s : σ}
    (h : d.GivesAt large e s) (next : (f (e.run s).1).EndsAt large P (e.run s).2) :
    (d >>= f).EndsAt large P s := by
  rw [EndsAt, ExceptT.run_bind, Draw.run_bind]
  rcases h with given | ⟨excess, stopped⟩
  · rw [given]
    exact next
  · rw [stopped]
    exact .inr ⟨excess, rfl⟩

/-! ## Passes -/

variable {o : Order} {r : Run}

/-- Where a run is over, one pass finds out what it has come to. -/
theorem pass_of_over (ended : r.isOver o.count = true ∨ o.maxAttempts ≤ r.attempts) :
    pass o r.progress = pure ⟨r.series, r.attempts, some (r.result o.count)⟩ := by
  rw [pass, Run.result]
  cases broken : r.broken with
  | some x => simp [Run.progress, broken]
  | none =>
    by_cases enough : o.count ≤ r.series.size
    · simp [Run.progress, broken, enough]
    · have used_up : o.maxAttempts ≤ r.attempts :=
        ended.resolve_left (by simp [Run.isOver, broken, enough])
      simp [Run.progress, broken, enough, used_up]

/-- Where a run goes on, one pass draws a sketch and takes it into account. -/
theorem givesAt_pass (word : o.maxAttempts < UInt64.size) (going : r.isOver o.count = false)
    (left : r.attempts < o.maxAttempts) {s : σ}
    (fits : ¬large → ((Sketch.draw o.bound o.maxOps).run s).1.chain.render.length < 2 ^ 63) :
    (pass o r.progress).GivesAt large (do
      let sketch ← Sketch.draw o.bound o.maxOps
      return (r.record sketch).progress) s := by
  obtain ⟨few, not_broken⟩ : r.series.size < o.count ∧ r.broken = none := by
    simpa [Run.isOver] using going
  have counted : add r.progress.attempts 1 = pure (r.attempts + 1) :=
    if_pos (show r.attempts + 1 < UInt64.size by omega)
  rw [Sketch.chain_run_draw] at fits
  rw [pass, if_neg (by simp [Run.progress, not_broken]),
    if_neg (by simpa [Run.progress] using few), if_neg (by simpa [Run.progress] using left),
    counted, pure_bind]
  simp only [Run.progress_record not_broken]
  have candidates := (givesAt_candidate fits).andThen fun c s =>
    givesAt_pure (r.progress.record (r.attempts + 1) c) s
  rwa [ArithDrill.candidate, LawfulMonad.bind_assoc] at candidates

/-- A loop that is over stays as it is. -/
theorem passes_of_isSome {p : Progress} (ended : p.outcome.isSome = true) (n : Nat) :
    passes o n p = pure p := by
  induction n with
  | zero => rfl
  | succ n ih => rw [passes, pass, if_pos ended, pure_bind, ih]

/-- The loop and a run that goes on from the same place: the counter stays within the attempts, and
one pass after the attempts that are left the loop has come to what the run comes to. -/
theorem endsAt_passes (word : o.maxAttempts < UInt64.size) (n : Nat)
    (within : r.attempts ≤ o.maxAttempts) {s : σ} {r' : Run}
    (goal : ((Run.extend o.count o.bound o.maxOps (o.maxAttempts - r.attempts) r).run s).1 = r')
    (fits : ¬large → ∀ t ∈ r'.trials, t.sketch.chain.render.length < 2 ^ 63) :
    (passes o n r.progress).EndsAt large (fun p => p.attempts ≤ o.maxAttempts ∧
      (o.maxAttempts - r.attempts < n → p.outcome = some (r'.result o.count))) s := by
  -- on the number of passes, from wherever the run is
  induction n generalizing r s with
  | zero => exact endsAt_pure ⟨within, fun none => absurd none (Nat.not_lt_zero _)⟩ s
  | succ n ih =>
    rw [passes]
    by_cases ended : r.isOver o.count = true ∨ o.maxAttempts ≤ r.attempts
    · rw [Run.extend_of_ended _ _ (ended.imp_right Nat.sub_eq_zero_of_le)] at goal
      rw [pass_of_over ended, pure_bind, passes_of_isSome rfl, ← goal]
      exact endsAt_pure ⟨within, fun _ => rfl⟩ s
    · obtain ⟨going, left⟩ := not_or.1 ended
      have further : o.maxAttempts - r.attempts = o.maxAttempts - (r.attempts + 1) + 1 := by omega
      rw [further, Run.extend, if_neg going, Draw.run_bind] at goal
      -- the sketch of this pass is among the trials of the whole run, so that its text fits
      obtain ⟨x, trials⟩ := r.exists_trials_record ((Sketch.draw o.bound o.maxOps).run s).1
      have remain : (⟨((Sketch.draw o.bound o.maxOps).run s).1, x⟩ : Trial) ∈ r'.trials := by
        rw [← goal]
        exact (Run.trials_suffix_extend _ _ _ _ _ _).subset (trials ▸ List.mem_cons_self)
      refine (givesAt_pass word (by simpa using going) (by omega)
        fun small => fits small _ remain).endsAt ?_
      rw [Draw.run_bind]
      have counted := r.attempts_record ((Sketch.draw o.bound o.maxOps).run s).1
      have rest := ih (r := r.record ((Sketch.draw o.bound o.maxOps).run s).1) (by omega)
        (counted ▸ goal)
      rw [counted] at rest
      refine rest.mono fun p holds => ⟨holds.1, fun enough => holds.2 ?_⟩
      omega

/-- **The generator on words.**  Whatever the bound, the number of operators and the words, and
whatever the text, no range is empty, no difference is negative, no place lies outside of its list,
and no loop goes on for ever; only a text of `2 ^ 63` or more characters, or of as many bytes, can
make a sum too large.  What is drawn is what the model draws.  The loop of a generation never counts
more attempts than it is allowed, and one pass after the last attempt it is over. -/
theorem generator_without_traps (source : σ) :
    (∀ bound, (literal bound).GivesAt False (Literal.draw bound) source) ∧
    op.GivesAt False Op.draw source ∧
    (∀ t bytes, (bracket t bytes).GivesAt (2 ^ 63 ≤ t.length ∨ 2 ^ 63 ≤ bytes)
      (ArithDrill.bracket t) source) ∧
    (∀ bound maxOps, (candidate bound maxOps).GivesAt
      (2 ^ 63 ≤ ((Chain.draw bound maxOps).run source).1.render.length)
      (ArithDrill.candidate bound maxOps) source) ∧
    ∀ o : Order, o.maxAttempts < UInt64.size → ∀ n, (passes o n start).EndsAt
      (∃ t ∈ (o.run.run source).1.trials, 2 ^ 63 ≤ t.sketch.chain.render.length)
      (fun p => p.attempts ≤ o.maxAttempts ∧
        (o.maxAttempts < n → p.outcome = some ((generate o).run source).1)) source := by
  refine ⟨fun bound => givesAt_literal bound source, givesAt_op source, fun t bytes => ?_,
    fun bound maxOps => givesAt_candidate Nat.lt_of_not_le, fun o word n => ?_⟩
  · have size : UInt64.size = 2 ^ 64 := rfl
    exact givesAt_bracket (fun small => by omega) (fun small => by omega) source
  · rw [generate, Draw.run_bind]
    exact endsAt_passes (r := Run.start) word n (Nat.zero_le _) rfl
      fun small t ht => Nat.lt_of_not_le fun excess => small ⟨t, ht, excess⟩

/-- From the words of `(1 + 2) × 3`, a number below the largest bound and the parentheses of a text
of two characters are drawn without a trap, and four passes are enough for a series that is allowed
three attempts. -/
theorem four_passes_without_traps :
    let words := parenthesesWords
    let o : Order := ⟨1, 10, 2, 3⟩
    let e : Exercise := ⟨"(1 + 2) × 3 =".toList, 9, "((1+2)×3)".toList⟩
    (Draw.run (ExceptT.run (literal (2 ^ 64 - 1))) words).1 =
      .ok ((Literal.draw (2 ^ 64 - 1)).run words).1 ∧
    (Draw.run (ExceptT.run (bracket "12".toList 2)) words).1 = .ok "(12)".toList ∧
    o.maxAttempts < UInt64.size ∧
    (¬∃ t ∈ (o.run.run words).1.trials, 2 ^ 63 ≤ t.sketch.chain.render.length) ∧
    ∃ p, (Draw.run (ExceptT.run (passes o 4 start)) words).1 = .ok p ∧
      p.attempts ≤ 3 ∧ p.outcome = some (.ok [e]) := by
  intro words o e
  obtain ⟨literals, -, texts, -, loops⟩ := generator_without_traps words
  have lengths : (o.run.run words).1.trials.map (fun t => t.sketch.chain.render.length) = [9] := by
    cbv
  have small : ¬∃ t ∈ (o.run.run words).1.trials, 2 ^ 63 ≤ t.sketch.chain.render.length := by
    rintro ⟨t, ht, excess⟩
    have length := List.mem_map_of_mem (f := fun t : Trial => t.sketch.chain.render.length) ht
    rw [lengths, List.mem_singleton] at length
    omega
  have enclosed : ((ArithDrill.bracket "12".toList).run words).1 = "(12)".toList := by cbv
  have series : ((generate o).run words).1 = .ok [e] := by cbv
  obtain ⟨p, result, few, outcome⟩ := (loops o (by decide) 4).exists_ok small
  refine ⟨(literals _).eq_ok not_false, ?_, by decide, small, p, result, few, ?_⟩
  · rw [(texts "12".toList 2).eq_ok (by decide), enclosed]
  · rw [outcome (by decide), series]

end Guarded

end ArithDrill
