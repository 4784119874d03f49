import ArithDrill.Proofs.Soundness
import Mathlib.Data.List.Infix
import Mathlib.Data.List.Nodup
import Mathlib.Order.Bounds.Defs

/-!
# What a generation comes to

Candidates are drawn one after another, whatever has been kept before.  The exercises among them,
of each key the first, make up a list that grows by one exercise at most with every candidate.  A
generation gives this list as soon as it has the size asked for, and else reports a shortage when
the attempts are used up.  Neither the size nor the attempts have any influence on what is drawn.

The invariant of a run ties the series and the number of trials to the candidates drawn so far.

## Main definitions

* `candidate` — draws a sketch and tells what exercise it becomes.
* `firstOfEachKey` — the exercises of a list without the repetitions.
* `candidates`, `distinctExercises` — the first candidates on a source, and the exercises among
  them.
* `Run.Reflects` — the invariant of a run.
* `StopsAt` — after how many candidates a generation stops.

## Main statements

* `Run.Reflects.record`, `Run.exists_stopsAt` — one step and many steps of a run.
* `exists_run_generate_eq` — what a generation comes to.
* `generate_first_of_each_key` — the same, from the least number of candidates that is enough.
-/

namespace ArithDrill

/-! ## Repeated draws -/

namespace Draw

variable {α β σ : Type} [WordSource σ]

/-- The last of several draws is made where the others have left the source. -/
theorem run_replicate_succ (d : Draw α) (n : Nat) (s : σ) :
    (replicate (n + 1) d).run s =
      (((replicate n d).run s).1 ++ [(d.run ((replicate n d).run s).2).1],
        (d.run ((replicate n d).run s).2).2) := by
  induction n generalizing s with
  | zero => simp [replicate]
  | succ n ih =>
    rw [replicate, run_bind, run_bind, ih]
    simp [replicate]

end Draw

/-! ## Candidates -/

/-- Draws a sketch and tells what exercise it becomes, if any. -/
def candidate (bound maxOps : Nat) : Draw (Except EvalError (Option Exercise)) := do
  let s ← Sketch.draw bound maxOps
  return s.exercise?

/-- The exercises among some candidates. -/
def exercisesOf (cs : List (Except EvalError (Option Exercise))) : List Exercise :=
  cs.filterMap fun c => c.toOption.join

/-- The first exercise of each key. -/
def firstOfEachKey : List Exercise → List Exercise
  | [] => []
  | e :: es => e :: (firstOfEachKey es).filter fun x => x.key != e.key

section

variable {σ : Type} [WordSource σ]

/-- The first `n` candidates that are drawn from a source, and the source after them. -/
def candidates (bound maxOps n : Nat) (source : σ) :
    List (Except EvalError (Option Exercise)) × σ :=
  (Draw.replicate n (candidate bound maxOps)).run source

/-- The exercises among the first `n` candidates, of each key the first. -/
def distinctExercises (bound maxOps n : Nat) (source : σ) : List Exercise :=
  firstOfEachKey (exercisesOf (candidates bound maxOps n source).1)

end

/-- A number that is drawn below zero is drawn below one. -/
theorem Literal.draw_max (bound : Nat) : draw (max bound 1) = draw bound := by
  cases bound with
  | zero => rfl
  | succ n => rw [Nat.max_eq_left (Nat.succ_pos n)]

/-- A sketch without room for a number or an operator has room for one. -/
theorem Sketch.draw_max (bound maxOps : Nat) :
    draw (max bound 1) (max maxOps 1) = draw bound maxOps := by
  have chain : Chain.draw (max bound 1) (max maxOps 1) = Chain.draw bound maxOps := by
    rw [Chain.draw, Chain.draw, Literal.draw_max, Nat.max_assoc, Nat.max_self]
  rw [draw, draw, chain]

/-- What is drawn is a sketch to order, where there is room for a number and an operator in any
case. -/
theorem Sketch.always_drawn (bound maxOps : Nat) :
    (draw bound maxOps).Always (Drawn (max bound 1) (max maxOps 1)) := by
  rw [← draw_max]
  exact always_draw (Nat.le_max_right _ _) (Nat.le_max_right _ _)

/-- No sketch breaks a run off. -/
theorem Sketch.always_exercise? (bound maxOps : Nat) :
    (draw bound maxOps).Always fun s => ∃ x, s.exercise? = .ok x := by
  refine (always_drawn bound maxOps).mono fun s drawn => ?_
  obtain ⟨x, made, -⟩ := drawn.exists_exercise?
  exact ⟨x, made⟩

section

variable {σ : Type} [WordSource σ] (bound maxOps n : Nat) (source : σ)

theorem candidates_zero : candidates bound maxOps 0 source = ([], source) := rfl

/-- The next candidate comes from the next sketch. -/
theorem candidates_succ :
    candidates bound maxOps (n + 1) source =
      let next := (Sketch.draw bound maxOps).run (candidates bound maxOps n source).2
      ((candidates bound maxOps n source).1 ++ [next.1.exercise?], next.2) := by
  simp [candidates, Draw.run_replicate_succ, candidate]

theorem length_candidates : (candidates bound maxOps n source).1.length = n := by
  induction n with
  | zero => rfl
  | succ n ih => simp [candidates_succ, ih]

/-- No candidate is a failure. -/
theorem exists_of_mem_candidates {c : Except EvalError (Option Exercise)}
    (h : c ∈ (candidates bound maxOps n source).1) : ∃ x, c = .ok x := by
  have one : (candidate bound maxOps).Always fun c => ∃ x, c = .ok x :=
    Draw.always_bind (Sketch.always_exercise? bound maxOps) fun _ made => made
  exact (Draw.always_run (Draw.always_replicate one n) source).2 c h

end

/-! ## Exercises without repetitions -/

theorem exercisesOf_concat_ok (cs : List (Except EvalError (Option Exercise)))
    (x : Option Exercise) : exercisesOf (cs ++ [.ok x]) = exercisesOf cs ++ x.toList := by
  cases x <;> simp [exercisesOf, Except.toOption]

/-- One more exercise comes last, unless there is one with its key. -/
theorem firstOfEachKey_concat (es : List Exercise) (e : Exercise) :
    firstOfEachKey (es ++ [e]) =
      if e.key ∈ es.map Exercise.key then firstOfEachKey es else firstOfEachKey es ++ [e] := by
  induction es with
  | nil => rfl
  | cons x es ih =>
    rw [List.cons_append, firstOfEachKey, firstOfEachKey, ih, List.map_cons]
    by_cases later : e.key ∈ es.map Exercise.key
    · rw [if_pos later, if_pos (List.mem_cons_of_mem _ later)]
    · rw [if_neg later, List.filter_append]
      by_cases first : e.key = x.key
      · rw [if_pos (by simp [first])]
        simp [first]
      · rw [if_neg (by simpa [first] using later)]
        simp [first]

/-- Every key is kept. -/
theorem mem_map_key_firstOfEachKey {es : List Exercise} {k : Text} :
    k ∈ (firstOfEachKey es).map Exercise.key ↔ k ∈ es.map Exercise.key := by
  induction es using List.reverseRecOn with
  | nil => rfl
  | append_singleton es e ih =>
    rw [firstOfEachKey_concat]
    split
    · rename_i old
      rw [ih, List.map_append, List.mem_append, List.map_singleton, List.mem_singleton]
      constructor
      · exact .inl
      · rintro (there | rfl)
        · exact there
        · exact old
    · rw [List.map_append, List.map_append, List.mem_append, List.mem_append, ih]

/-- The keys of what is kept are different. -/
theorem nodup_firstOfEachKey (es : List Exercise) :
    ((firstOfEachKey es).map Exercise.key).Nodup := by
  induction es using List.reverseRecOn with
  | nil => exact List.nodup_nil
  | append_singleton es e ih =>
    rw [firstOfEachKey_concat]
    split
    · exact ih
    · rename_i fresh
      rw [List.map_append, List.map_singleton, ← List.concat_eq_append]
      exact ih.concat fun old => fresh (mem_map_key_firstOfEachKey.1 old)

/-- What is kept was there. -/
theorem firstOfEachKey_subset (es : List Exercise) : firstOfEachKey es ⊆ es := by
  induction es with
  | nil => exact List.Subset.refl _
  | cons e es ih =>
    refine List.cons_subset_cons e fun x hx => ih ?_
    exact List.mem_of_mem_filter hx

/-- What holds of every exercise that a candidate becomes holds of all that are kept. -/
theorem forall_mem_distinctExercises {P : Exercise → Prop} {bound maxOps : Nat}
    (one : (candidate bound maxOps).Always fun c => ∀ e, c = .ok (some e) → P e) (n : Nat)
    {σ : Type} [WordSource σ] (source : σ) :
    ∀ e ∈ distinctExercises bound maxOps n source, P e := by
  intro e he
  obtain ⟨c, hc, same⟩ := List.mem_filterMap.1 (firstOfEachKey_subset _ he)
  have each := (Draw.always_run (Draw.always_replicate one n) source).2 c hc
  cases c with
  | error x => simp [Except.toOption] at same
  | ok x =>
    obtain rfl : x = some e := by simpa [Except.toOption] using same
    exact each e rfl

/-! ## Runs -/

namespace Run

variable {cs : List (Except EvalError (Option Exercise))} {r : Run}

/-- The invariant of a run: what it has after some candidates. -/
structure Reflects (cs : List (Except EvalError (Option Exercise))) (r : Run) : Prop where
  /-- Nothing has broken the run off. -/
  not_broken : r.broken = none
  /-- Every candidate counts. -/
  attempts_eq : r.attempts = cs.length
  /-- The series knows the keys of its exercises. -/
  tidy : r.series.Tidy
  /-- The series has the first exercise of each key. -/
  toList_eq : r.series.toList = firstOfEachKey (exercisesOf cs)

theorem reflects_start : start.Reflects [] where
  not_broken := rfl
  attempts_eq := rfl
  tidy := Series.tidy_empty
  toList_eq := rfl

theorem Reflects.size_eq (h : r.Reflects cs) :
    r.series.size = (firstOfEachKey (exercisesOf cs)).length := by
  rw [← Series.length_toList, h.toList_eq]

/-- Adding an exercise keeps the first of each key. -/
theorem Reflects.toList_add (h : r.Reflects cs) (e : Exercise) :
    (r.series.add e).toList = firstOfEachKey (exercisesOf cs ++ [e]) := by
  have seen_iff : r.series.hasSeen e = true ↔ e.key ∈ (exercisesOf cs).map Exercise.key := by
    rw [← mem_map_key_firstOfEachKey, ← h.toList_eq, ← h.tidy.mem_seen_iff]
    rfl
  rw [Series.toList_add, firstOfEachKey_concat, h.toList_eq]
  simp only [seen_iff]

/-- One step: taking a sketch into account. -/
theorem Reflects.record (h : r.Reflects cs) {s : Sketch} {x : Option Exercise}
    (made : s.exercise? = .ok x) : (r.record s).Reflects (cs ++ [s.exercise?]) := by
  have attempts : r.trials.length = cs.length := h.attempts_eq
  unfold Run.record
  rw [made]
  cases x with
  | none =>
    refine ⟨h.not_broken, by simp [Run.attempts, attempts], h.tidy, ?_⟩
    rw [exercisesOf_concat_ok, Option.toList_none, List.append_nil, h.toList_eq]
  | some e =>
    refine ⟨h.not_broken, by simp [Run.attempts, attempts], h.tidy.add e, ?_⟩
    rw [exercisesOf_concat_ok, Option.toList_some, ← h.toList_add]

theorem Reflects.isOver_iff (h : r.Reflects cs) (count : Nat) :
    r.isOver count = true ↔ count ≤ (firstOfEachKey (exercisesOf cs)).length := by
  simp [isOver, h.not_broken, h.size_eq]

/-- What a run amounts to. -/
theorem Reflects.result_eq (h : r.Reflects cs) (count : Nat) :
    r.result count =
      if count ≤ (firstOfEachKey (exercisesOf cs)).length then .ok (firstOfEachKey (exercisesOf cs))
      else .error
        (.shortage (firstOfEachKey (exercisesOf cs)).length count cs.length) := by
  rw [result, h.not_broken, h.size_eq, h.toList_eq, h.attempts_eq]

end Run

section

variable {σ : Type} [WordSource σ]

/-- A generation of `count` exercises with at most `limit` attempts stops after `n` candidates. -/
structure StopsAt (bound maxOps count limit : Nat) (source : σ) (n : Nat) : Prop where
  /-- There are no more candidates than attempts. -/
  le : n ≤ limit
  /-- Fewer candidates are not enough. -/
  short : ∀ j < n, (distinctExercises bound maxOps j source).length < count
  /-- The candidates are enough, or the attempts are used up. -/
  ends : count ≤ (distinctExercises bound maxOps n source).length ∨ n = limit

variable {bound maxOps count limit m n : Nat} {source : σ}

/-- Many steps: a run that has drawn `m` candidates and may draw `left` more. -/
theorem Run.exists_stopsAt {r : Run} {left : Nat}
    (h : r.Reflects (candidates bound maxOps m source).1) (sum : m + left = limit)
    (short : ∀ j < m, (distinctExercises bound maxOps j source).length < count) :
    ∃ n r', StopsAt bound maxOps count limit source n ∧
      (extend count bound maxOps left r).run (candidates bound maxOps m source).2 =
        (r', (candidates bound maxOps n source).2) ∧
      r'.Reflects (candidates bound maxOps n source).1 := by
  induction left generalizing m r with
  | zero => exact ⟨m, r, ⟨by omega, short, .inr (by omega)⟩, rfl, h⟩
  | succ left ih =>
    rw [extend]
    split
    · rename_i enough
      exact ⟨m, r, ⟨by omega, short, .inl ((h.isOver_iff count).1 enough)⟩, rfl, h⟩
    · rename_i going
      have more : (distinctExercises bound maxOps m source).length < count :=
        Nat.lt_of_not_le fun enough => going ((h.isOver_iff count).2 enough)
      obtain ⟨x, made⟩ := Draw.always_run (Sketch.always_exercise? bound maxOps)
        (candidates bound maxOps m source).2
      have next := candidates_succ bound maxOps m source
      have recorded := h.record made
      have short' : ∀ j < m + 1, (distinctExercises bound maxOps j source).length < count := by
        intro j hj
        rcases Nat.lt_succ_iff_lt_or_eq.1 hj with earlier | rfl
        · exact short j earlier
        · exact more
      rw [Draw.run_bind]
      have rest := @ih (m + 1)
        (r.record ((Sketch.draw bound maxOps).run (candidates bound maxOps m source).2).1)
        (by rw [next]; exact recorded) (by omega) short'
      rw [next] at rest
      exact rest

/-- One more candidate adds one exercise at most, at the end. -/
theorem exists_distinctExercises_succ (bound maxOps n : Nat) (source : σ) :
    ∃ x : Option Exercise, distinctExercises bound maxOps (n + 1) source =
      distinctExercises bound maxOps n source ++ x.toList := by
  obtain ⟨x, made⟩ := Draw.always_run (Sketch.always_exercise? bound maxOps)
    (candidates bound maxOps n source).2
  rw [distinctExercises, candidates_succ]
  dsimp only
  rw [made, exercisesOf_concat_ok]
  cases x with
  | none => exact ⟨none, by simp [distinctExercises]⟩
  | some e =>
    rw [Option.toList_some, firstOfEachKey_concat]
    split
    · exact ⟨none, by simp [distinctExercises]⟩
    · exact ⟨some e, by simp [distinctExercises]⟩

/-- More candidates only add exercises at the end. -/
theorem distinctExercises_mono (bound maxOps : Nat) (source : σ) (le : m ≤ n) :
    distinctExercises bound maxOps m source <+: distinctExercises bound maxOps n source := by
  induction n, le using Nat.le_induction with
  | base => exact List.prefix_rfl
  | succ n _ ih =>
    obtain ⟨x, grown⟩ := exists_distinctExercises_succ bound maxOps n source
    rw [grown]
    exact ih.trans (List.prefix_append _ _)

/-- Where a generation stops there are not too many exercises. -/
theorem StopsAt.length_le (h : StopsAt bound maxOps count limit source n) :
    (distinctExercises bound maxOps n source).length ≤ count := by
  cases n with
  | zero => exact Nat.zero_le _
  | succ n =>
    have before := h.short n (Nat.lt_succ_self n)
    obtain ⟨x, grown⟩ := exists_distinctExercises_succ bound maxOps n source
    have one_more : x.toList.length ≤ 1 := by cases x <;> simp
    rw [grown, List.length_append]
    omega

/-- What a generation comes to: it stops after some candidates, with the series they make or a
shortage, and the source is left after these candidates. -/
theorem exists_run_generate_eq (o : Order) (source : σ) :
    ∃ n, StopsAt o.bound o.maxOps o.count o.maxAttempts source n ∧
      (generate o).run source =
        (if (distinctExercises o.bound o.maxOps n source).length = o.count then
          .ok (distinctExercises o.bound o.maxOps n source)
        else .error
          (.shortage (distinctExercises o.bound o.maxOps n source).length o.count n),
        (candidates o.bound o.maxOps n source).2) := by
  obtain ⟨n, r, stops, run, reflects⟩ :=
    @Run.exists_stopsAt _ _ o.bound o.maxOps o.count o.maxAttempts 0 source _ _
      Run.reflects_start (Nat.zero_add _) (by simp)
  refine ⟨n, stops, ?_⟩
  have size_le := stops.length_le
  have whole : o.run.run source = (r, (candidates o.bound o.maxOps n source).2) := run
  rw [generate, Draw.run_bind, whole]
  show (r.result o.count, _) = _
  rw [reflects.result_eq, length_candidates, ← distinctExercises]
  -- there are never too many, so that enough are as many as asked for
  by_cases complete : (distinctExercises o.bound o.maxOps n source).length = o.count
  · rw [if_pos (Nat.le_of_eq complete.symm), if_pos complete]
  · rw [if_neg (by omega), if_neg complete]

/-- A series that is generated is the exercises among the candidates up to where the generation
stops. -/
theorem exists_stopsAt_of_generate {o : Order} {es : List Exercise}
    (h : ((generate o).run source).1 = .ok es) :
    ∃ n, StopsAt o.bound o.maxOps o.count o.maxAttempts source n ∧
      distinctExercises o.bound o.maxOps n source = es ∧ es.length = o.count := by
  obtain ⟨n, stops, run⟩ := exists_run_generate_eq o source
  rw [run] at h
  dsimp only at h
  split at h
  · rename_i complete
    obtain rfl := Except.ok.inj h
    exact ⟨n, stops, rfl, complete⟩
  · simp at h

/-- A generation means this.  Candidates are drawn from the source, none of which is a failure.
If the exercises among the first candidates, of each key the first, have the size asked for within
the attempts, then the least number of candidates with which they do is drawn, and they are the
series.  Otherwise all attempts are used up, and the shortage says how many exercises there are. -/
theorem generate_first_of_each_key (o : Order) (source : σ) :
    (∀ m, ∀ c ∈ (candidates o.bound o.maxOps m source).1, ∃ x, c = .ok x) ∧
    (∀ m, IsLeast {m | m ≤ o.maxAttempts ∧
        (distinctExercises o.bound o.maxOps m source).length = o.count} m →
      (generate o).run source =
        (.ok (distinctExercises o.bound o.maxOps m source),
          (candidates o.bound o.maxOps m source).2)) ∧
    (o.count = 0 → (generate o).run source = (.ok [], source)) ∧
    ((∀ m ≤ o.maxAttempts, (distinctExercises o.bound o.maxOps m source).length ≠ o.count) →
      (distinctExercises o.bound o.maxOps o.maxAttempts source).length < o.count ∧
      (generate o).run source =
        (.error (.shortage (distinctExercises o.bound o.maxOps o.maxAttempts source).length
            o.count o.maxAttempts),
          (candidates o.bound o.maxOps o.maxAttempts source).2)) := by
  obtain ⟨n, stops, run⟩ := exists_run_generate_eq o source
  have size_le := stops.length_le
  refine ⟨fun m c => exists_of_mem_candidates _ _ m source, ?_, ?_, ?_⟩
  · rintro m ⟨⟨within, complete⟩, least⟩
    have not_later : ¬ m < n := fun later => Nat.ne_of_lt (stops.short m later) complete
    have enough : (distinctExercises o.bound o.maxOps n source).length = o.count := by
      rcases stops.ends with enough | used_up
      · omega
      · have same : n = m := by omega
        rw [same, complete]
    obtain rfl : m = n := Nat.le_antisymm (least ⟨stops.le, enough⟩) (Nat.le_of_not_lt not_later)
    rw [run, if_pos complete]
  · intro none_asked
    have at_once : n = 0 := by
      by_contra later
      have short := stops.short 0 (Nat.pos_of_ne_zero later)
      omega
    rw [run, at_once, none_asked]
    rfl
  · intro never
    have differs := never n stops.le
    have used_up : n = o.maxAttempts := by
      rcases stops.ends with enough | used_up
      · omega
      · exact used_up
    rw [used_up] at run size_le differs
    exact ⟨by omega, by rw [run, if_neg differs]⟩

end

/-- From the words of `(1 + 2) × 3`, one candidate is enough for one exercise.  From zeros comes
`0 + 0` over and over, and no number of candidates is enough for two. -/
theorem one_enough_two_short :
    let e : Exercise := ⟨"(1 + 2) × 3 =".toList, 9, "((1+2)×3)".toList⟩
    let zeros := CyclicWords.ofList []
    IsLeast {m | m ≤ 3 ∧ (distinctExercises 10 2 m parenthesesWords).length = 1} 1 ∧
    ((generate ⟨1, 10, 2, 3⟩).run parenthesesWords).1 = .ok [e] ∧
    (∀ m ≤ 2, (distinctExercises 1 1 m zeros).length ≠ 2) ∧
    ((generate ⟨2, 1, 1, 2⟩).run zeros).1 = .error (.shortage 1 2 2) := by
  intro e zeros
  have first : distinctExercises 10 2 1 parenthesesWords = [e] := by cbv
  have least :
      IsLeast {m | m ≤ 3 ∧ (distinctExercises 10 2 m parenthesesWords).length = 1} 1 := by
    refine ⟨⟨by decide, congrArg List.length first⟩, ?_⟩
    rintro m ⟨-, complete⟩
    cases m with
    | zero => simp [distinctExercises, candidates_zero, exercisesOf, firstOfEachKey] at complete
    | succ m => exact Nat.succ_pos m
  have second : (distinctExercises 1 1 2 zeros).length = 1 := by cbv
  have never : ∀ m ≤ 2, (distinctExercises 1 1 m zeros).length ≠ 2 := by
    intro m le
    have shorter := (distinctExercises_mono 1 1 zeros le).length_le
    omega
  obtain ⟨-, enough, -, -⟩ := generate_first_of_each_key ⟨1, 10, 2, 3⟩ parenthesesWords
  obtain ⟨-, -, -, short⟩ := generate_first_of_each_key ⟨2, 1, 1, 2⟩ zeros
  refine ⟨least, ?_, never, ?_⟩
  · rw [enough 1 least, ← first]
  · rw [(short never).2, second]

end ArithDrill
