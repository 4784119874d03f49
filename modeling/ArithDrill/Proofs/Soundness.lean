import ArithDrill.Exercise.Generation
import ArithDrill.Proofs.Chains
import Mathlib

/-!
# Every series is sound

A run keeps the first exercise of each key until it has as many as asked for.  One step of a run,
which takes a drawn sketch into account, keeps the series without repetitions and every exercise
in it right; by induction on the sketches that are left, so does the whole run.  This holds on any
source of words.

## Main definitions

* `Exercise.Sound` — an exercise that is right and to order.
* `Series.Tidy` — a series without repetitions, which knows the keys of its exercises.
* `Run.Sound` — the invariant of a run.

## Main statements

* `Sketch.Drawn.exists_exercise?` — a sketch is abandoned or becomes a sound exercise.
* `Run.Sound.record`, `Run.Sound.extend` — one step and many steps of a run.
* `generate_ne_broken`, `sound_of_generate` — what comes of an order.
* `generate_sound` — every series that is generated is sound.
-/

namespace ArithDrill

/-! ## Exercises -/

/-- An exercise that is right and to order. -/
structure Exercise.Sound (bound maxOps : Nat) (e : Exercise) : Prop where
  /-- The line can stand in a file. -/
  isItem : e.text.IsItem
  /-- The answer is the value of the line. -/
  evaluate_text : evaluate e.text = .ok (some e.value)
  /-- The key is the key of the line. -/
  key_text : Expr.key e.text = .ok e.key
  /-- The answer is not negative. -/
  nonneg : 0 ≤ e.value
  /-- The answer is positive if there is a division in the line. -/
  pos_of_divides : '÷' ∈ e.text → 0 < e.value
  /-- There is an operator in the line. -/
  one_le_operators : 1 ≤ ((Token.scan e.text).filterMap Token.operator?).length
  /-- There are no more operators than allowed. -/
  operators_le : ((Token.scan e.text).filterMap Token.operator?).length ≤ maxOps
  /-- The numbers are below the bound. -/
  numbers : ∀ t, .number t ∈ Token.scan e.text →
    ∃ l, Literal.read t = .ok l ∧ 0 ≤ l.value ∧ l.value < bound

/-- An expression with a value makes an exercise: the equals sign adds no token. -/
theorem Exercise.exists_ofExpression {t : Text} {v : Rat} (h : evaluate t = .ok (some v)) :
    ∃ e, ofExpression t v = .ok e ∧ e.text = t ++ " =".toList ∧ e.value = v ∧
      Expr.key e.text = .ok e.key := by
  obtain ⟨tree, read, -⟩ := evaluateTokens_eq_some_iff.1 h
  have key : Expr.key (t ++ " =".toList) = .ok tree.canonical.render := by
    rw [Expr.key, Expr.ofText, Token.scan_append_equals, read]
    rfl
  refine ⟨⟨t ++ " =".toList, v, tree.canonical.render⟩, ?_, rfl, rfl, key⟩
  rw [ofExpression, key]
  rfl

namespace Sketch

variable {bound maxOps : Nat} {s : Sketch}

/-- The text that is used is one of the chain, and has the value given with it. -/
theorem Drawn.exists_form? (h : s.Drawn bound maxOps) :
    ∃ r, s.form? = .ok r ∧
      ∀ t v, r = some (t, v) → s.chain.Writes t ∧ evaluate t = .ok (some v) := by
  refine ⟨_, form?_eq (Chain.value?_eq h.within.one_le_length), ?_⟩
  intro t v used
  obtain ⟨u, value, used⟩ := Option.map_eq_some_iff.1 used
  have plain := Chain.evaluate_render h.within.one_le_length
    ((Chain.value?_eq h.within.one_le_length).trans (congrArg _ value))
  cases other : s.bracketed.bind fun t => (valueOf? t).map fun w => (t, w) with
  | none =>
    rw [other] at used
    obtain ⟨rfl, rfl⟩ := Prod.mk.inj used
    exact ⟨.plain, plain⟩
  | some p =>
    rw [other] at used
    obtain ⟨x, drawn, tried⟩ := Option.bind_eq_some_iff.1 other
    obtain ⟨w, own, rfl⟩ := Option.map_eq_some_iff.1 tried
    obtain ⟨rfl, rfl⟩ := Prod.mk.inj used
    exact ⟨h.writes x drawn, valueOf?_eq_some_iff.1 own⟩

/-- A text of a chain with a value that is not refused makes a sound exercise. -/
theorem Drawn.sound (h : s.Drawn bound maxOps) {t : Text} {v : Rat} (writes : s.chain.Writes t)
    (value : evaluate t = .ok (some v)) (kept : ¬ s.refuses v) {e : Exercise}
    (text : e.text = t ++ " =".toList) (answer : e.value = v)
    (key : Expr.key e.text = .ok e.key) : e.Sound bound maxOps := by
  have same_tokens : Token.scan e.text = Token.scan t := by
    rw [text, Token.scan_append_equals]
  have nonneg : 0 ≤ v := evaluate_nonneg value
  have length : ((Token.scan e.text).filterMap Token.operator?).length = s.chain.rest.length := by
    rw [same_tokens, writes.filterMap_operator?_scan, List.length_map]
  constructor
  · rw [text]
    exact writes.isItem
  · rw [evaluate, same_tokens, answer]
    exact value
  · exact key
  · rw [answer]
    exact nonneg
  · intro sign
    have divides : s.chain.divides = true := by
      rw [text, List.mem_append] at sign
      rcases sign with expression | equals
      · exact Chain.div_mem_render_iff.1 ((writes.mem_iff (by decide) (by decide)).1 expression)
      · exact absurd equals (by decide)
    have not_zero : v ≠ 0 := by
      intro zero
      exact kept (by simp [refuses, zero, divides])
    rw [answer]
    exact Rat.lt_of_le_of_ne nonneg not_zero.symm
  · rw [length]
    exact h.within.one_le_length
  · rw [length]
    exact h.within.length_le
  · intro x hx
    rw [same_tokens] at hx
    obtain ⟨l, hl, rfl⟩ := writes.exists_of_number_mem_scan hx
    have below := h.within.within l hl
    exact ⟨l, Literal.read_render below.denominator_ne_zero, l.value_nonneg, below.value_lt⟩

/-- A sketch without a value is abandoned. -/
theorem exercise?_of_form?_none (form : s.form? = .ok none) : s.exercise? = .ok none := by
  rw [exercise?, form]
  rfl

/-- A sketch with a value becomes an exercise, unless its answer is refused. -/
theorem exercise?_of_form?_some {t : Text} {v : Rat} {e : Exercise}
    (form : s.form? = .ok (some (t, v))) (made : Exercise.ofExpression t v = .ok e) :
    s.exercise? = .ok (if s.refuses v then none else some e) := by
  rw [exercise?, form]
  by_cases refused : s.refuses v = true <;>
    simp [bind, Except.bind, refused, made, pure, Except.pure]

/-- A sketch is abandoned or becomes a sound exercise; it never breaks a run off. -/
theorem Drawn.exists_exercise? (h : s.Drawn bound maxOps) :
    ∃ r, s.exercise? = .ok r ∧ ∀ e ∈ r, e.Sound bound maxOps := by
  obtain ⟨r, form, used⟩ := h.exists_form?
  cases r with
  | none => exact ⟨none, exercise?_of_form?_none form, by simp⟩
  | some p =>
    obtain ⟨t, v⟩ := p
    obtain ⟨writes, value⟩ := used t v rfl
    obtain ⟨e, made, text, answer, key⟩ := Exercise.exists_ofExpression value
    refine ⟨_, exercise?_of_form?_some form made, ?_⟩
    intro x hx
    by_cases refused : s.refuses v = true
    · simp [refused] at hx
    · obtain rfl : e = x := by simpa [refused] using hx
      exact h.sound writes value refused text answer key

end Sketch

/-! ## Series -/

namespace Series

/-- A series without repetitions, which knows the keys of its exercises. -/
structure Tidy (s : Series) : Prop where
  /-- The keys are different. -/
  nodup : (s.toList.map Exercise.key).Nodup
  /-- The keys seen are those of the exercises. -/
  mem_seen_iff : ∀ k, k ∈ s.seen ↔ k ∈ s.toList.map Exercise.key

theorem tidy_empty : empty.Tidy where
  nodup := List.nodup_nil
  mem_seen_iff := by simp [empty, toList]

/-- Adding keeps a series tidy. -/
theorem Tidy.add {s : Series} (h : s.Tidy) (e : Exercise) : (s.add e).Tidy := by
  by_cases seen : s.hasSeen e = true
  · have same : s.add e = s := by rw [Series.add, if_pos seen]
    rw [same]
    exact h
  · have list : (s.add e).toList = s.toList ++ [e] := by rw [toList_add, if_neg seen]
    have fresh : e.key ∉ s.toList.map Exercise.key := by
      intro old
      exact seen ((h.mem_seen_iff e.key).2 old)
    constructor
    · rw [list, List.map_append, List.nodup_append]
      refine ⟨h.nodup, by simp, ?_⟩
      intro a ha b hb same
      obtain rfl : b = e.key := by simpa using hb
      exact fresh (same ▸ ha)
    · intro k
      rw [list, Series.add, if_neg seen, Std.HashSet.mem_insert, h.mem_seen_iff, beq_iff_eq,
        List.map_append, List.map_singleton, List.mem_append, List.mem_singleton, @eq_comm _ k,
        or_comm]

/-- What is in a series after adding was there or is new. -/
theorem mem_toList_add {s : Series} {e x : Exercise} (h : x ∈ (s.add e).toList) :
    x ∈ s.toList ∨ x = e := by
  rw [toList_add] at h
  split at h
  · exact .inl h
  · simpa using h

/-- Adding makes a series longer by one exercise at most. -/
theorem size_add_le (s : Series) (e : Exercise) : (s.add e).size ≤ s.size + 1 := by
  rw [← length_toList, ← length_toList, toList_add]
  split <;> simp

end Series

/-! ## Runs -/

namespace Run

/-- The invariant of a run to order. -/
structure Sound (o : Order) (r : Run) : Prop where
  /-- Nothing has broken the run off. -/
  not_broken : r.broken = none
  /-- The series has no repetitions. -/
  tidy : r.series.Tidy
  /-- The series is not too long. -/
  size_le : r.series.size ≤ o.count
  /-- The exercises are right and to order. -/
  sound : ∀ e ∈ r.series.toList, e.Sound o.bound o.maxOps

variable {o : Order} {r : Run}

theorem sound_start (o : Order) : start.Sound o where
  not_broken := rfl
  tidy := Series.tidy_empty
  size_le := Nat.zero_le _
  sound := by simp [start]

/-- One step: taking a drawn sketch into account keeps a run sound. -/
theorem Sound.record (h : r.Sound o) (more : r.series.size < o.count) {s : Sketch}
    (drawn : s.Drawn o.bound o.maxOps) : (r.record s).Sound o := by
  obtain ⟨result, made, right⟩ := drawn.exists_exercise?
  unfold Run.record
  rw [made]
  cases result with
  | none => exact ⟨h.not_broken, h.tidy, h.size_le, h.sound⟩
  | some e =>
    refine ⟨h.not_broken, h.tidy.add e, ?_, ?_⟩
    · have grown := r.series.size_add_le e
      show (r.series.add e).size ≤ o.count
      omega
    · intro x hx
      rcases Series.mem_toList_add hx with old | rfl
      · exact h.sound x old
      · exact right x rfl

/-- Many steps: drawing on keeps a run sound. -/
theorem Sound.extend (some_bound : 1 ≤ o.bound) (some_op : 1 ≤ o.maxOps) (h : r.Sound o)
    (left : Nat) : (extend o.count o.bound o.maxOps left r).Always (Sound o) := by
  induction left generalizing r with
  | zero => exact h
  | succ left ih =>
    unfold Run.extend
    split
    · exact h
    · rename_i going
      have more : r.series.size < o.count := by
        simpa [isOver, h.not_broken] using going
      refine Draw.always_bind (Sketch.always_draw some_bound some_op) fun s drawn => ?_
      exact ih (h.record more drawn)

/-- A sound run amounts to a series of the size asked for, or to a shortage. -/
theorem Sound.result_eq (h : r.Sound o) :
    r.result o.count =
      if r.series.size = o.count then .ok r.series.toList
      else .error (.shortage r.series.size o.count r.attempts) := by
  have size_le := h.size_le
  rw [result, h.not_broken]
  by_cases complete : r.series.size = o.count
  · simp [complete]
  · have short : ¬ o.count ≤ r.series.size := by omega
    simp [complete, short]

end Run

/-- A sound run is what every order with room for a number and an operator draws. -/
theorem Order.always_run {o : Order} (some_bound : 1 ≤ o.bound) (some_op : 1 ≤ o.maxOps) :
    o.run.Always (Run.Sound o) :=
  (Run.sound_start o).extend some_bound some_op o.maxAttempts

/-- What is generated is what the run amounts to. -/
theorem run_generate {σ : Type} [WordSource σ] (o : Order) (s : σ) :
    ((generate o).run s).1 = (o.run.run s).1.result o.count := by
  simp [generate]

/-- Nothing breaks a generation off. -/
theorem generate_ne_broken {σ : Type} [WordSource σ] {o : Order} (some_bound : 1 ≤ o.bound)
    (some_op : 1 ≤ o.maxOps) (s : σ) (x : EvalError) :
    ((generate o).run s).1 ≠ .error (.broken x) := by
  have sound := Draw.always_run (Order.always_run some_bound some_op) s
  rw [run_generate, sound.result_eq]
  split <;> simp

/-- A series that is generated has the size asked for, different keys and sound exercises. -/
theorem sound_of_generate {σ : Type} [WordSource σ] {o : Order} (some_bound : 1 ≤ o.bound)
    (some_op : 1 ≤ o.maxOps) {s : σ} {es : List Exercise}
    (h : ((generate o).run s).1 = .ok es) :
    es.length = o.count ∧ (es.map Exercise.key).Nodup ∧ ∀ e ∈ es, e.Sound o.bound o.maxOps := by
  have sound := Draw.always_run (Order.always_run some_bound some_op) s
  rw [run_generate, sound.result_eq] at h
  split at h
  · rename_i complete
    obtain rfl := Except.ok.inj h
    exact ⟨complete, sound.tidy.nodup, sound.sound⟩
  · simp at h

/-- Every series that is generated is sound, whatever the source of words: nothing breaks the
generation off, and if it succeeds, the series has the number of exercises asked for, with
different keys, and each of them is right and to order. -/
theorem generate_sound {σ : Type} [WordSource σ] (o : Order) (some_bound : 1 ≤ o.bound)
    (some_op : 1 ≤ o.maxOps) (s : σ) :
    (∀ x, ((generate o).run s).1 ≠ .error (.broken x)) ∧
    ∀ es, ((generate o).run s).1 = .ok es →
      es.length = o.count ∧ (es.map Exercise.key).Nodup ∧
        ∀ e ∈ es, e.Sound o.bound o.maxOps :=
  ⟨generate_ne_broken some_bound some_op s, fun _ => sound_of_generate some_bound some_op⟩

/-- Words from which `(1 + 2) × 3` is drawn. -/
def parenthesesWords : CyclicWords :=
  .ofList [0x80000000, 0, 0, 0, 0x26666666, 0, 0, 0, 0x40000000, 0, 0, 0, 0x59999999, 0, 0xA0000000,
    0, 0, 0, 0x70000000]

/-- The exercise drawn from these words is sound. -/
theorem sound_parentheses :
    let o : Order := ⟨1, 10, 2, 1⟩
    let e : Exercise := ⟨"(1 + 2) × 3 =".toList, 9, "((1+2)×3)".toList⟩
    1 ≤ o.bound ∧ 1 ≤ o.maxOps ∧ ((generate o).run parenthesesWords).1 = .ok [e] ∧
      [e].length = o.count ∧ e.Sound o.bound o.maxOps := by
  intro o e
  have some_bound : 1 ≤ o.bound := by decide
  have some_op : 1 ≤ o.maxOps := by decide
  have run : ((generate o).run parenthesesWords).1 = .ok [e] := by cbv
  obtain ⟨length, -, sound⟩ := (generate_sound o some_bound some_op parenthesesWords).2 [e] run
  exact ⟨some_bound, some_op, run, length, sound e (by simp)⟩

end ArithDrill
