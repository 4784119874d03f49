import ArithDrill.Proofs.Candidates
import ArithDrill.Proofs.Rearrangement

/-!
# Rearranging keeps values

The canonical form of a tree evaluates its operands in another order than the tree, and so may meet
another failure first.  It has a value exactly if the tree has one, and the same one, for `+` and
`×` never fail and do not depend on the order of their operands, whatever their signs are.

A key is the text of a canonical form and is read as this form.  So lines with the same key have
the same value, which is the value of the key itself, and an exercise that a generation leaves out
as a repetition has the answer of the one that is kept.

## Main definitions

* `Expr.evalWith` — the value of a tree whose literals stand for any rationals.
* `Exercise.Right` — an exercise with the value and the key of its line.
* `Run.Represented` — the invariant of a run: repetitions have the answers of what is kept.

## Main statements

* `Expr.Rearranged.evalWith_eq_ok_iff` — rearrangements have the same value.
* `evaluate_eq_some_iff_of_key` — a line has the value of its key.
* `Run.Represented.record`, `Run.Represented.extend` — one step and many steps of a run.
* `canonical_keeps_values` — the same for trees, for lines and for what a generation leaves out.
-/

namespace ArithDrill

/-- The operands of `+` and `×` may be swapped, whatever they are. -/
theorem Op.apply_comm {o : Op} (commutes : o.isCommutative = true) (x y : Rat) :
    o.apply x y = o.apply y x := by
  cases o with
  | add => rw [apply, apply, Rat.add_comm]
  | mul => rw [apply, apply, Rat.mul_comm]
  | sub => cases commutes
  | div => cases commutes

/-! ## Trees -/

namespace Expr

/-- The value of a tree when its literals stand for any rationals, negative ones too. -/
def evalWith (number : Literal → Rat) : Expr → Except EvalError Rat
  | leaf l => .ok (number l)
  | node o a b => do
    let x ← a.evalWith number
    let y ← b.evalWith number
    o.apply x y

/-- When each literal stands for its own value, the value of a tree is the usual one. -/
theorem evalWith_value (e : Expr) : e.evalWith Literal.value = e.eval := by
  induction e with
  | leaf l => rfl
  | node o a b iha ihb => rw [evalWith, eval, iha, ihb]

variable {number : Literal → Rat} {o : Op} {a b e e₁ e₂ : Expr} {v : Rat}

/-- A tree has a value exactly if its operands have values that the operator takes to one. -/
theorem evalWith_node_eq_ok_iff :
    (node o a b).evalWith number = .ok v ↔
      ∃ x y, a.evalWith number = .ok x ∧ b.evalWith number = .ok y ∧ o.apply x y = .ok v := by
  rw [evalWith]
  cases ha : a.evalWith number with
  | error x => simp [bind, Except.bind]
  | ok x => cases hb : b.evalWith number <;> simp [bind, Except.bind]

/-- Rearrangements have the same value.  The induction is on the rules of rearranging; a failure
may change with the order of evaluation, so that only values are compared. -/
theorem Rearranged.evalWith_eq_ok_iff (h : Rearranged e₁ e₂) :
    e₁.evalWith number = .ok v ↔ e₂.evalWith number = .ok v := by
  induction h generalizing v with
  | refl e => exact Iff.rfl
  | symm _ ih => exact ih.symm
  | trans _ _ ih ih' => exact ih.trans ih'
  | node o _ _ ihLeft ihRight => simp only [evalWith_node_eq_ok_iff, ihLeft, ihRight]
  | swap commutes a b =>
    rw [evalWith_node_eq_ok_iff, evalWith_node_eq_ok_iff]
    constructor
    · rintro ⟨x, y, hx, hy, hv⟩
      exact ⟨y, x, hy, hx, Op.apply_comm commutes x y ▸ hv⟩
    · rintro ⟨y, x, hy, hx, hv⟩
      exact ⟨x, y, hx, hy, Op.apply_comm commutes x y ▸ hv⟩

/-- The canonical form has the value of the tree, whichever order the literals bring about. -/
theorem evalWith_canonicalWith_eq_ok_iff {write : Literal → Text} :
    (e.canonicalWith write).1.evalWith number = .ok v ↔ e.evalWith number = .ok v :=
  (rearranged_canonicalWith write e).evalWith_eq_ok_iff.symm

theorem eval_canonical_eq_ok_iff : e.canonical.eval = .ok v ↔ e.eval = .ok v := by
  rw [← evalWith_value, ← evalWith_value]
  exact evalWith_canonicalWith_eq_ok_iff

/-- The canonical form fails exactly if the tree does. -/
theorem exists_eval_canonical_eq_error_iff :
    (∃ x, e.canonical.eval = .error x) ↔ ∃ x, e.eval = .error x := by
  have values (v : Rat) := @eval_canonical_eq_ok_iff e v
  cases he : e.eval <;> cases hc : e.canonical.eval <;> simp_all

/-- The failures may differ: `(1÷0)+(1-2)` divides by zero, and its canonical form `(1-2)+(1÷0)`
subtracts first. -/
example :
    let e := node .add (node .div (leaf (.whole 1)) (leaf (.whole 0)))
      (node .sub (leaf (.whole 1)) (leaf (.whole 2)))
    e.eval = .error .divisionByZero ∧ e.canonical.eval = .error .negativeResult := by
  decide

end Expr

/-! ## Lines -/

/-- A line has the value of its key. -/
theorem evaluate_eq_some_iff_of_key {t k : Text} (h : Expr.key t = .ok k) {v : Rat} :
    evaluate t = .ok (some v) ↔ evaluate k = .ok (some v) := by
  cases tree : Expr.ofText t with
  | error x => simp [Expr.key, tree, Except.map] at h
  | ok e =>
    obtain rfl : e.canonical.render = k := by simpa [Expr.key, tree, Except.map] using h
    have readable := Expr.readable_canonical (Expr.readable_of_ofTokens tree)
    have key_tree : Expr.ofText e.canonical.render = .ok e.canonical := Expr.ofText_render readable
    rw [Expr.ofText] at tree key_tree
    rw [evaluate, evaluate, evaluateTokens_eq_some_iff, evaluateTokens_eq_some_iff, tree, key_tree]
    simp [Expr.eval_canonical_eq_ok_iff]

/-- An exercise with the value and the key of its line. -/
structure Exercise.Right (e : Exercise) : Prop where
  /-- The answer is the value of the line. -/
  evaluate_text : evaluate e.text = .ok (some e.value)
  /-- The key is the key of the line. -/
  key_text : Expr.key e.text = .ok e.key

/-- Exercises with the same key have the same answer. -/
theorem Exercise.Right.value_eq {e x : Exercise} (he : e.Right) (hx : x.Right)
    (same : x.key = e.key) : x.value = e.value := by
  have key := hx.key_text
  rw [same] at key
  have own := (evaluate_eq_some_iff_of_key key).1 hx.evaluate_text
  have other := (evaluate_eq_some_iff_of_key he.key_text).1 he.evaluate_text
  exact Option.some.inj (Except.ok.inj (own.symm.trans other))

/-! ## Runs -/

namespace Run

variable {r : Run}

/-- The invariant of a run: what it keeps is right, and every repetition has the key and the answer
of an exercise that is kept. -/
structure Represented (r : Run) : Prop where
  /-- The series knows the keys of its exercises. -/
  tidy : r.series.Tidy
  /-- The exercises kept are right. -/
  right : ∀ e ∈ r.series.toList, e.Right
  /-- Repetitions have the answers of what is kept. -/
  repeated : ∀ t ∈ r.trials, ∀ e, t.outcome = .repeated e →
    ∃ x ∈ r.series.toList, x.key = e.key ∧ x.value = e.value

theorem represented_start : start.Represented where
  tidy := Series.tidy_empty
  right := by simp [start]
  repeated := by simp [start]

/-- One step: a sketch that is abandoned, repeats an exercise or becomes a new one. -/
theorem Represented.record (h : r.Represented) {s : Sketch} {x : Option Exercise}
    (made : s.exercise? = .ok x) (right : ∀ e ∈ x, e.Right) : (r.record s).Represented := by
  unfold Run.record
  rw [made]
  cases x with
  | none =>
    refine ⟨h.tidy, h.right, fun t ht e outcome => ?_⟩
    rcases List.mem_cons.1 ht with rfl | earlier
    · cases outcome
    · exact h.repeated t earlier e outcome
  | some e =>
    have own : e.Right := right e rfl
    by_cases seen : r.series.hasSeen e = true
    · have list : (r.series.add e).toList = r.series.toList := by
        rw [Series.toList_add, if_pos seen]
      refine ⟨h.tidy.add e, fun y hy => h.right y (list ▸ hy), fun t ht y outcome => ?_⟩
      rcases List.mem_cons.1 ht with rfl | earlier
      · obtain rfl : e = y := by simpa [seen] using outcome
        obtain ⟨z, hz, same⟩ := List.mem_map.1 ((h.tidy.mem_seen_iff e.key).1 seen)
        exact ⟨z, list ▸ hz, same, own.value_eq (h.right z hz) same⟩
      · obtain ⟨z, hz, same⟩ := h.repeated t earlier y outcome
        exact ⟨z, list ▸ hz, same⟩
    · have list : (r.series.add e).toList = r.series.toList ++ [e] := by
        rw [Series.toList_add, if_neg seen]
      refine ⟨h.tidy.add e, fun y hy => ?_, fun t ht y outcome => ?_⟩
      · rcases Series.mem_toList_add hy with old | rfl
        · exact h.right y old
        · exact own
      · rcases List.mem_cons.1 ht with rfl | earlier
        · simp [seen] at outcome
        · obtain ⟨z, hz, same⟩ := h.repeated t earlier y outcome
          exact ⟨z, list ▸ List.mem_append_left _ hz, same⟩

/-- Many steps: drawing on keeps the invariant. -/
theorem Represented.extend (h : r.Represented) (count bound maxOps left : Nat) :
    (extend count bound maxOps left r).Always Represented := by
  induction left generalizing r with
  | zero => exact h
  | succ left ih =>
    rw [Run.extend]
    split
    · exact h
    · refine Draw.always_bind (Sketch.always_drawn bound maxOps) fun s drawn => ?_
      obtain ⟨x, made, sound⟩ := drawn.exists_exercise?
      have right : ∀ e ∈ x, e.Right := fun e he =>
        ⟨(sound e he).evaluate_text, (sound e he).key_text⟩
      exact ih (h.record made right)

end Run

/-- Canonical forms and keys keep values.  The canonical form of a tree has a value exactly if the
tree has, and the same one, even if the literals stood for other rationals and were written in
another way, as negative ones would be; so the one fails exactly if the other does.  Lines with the
same key have the same values, and so has the key itself.  What a generation leaves out as a
repetition has the answer of an exercise that it keeps. -/
theorem canonical_keeps_values {σ : Type} [WordSource σ] (source : σ) :
    (∀ (e : Expr) (v : Rat), e.canonical.eval = .ok v ↔ e.eval = .ok v) ∧
    (∀ (write : Literal → Text) (number : Literal → Rat) (e : Expr) (v : Rat),
      (e.canonicalWith write).1.evalWith number = .ok v ↔ e.evalWith number = .ok v) ∧
    (∀ e : Expr, (∃ x, e.canonical.eval = .error x) ↔ ∃ x, e.eval = .error x) ∧
    (∀ t₁ t₂ k : Text, Expr.key t₁ = .ok k → Expr.key t₂ = .ok k → ∀ v,
      (evaluate t₁ = .ok (some v) ↔ evaluate t₂ = .ok (some v)) ∧
      (evaluate t₂ = .ok (some v) ↔ evaluate k = .ok (some v))) ∧
    ∀ o : Order, ∀ t ∈ (o.run.run source).1.trials, ∀ e, t.outcome = .repeated e →
      ∃ x ∈ (o.run.run source).1.series.toList, x.key = e.key ∧ x.value = e.value := by
  refine ⟨fun e v => Expr.eval_canonical_eq_ok_iff,
    fun write number e v => Expr.evalWith_canonicalWith_eq_ok_iff,
    fun e => Expr.exists_eval_canonical_eq_error_iff, fun t₁ t₂ k key₁ key₂ v => ?_, fun o => ?_⟩
  · have second := @evaluate_eq_some_iff_of_key t₂ k key₂ v
    exact ⟨(evaluate_eq_some_iff_of_key key₁).trans second.symm, second⟩
  · have run := Run.represented_start.extend o.count o.bound o.maxOps o.maxAttempts
    exact (Draw.always_run run source).repeated

/-- `1 + 2 × 3` and `3 × 2 + 1` have the key `((2×3)+1)`, and all three have the value seven.  From
zeros `0 + 0` is drawn twice, and the second one has the answer of the first. -/
theorem same_value_product :
    let t₁ := "1 + 2 × 3 =".toList
    let t₂ := "3 × 2 + 1 =".toList
    let k := "((2×3)+1)".toList
    let zeros := CyclicWords.ofList []
    let o : Order := ⟨2, 1, 1, 2⟩
    let e : Exercise := ⟨"0 + 0 =".toList, 0, "(0+0)".toList⟩
    Expr.key t₁ = .ok k ∧ Expr.key t₂ = .ok k ∧ evaluate t₁ = .ok (some 7) ∧
    evaluate t₂ = .ok (some 7) ∧ evaluate k = .ok (some 7) ∧
    (∃ t ∈ (o.run.run zeros).1.trials, t.outcome = .repeated e) ∧
    ∃ x ∈ (o.run.run zeros).1.series.toList, x.key = e.key ∧ x.value = e.value := by
  intro t₁ t₂ k zeros o e
  have key₁ : Expr.key "1 + 2 × 3 =".toList = .ok "((2×3)+1)".toList := by cbv
  have key₂ : Expr.key "3 × 2 + 1 =".toList = .ok "((2×3)+1)".toList := by cbv
  have seven : evaluate "1 + 2 × 3 =".toList = .ok (some 7) := by cbv
  have outcomes : (o.run.run zeros).1.trials.map Trial.outcome = [.repeated e, .kept 1 e] := by cbv
  have twice : .repeated e ∈ (o.run.run zeros).1.trials.map Trial.outcome := by
    rw [outcomes]
    exact List.mem_cons_self
  obtain ⟨t, ht, outcome⟩ := List.mem_map.1 twice
  obtain ⟨-, -, -, lines, kept⟩ := canonical_keeps_values zeros
  have other := (lines t₁ t₂ k key₁ key₂ 7).1.1 seven
  exact ⟨key₁, key₂, seven, other, (lines t₁ t₂ k key₁ key₂ 7).2.1 other, ⟨t, ht, outcome⟩,
    kept o t ht e outcome⟩

end ArithDrill
