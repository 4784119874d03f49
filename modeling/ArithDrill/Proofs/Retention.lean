import ArithDrill.Proofs.Candidates
import ArithDrill.Proofs.Insertion
import ArithDrill.Proofs.Precedence

/-!
# What becomes of a candidate

A candidate is rejected in two cases only: a beginning of its chain has no value under the
precedences of the operators and the rules of the exercises, or its answer is zero although it
divides.  Otherwise it keeps the text with parentheses, if one was drawn and has a value, and else
the chain.  The tree of either text has the numbers and the operators of the chain in their order.

## Main definitions

* `Sketch.Planned` — what is known of a sketch that has been drawn, parentheses included.
* `Sketch.Retains` — the form of a sketch that is used, with its value.
* `Sketch.Becomes` — what an exercise has to do with the sketch that it comes from.

## Main statements

* `Sketch.always_planned` — every sketch that is drawn.
* `Sketch.Planned.form?_cases` — a sketch is without a value or retains a form.
* `candidate_rejects_and_retains` — which candidates are rejected, and what the others become.
-/

namespace ArithDrill

open Token

/-- The value of a text is that of its tree. -/
theorem valueOf?_eq_some_iff_tree {t : Text} {v : Rat} :
    valueOf? t = some v ↔ ∃ e, Expr.ofText t = .ok e ∧ e.eval = .ok v :=
  valueOf?_eq_some_iff.trans evaluateTokens_eq_some_iff

namespace Chain

variable {c : Chain}

/-- The beginnings of a chain are the chains up to one of its operators. -/
theorem mem_beginnings_iff {b : Chain} :
    b ∈ c.beginnings ↔ ∃ i, 1 ≤ i ∧ i ≤ c.rest.length ∧ b = c.take i := by
  simp only [beginnings, List.mem_map, List.mem_range'_1]
  constructor
  · rintro ⟨i, ⟨some_op, within⟩, rfl⟩
    exact ⟨i, some_op, by omega, rfl⟩
  · rintro ⟨i, some_op, within, rfl⟩
    exact ⟨i, ⟨some_op, by omega⟩, rfl⟩

theorem mem_numbers_of_take {i : Nat} {l : Literal} (h : l ∈ (c.take i).numbers) :
    l ∈ c.numbers := by
  simp only [numbers, take, List.mem_cons, List.map_take] at h ⊢
  exact h.imp_right List.mem_of_mem_take

theorem divides_iff : c.divides = true ↔ .div ∈ c.rest.map Prod.fst := by
  simp [divides]

/-- A chain is without a value because a beginning of it is, or it has the value of its tree and
all its beginnings have one. -/
theorem value?_cases (some_op : 1 ≤ c.rest.length)
    (readable : ∀ l ∈ c.numbers, l.denominator ≠ 0) :
    (c.value? = .ok none ∧ ∃ i, 1 ≤ i ∧ i ≤ c.rest.length ∧ ∀ v, (c.take i).tree.eval ≠ .ok v) ∨
    ∃ v, c.value? = .ok (some v) ∧ c.tree.eval = .ok v ∧
      ∀ i, 1 ≤ i → i ≤ c.rest.length → ∃ w, (c.take i).tree.eval = .ok w := by
  have value (i : Nat) (v : Rat) :
      valueOf? (c.take i).render = some v ↔ (c.take i).tree.eval = .ok v :=
    valueOf?_render_eq_some_iff fun l hl => readable l (mem_numbers_of_take hl)
  rw [value?_eq some_op]
  by_cases all : ∀ b ∈ c.beginnings, (valueOf? b.render).isSome
  · right
    rw [if_pos all]
    have each (i : Nat) (le : 1 ≤ i) (within : i ≤ c.rest.length) :
        ∃ w, (c.take i).tree.eval = .ok w := by
      have beginning := mem_beginnings_iff.2 ⟨i, le, within, rfl⟩
      obtain ⟨w, hw⟩ := Option.isSome_iff_exists.1 (all _ beginning)
      exact ⟨w, (value i w).1 hw⟩
    have whole : c.take c.rest.length = c := by simp [take]
    obtain ⟨v, hv⟩ := each c.rest.length some_op (Nat.le_refl _)
    have last := (value _ v).2 hv
    rw [whole] at hv last
    exact ⟨v, congrArg Except.ok last, hv, each⟩
  · left
    rw [if_neg all]
    push Not at all
    obtain ⟨b, hb, none_there⟩ := all
    obtain ⟨i, le, within, rfl⟩ := mem_beginnings_iff.1 hb
    refine ⟨rfl, i, le, within, fun v hv => none_there ?_⟩
    rw [(value i v).2 hv]
    rfl

end Chain

/-! ## Sketches -/

namespace Sketch

/-- What is known of a sketch that has been drawn: parentheses were only drawn for more than one
operator, and they stand between tokens of the chain. -/
structure Planned (bound maxOps : Nat) (s : Sketch) : Prop extends Drawn bound maxOps s where
  /-- The other text is the chain with a pair of parentheses. -/
  pair : ∀ t, s.bracketed = some t →
    1 < s.chain.rest.length ∧ ∃ start stop, s.chain.Bracketed t start stop

/-- The form of a sketch that is used, and its value. -/
inductive Retains (s : Sketch) : Text → Rat → Prop where
  /-- The text with parentheses, if it was drawn and has a value. -/
  | bracketed {t : Text} {e : Expr} {v : Rat} (drawn : s.bracketed = some t)
    (tree : Expr.ofText t = .ok e) (value : e.eval = .ok v) : Retains s t v
  /-- The chain, if no text with parentheses was drawn or the one that was has no value. -/
  | plain {v : Rat}
    (other : ∀ t, s.bracketed = some t → ∀ e w, Expr.ofText t = .ok e → e.eval ≠ .ok w)
    (value : s.chain.tree.eval = .ok v) : Retains s s.chain.render v

/-- What an exercise has to do with the sketch that it comes from. -/
structure Becomes (s : Sketch) (t : Text) (e : Exercise) : Prop where
  /-- The text is the form that is used, and the answer is its value. -/
  retains : s.Retains t e.value
  /-- The line is this text with an equals sign. -/
  text_eq : e.text = t ++ " =".toList
  /-- The text is the chain, or the chain with a pair of parentheses that was drawn for more than
  one operator. -/
  form : t = s.chain.render ∨ s.bracketed = some t ∧ 1 < s.chain.rest.length ∧
    ∃ start stop, s.chain.Bracketed t start stop
  /-- A text with parentheses that was drawn is the one used exactly if it has a value. -/
  used_iff : ∀ u, s.bracketed = some u →
    (t = u ↔ ∃ tree v, Expr.ofText u = .ok tree ∧ tree.eval = .ok v)
  /-- The tree of the line has the numbers and operators of the chain, in order. -/
  tree : ∃ tree, Expr.ofText e.text = .ok tree ∧ tree.eval = .ok e.value ∧
    tree.leaves = s.chain.numbers ∧ tree.operators = s.chain.rest.map Prod.fst

/-- A sketch that is drawn is planned, where there is room for a number and an operator. -/
theorem always_planned_of_pos {bound maxOps : Nat} (some_bound : 1 ≤ bound) (some_op : 1 ≤ maxOps) :
    (draw bound maxOps).Always (Planned bound maxOps) := by
  have texts (c : Chain) (within : c.Within bound maxOps) : (bracket c.render).Always fun t =>
      c.Writes t ∧ ∃ start stop, c.Bracketed t start stop := by
    have some_rest : c.rest ≠ [] := List.ne_nil_of_length_pos within.one_le_length
    refine (Chain.always_bracket_render some_rest).mono ?_
    rintro _ ⟨cut, clean, parts, some_char, rfl⟩
    exact ⟨.bracketed clean parts some_char, _, _, Chain.bracketed_of_clean clean parts some_char⟩
  have chains := Chain.always_draw some_bound some_op
  refine (always_draw_of chains texts).mono fun s ⟨within, pair⟩ => ?_
  exact ⟨⟨within, fun t ht => (pair t ht).2.1⟩, fun t ht => ⟨(pair t ht).1, (pair t ht).2.2⟩⟩

/-- Every sketch that is drawn is planned. -/
theorem always_planned (bound maxOps : Nat) :
    (draw bound maxOps).Always (Planned (max bound 1) (max maxOps 1)) := by
  rw [← draw_max]
  exact always_planned_of_pos (Nat.le_max_right _ _) (Nat.le_max_right _ _)

variable {bound maxOps : Nat} {s : Sketch} {t u : Text} {v w : Rat}

/-- A sketch retains one form, with one value. -/
theorem Retains.unique (h : s.Retains t v) (h' : s.Retains u w) : t = u ∧ v = w := by
  cases h with
  | bracketed drawn tree value =>
    cases h' with
    | bracketed drawn' tree' value' =>
      obtain rfl := Option.some.inj (drawn.symm.trans drawn')
      obtain rfl := Except.ok.inj (tree.symm.trans tree')
      exact ⟨rfl, Except.ok.inj (value.symm.trans value')⟩
    | plain other _ => exact absurd value (other t drawn _ v tree)
  | plain other value =>
    cases h' with
    | bracketed drawn' tree' value' => exact absurd value' (other u drawn' _ w tree')
    | plain _ value' => exact ⟨rfl, Except.ok.inj (value.symm.trans value')⟩

/-- A sketch is without a value, because a beginning of its chain is, or it retains a form. -/
theorem Planned.form?_cases (h : s.Planned bound maxOps) :
    (s.form? = .ok none ∧
      ∃ i, 1 ≤ i ∧ i ≤ s.chain.rest.length ∧ ∀ v, (s.chain.take i).tree.eval ≠ .ok v) ∨
    ∃ t v, s.form? = .ok (some (t, v)) ∧ s.Retains t v ∧
      ∀ i, 1 ≤ i → i ≤ s.chain.rest.length → ∃ w, (s.chain.take i).tree.eval = .ok w := by
  rcases Chain.value?_cases h.within.one_le_length h.within.denominator_ne_zero with
    ⟨none_there, stuck⟩ | ⟨v, value, plain, each⟩
  · exact .inl ⟨form?_eq none_there, stuck⟩
  · right
    have form := form?_eq value
    cases other : s.bracketed with
    | none =>
      refine ⟨_, v, by simpa [other] using form, .plain (by simp [other]) plain, each⟩
    | some t =>
      cases own : valueOf? t with
      | none =>
        refine ⟨_, v, by simpa [other, own] using form, .plain ?_ plain, each⟩
        intro t' drawn e w tree eval
        obtain rfl : t = t' := by simpa [other] using drawn
        rw [valueOf?_eq_some_iff_tree.2 ⟨e, tree, eval⟩] at own
        cases own
      | some w =>
        obtain ⟨e, tree, eval⟩ := valueOf?_eq_some_iff_tree.1 own
        exact ⟨t, w, by simpa [other, own] using form, .bracketed other tree eval, each⟩

/-- The tree of a text of the chain has the numbers and operators of the chain. -/
theorem Planned.leaves_and_operators (h : s.Planned bound maxOps) (writes : s.chain.Writes t)
    {tree : Expr} (read : Expr.ofText t = .ok tree) :
    tree.leaves = s.chain.numbers ∧ tree.operators = s.chain.rest.map Prod.fst := by
  constructor
  · rw [Expr.leaves_of_ofTokens read, writes.filterMap_scan rfl rfl,
      Chain.filterMap_literal?_tokens h.within.denominator_ne_zero]
  · rw [Expr.operators_of_ofTokens read, writes.filterMap_operator?_scan]

/-- The exercise of a planned sketch that retains a form. -/
theorem Planned.exists_becomes (h : s.Planned bound maxOps) (form : s.form? = .ok (some (t, v)))
    (retains : s.Retains t v) :
    ∃ e, Exercise.ofExpression t v = .ok e ∧ e.value = v ∧ s.Becomes t e := by
  obtain ⟨r, form', used⟩ := h.exists_form?
  obtain rfl := Except.ok.inj (form.symm.trans form')
  obtain ⟨writes, value⟩ := used t v rfl
  obtain ⟨e, made, text, rfl, -⟩ := Exercise.exists_ofExpression value
  obtain ⟨tree, read, eval⟩ := evaluateTokens_eq_some_iff.1 value
  refine ⟨e, made, rfl, retains, text, ?_, ?_, tree, ?_, eval, h.leaves_and_operators writes read⟩
  · cases retains with
    | bracketed drawn _ _ => exact .inr ⟨drawn, h.pair t drawn⟩
    | plain _ _ => exact .inl rfl
  · intro u drawn
    cases retains with
    | bracketed drawn' tree' value' =>
      obtain rfl := Option.some.inj (drawn.symm.trans drawn')
      exact ⟨fun _ => ⟨_, _, tree', value'⟩, fun _ => rfl⟩
    | plain other _ =>
      obtain ⟨-, start, stop, bracketed⟩ := h.pair u drawn
      constructor
      · exact fun same => absurd same.symm bracketed.ne
      · rintro ⟨tree', w, read', value'⟩
        exact absurd value' (other u drawn tree' w read')
  · rw [Expr.ofText, text, scan_append_equals]
    exact read

end Sketch

/-- Which candidates are rejected and what the others become, from any source of words and for any
bounds.  No candidate is a failure.  A candidate is rejected exactly if a beginning of its chain
has no value, or the form that it retains has the value zero and there is a division in it.  Any
other candidate becomes the exercise of the form that it retains. -/
theorem candidate_rejects_and_retains {σ : Type} [WordSource σ] (bound maxOps : Nat) (source : σ) :
    let s := ((Sketch.draw bound maxOps).run source).1
    let outcome := ((candidate bound maxOps).run source).1
    s.chain.Within (max bound 1) (max maxOps 1) ∧
    (∀ x, outcome ≠ .error x) ∧
    (outcome = .ok none ↔
      (∃ i, 1 ≤ i ∧ i ≤ s.chain.rest.length ∧ ∀ v, (s.chain.take i).tree.eval ≠ .ok v) ∨
        (∃ t, s.Retains t 0) ∧ .div ∈ s.chain.rest.map Prod.fst) ∧
    ∀ e, outcome = .ok (some e) → ∃ t, s.Becomes t e := by
  intro s outcome
  have planned : s.Planned (max bound 1) (max maxOps 1) :=
    Draw.always_run (Sketch.always_planned bound maxOps) source
  have same : outcome = s.exercise? := by simp [outcome, s, candidate]
  refine ⟨planned.within, ?_⟩
  rw [same]
  rcases planned.form?_cases with ⟨none_there, stuck⟩ | ⟨t, v, form, retains, each⟩
  · rw [Sketch.exercise?_of_form?_none none_there]
    exact ⟨by simp, by simp [stuck], by simp⟩
  · obtain ⟨e, made, rfl, becomes⟩ := planned.exists_becomes form retains
    rw [Sketch.exercise?_of_form?_some form made]
    refine ⟨by simp, ?_, ?_⟩
    · rw [← Chain.divides_iff]
      constructor
      · intro rejected
        have refused : s.refuses e.value = true := by
          by_contra kept
          simp [kept] at rejected
        rw [Sketch.refuses, Bool.and_eq_true, beq_iff_eq] at refused
        exact .inr ⟨⟨t, refused.1 ▸ retains⟩, refused.2⟩
      · rintro (⟨i, some_op, within, stuck⟩ | ⟨⟨u, zero⟩, divides⟩)
        · obtain ⟨w, value⟩ := each i some_op within
          exact absurd value (stuck w)
        · have refused : s.refuses e.value = true := by
            simp [Sketch.refuses, (retains.unique zero).2, divides]
          rw [if_pos refused]
    · intro e' kept
      by_cases refused : s.refuses e.value = true
      · simp [refused] at kept
      · obtain rfl : e = e' := by simpa [refused] using kept
        exact ⟨t, becomes⟩

/-- From the words of `(1 + 2) × 3` the form with parentheses is retained.  From others `0 ÷ 0` is
drawn and rejected, which takes a beginning without a value or the answer zero. -/
theorem retained_and_rejected :
    let s := ((Sketch.draw 10 2).run parenthesesWords).1
    let e : Exercise := ⟨"(1 + 2) × 3 =".toList, 9, "((1+2)×3)".toList⟩
    let words := CyclicWords.ofList [0, 0, 0, 0, 0, 0xC0000000]
    let r := ((Sketch.draw 1 1).run words).1
    ((candidate 10 2).run parenthesesWords).1 = .ok (some e) ∧ (∃ t, s.Becomes t e) ∧
    r = ⟨⟨.whole 0, [(.div, .whole 0)]⟩, none⟩ ∧ ((candidate 1 1).run words).1 = .ok none ∧
      ((∃ i, 1 ≤ i ∧ i ≤ r.chain.rest.length ∧ ∀ v, (r.chain.take i).tree.eval ≠ .ok v) ∨
        (∃ t, r.Retains t 0) ∧ .div ∈ r.chain.rest.map Prod.fst) := by
  intro s e words r
  have kept : ((candidate 10 2).run parenthesesWords).1 = .ok (some e) := by cbv
  have drawn : r = ⟨⟨.whole 0, [(.div, .whole 0)]⟩, none⟩ := by cbv
  have rejected : ((candidate 1 1).run words).1 = .ok none := by cbv
  obtain ⟨-, -, -, becomes⟩ := candidate_rejects_and_retains 10 2 parenthesesWords
  obtain ⟨-, -, rejects, -⟩ := candidate_rejects_and_retains 1 1 words
  exact ⟨kept, becomes e kept, drawn, rejected, rejects.1 rejected⟩

end ArithDrill
