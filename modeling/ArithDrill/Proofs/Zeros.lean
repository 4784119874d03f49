import ArithDrill.Proofs.Retention
import Mathlib.Data.List.Perm.Basic

/-!
# Below one there is only zero

A bound of one leaves zero as the only number.  A tree of zeros has the value zero or none at all: a
divisor would be zero, and no difference of zeros is negative.  So no exercise divides, wherever its
parentheses are.  With one operator there are three such trees, and as many keys; a series of more
exercises cannot be completed, however many attempts are allowed.

## Main definitions

* `Expr.Zeros` — a tree of zeros.
* `Exercise.OfZeros` — an exercise of zeros.

## Main statements

* `Expr.Zeros.of_eval` — the value of a tree of zeros.
* `Sketch.always_zeros` — what is drawn below one.
* `always_ofZeros` — what the candidates become.
* `only_zeros_below_one` — exercises and series below one.
-/

namespace ArithDrill

open Token

/-! ## Trees of zeros -/

/-- No operator takes two zeros to another number, and `÷` takes them to none. -/
theorem Op.apply_zero_zero {o : Op} {v : Rat} (h : o.apply 0 0 = .ok v) : v = 0 ∧ o ≠ .div := by
  cases o with
  | div => simp [apply] at h
  | _ => simpa [apply, Rat.add_zero, Rat.sub_self, eq_comm] using h

namespace Expr

/-- All numbers of a tree are the literal `0`. -/
def Zeros (e : Expr) : Prop := ∀ l ∈ e.leaves, l = .whole 0

variable {e a b : Expr} {o : Op} {v : Rat}

theorem zeros_node : (node o a b).Zeros ↔ a.Zeros ∧ b.Zeros := by
  simp only [Zeros, leaves, List.mem_append, or_imp, forall_and]

/-- A tree of zeros with a value has the value zero, and does not divide. -/
theorem Zeros.of_eval (h : e.Zeros) (value : e.eval = .ok v) : v = 0 ∧ .div ∉ e.operators := by
  induction e generalizing v with
  | leaf l =>
    obtain rfl : l = .whole 0 := h l (by simp [leaves])
    obtain rfl := Except.ok.inj value
    exact ⟨by simp [Literal.value], by simp [operators]⟩
  | node o a b ihLeft ihRight =>
    obtain ⟨left, right⟩ := zeros_node.1 h
    obtain ⟨x, y, hx, hy, applied⟩ := eval_node_eq_ok_iff.1 value
    obtain ⟨rfl, before⟩ := ihLeft left hx
    obtain ⟨rfl, after⟩ := ihRight right hy
    obtain ⟨zero, other⟩ := Op.apply_zero_zero applied
    exact ⟨zero, by simp [operators, before, after, other.symm]⟩

/-- There is one tree of zeros with a given operator alone. -/
theorem Zeros.eq_node (h : e.Zeros) (single : e.operators = [o]) :
    e = node o (leaf (.whole 0)) (leaf (.whole 0)) := by
  have eq_leaf {e : Expr} (h : e.Zeros) (none_there : e.operators = []) :
      e = leaf (.whole 0) := by
    cases e with
    | leaf l => rw [h l (by simp [leaves])]
    | node o a b => simp [operators] at none_there
  cases e with
  | leaf l => simp [operators] at single
  | node p a b =>
    obtain ⟨left, right⟩ := zeros_node.1 h
    obtain ⟨before, rfl, after⟩ : a.operators = [] ∧ p = o ∧ b.operators = [] := by
      simpa [operators, List.append_eq_singleton_iff] using single
    rw [eq_leaf left before, eq_leaf right after]

end Expr

/-! ## Exercises of zeros -/

/-- An exercise of zeros: they are its only numbers, it does not divide, and its answer is zero. -/
structure Exercise.OfZeros (e : Exercise) : Prop where
  /-- The tree of the line is one of zeros, and the key is that of the tree. -/
  tree : ∃ tree, Expr.ofText e.text = .ok tree ∧ tree.Zeros ∧ .div ∉ tree.operators ∧
    e.key = tree.canonical.render
  /-- The numbers in the line are written `0`. -/
  numbers : ∀ t, .number t ∈ Token.scan e.text → t = "0".toList
  /-- There is no division in the line. -/
  no_div : '÷' ∉ e.text
  /-- The answer is zero. -/
  value_eq : e.value = 0

/-- The only number that is drawn below one is zero. -/
theorem Literal.eq_zero_of_drawable {l : Literal} (h : l.Drawable 1) : l = .whole 0 := by
  cases l with
  | whole n =>
    have below : n < 1 := h
    rw [Nat.lt_one_iff.1 below]
  | fraction num den => exact absurd h.1 (by decide)
  | mixed units num den => exact absurd h.1 (by decide)

namespace Sketch

/-- What is drawn below one is a sketch to order with zeros for numbers. -/
theorem always_zeros (maxOps : Nat) : (draw 1 maxOps).Always fun s =>
    s.Planned 1 (max maxOps 1) ∧ ∀ l ∈ s.chain.numbers, l = .whole 0 := by
  have literals := (Literal.always_draw (Nat.le_refl 1)).mono fun _ => Literal.eq_zero_of_drawable
  have chains := Chain.always_draw_of (Nat.le_max_right maxOps 1) literals
  have sketches := always_draw_of chains fun c _ => always_bracket c.render
  rw [← draw_max]
  refine (always_planned_of_pos (Nat.le_refl 1) (Nat.le_max_right maxOps 1)).and ?_
  exact sketches.mono fun s drawn => drawn.1.2.2

variable {bound maxOps : Nat} {s : Sketch} {e : Exercise}

/-- The line of an exercise is a text of the chain of its sketch. -/
theorem Drawn.exists_of_exercise? (h : s.Drawn bound maxOps) (made : s.exercise? = .ok (some e)) :
    ∃ t, s.chain.Writes t ∧ evaluate t = .ok (some e.value) ∧ e.text = t ++ " =".toList ∧
      Expr.key e.text = .ok e.key := by
  obtain ⟨r, form, used⟩ := h.exists_form?
  cases r with
  | none => simp [exercise?_of_form?_none form] at made
  | some p =>
    obtain ⟨t, v⟩ := p
    obtain ⟨writes, value⟩ := used t v rfl
    obtain ⟨x, built, text, answer, key⟩ := Exercise.exists_ofExpression value
    rw [exercise?_of_form?_some form built, Except.ok.injEq, Option.ite_none_left_eq_some,
      Option.some.injEq] at made
    obtain ⟨-, rfl⟩ := made
    exact ⟨t, writes, answer ▸ value, text, key⟩

/-- A sketch of zeros becomes an exercise of zeros, with as many operators in its tree as in its
chain. -/
theorem Planned.ofZeros (h : s.Planned bound maxOps) (zeros : ∀ l ∈ s.chain.numbers, l = .whole 0)
    (made : s.exercise? = .ok (some e)) : e.OfZeros ∧
      ∃ tree, Expr.ofText e.text = .ok tree ∧ tree.operators = s.chain.rest.map Prod.fst := by
  obtain ⟨t, writes, value, text, key⟩ := h.exists_of_exercise? made
  obtain ⟨tree, read, eval⟩ := evaluateTokens_eq_some_iff.1 value
  have line : Expr.ofText e.text = .ok tree := by
    rw [Expr.ofText, text, scan_append_equals, read]
  obtain ⟨leaves, operators⟩ := h.leaves_and_operators writes read
  have tree_zeros : tree.Zeros := fun l hl => zeros l (leaves ▸ hl)
  obtain ⟨zero, no_div⟩ := tree_zeros.of_eval eval
  rw [Expr.key, line] at key
  refine ⟨⟨⟨tree, line, tree_zeros, no_div, (Except.ok.inj key).symm⟩, fun x hx => ?_, ?_, zero⟩,
    tree, line, operators⟩
  · rw [text, scan_append_equals] at hx
    obtain ⟨l, hl, rfl⟩ := writes.exists_of_number_mem_scan hx
    rw [zeros l hl]
    rfl
  · rw [text, List.mem_append, not_or, writes.mem_iff (by decide) (by decide),
      Chain.div_mem_render_iff, Chain.divides_iff, ← operators]
    exact ⟨no_div, by decide⟩

end Sketch

/-- What the candidates below one become. -/
theorem always_ofZeros (maxOps : Nat) :
    (candidate 1 maxOps).Always fun c => ∀ e, c = .ok (some e) → e.OfZeros :=
  Draw.always_bind (Sketch.always_zeros maxOps) fun _ ⟨planned, zeros⟩ _ made =>
    (planned.ofZeros zeros made).1

/-! ## Series of zeros -/

/-- The keys of the exercises of zeros with one operator. -/
def zeroKeys : List Text := ["(0+0)".toList, "(0-0)".toList, "(0×0)".toList]

/-- With one operator there are three keys. -/
theorem always_key_mem_zeroKeys :
    (candidate 1 1).Always fun c => ∀ e, c = .ok (some e) → e.key ∈ zeroKeys := by
  refine Draw.always_bind (Sketch.always_zeros 1) fun s ⟨planned, zeros⟩ e made => ?_
  obtain ⟨⟨⟨tree, read, tree_zeros, no_div, key⟩, -, -, -⟩, other, same, operators⟩ :=
    planned.ofZeros zeros made
  obtain rfl := Except.ok.inj (read.symm.trans same)
  have single : s.chain.rest.length = 1 :=
    Nat.le_antisymm planned.within.length_le planned.within.one_le_length
  obtain ⟨p, rest⟩ := List.length_eq_one_iff.1 single
  rw [rest, List.map_singleton] at operators
  rw [operators, List.mem_singleton] at no_div
  rw [key, tree_zeros.eq_node operators]
  cases sign : p.1 with
  | add => decide
  | sub => decide
  | mul => decide
  | div => exact absurd sign.symm no_div

/-- So there are never more than three exercises. -/
theorem length_distinctExercises_le_three {σ : Type} [WordSource σ] (n : Nat) (source : σ) :
    (distinctExercises 1 1 n source).length ≤ 3 := by
  have keys : (distinctExercises 1 1 n source).map Exercise.key ⊆ zeroKeys := by
    intro k hk
    obtain ⟨e, he, rfl⟩ := List.mem_map.1 hk
    exact forall_mem_distinctExercises always_key_mem_zeroKeys n source e he
  have fewer : ((distinctExercises 1 1 n source).map Exercise.key).length ≤ 3 :=
    (List.subperm_of_subset (nodup_firstOfEachKey _) keys).length_le
  rwa [List.length_map] at fewer

/-- Below one there is only zero, whatever the source of words.  Every exercise that a candidate
becomes, and so every exercise of a series, has no number but `0`, no division, and the answer zero.
A series of four or more exercises with one operator is never completed: all attempts are used up,
and three exercises are made at most. -/
theorem only_zeros_below_one {σ : Type} [WordSource σ] (source : σ) :
    (∀ maxOps e, ((candidate 1 maxOps).run source).1 = .ok (some e) → e.OfZeros) ∧
    (∀ count maxOps maxAttempts es,
      ((generate ⟨count, 1, maxOps, maxAttempts⟩).run source).1 = .ok es → ∀ e ∈ es, e.OfZeros) ∧
    ∀ count maxAttempts, 4 ≤ count → ∃ made ≤ 3,
      ((generate ⟨count, 1, 1, maxAttempts⟩).run source).1 =
        .error (.shortage made count maxAttempts) := by
  refine ⟨fun maxOps e => ?_, fun count maxOps maxAttempts es series => ?_,
    fun count maxAttempts more => ?_⟩
  · exact Draw.always_run (always_ofZeros maxOps) source e
  · obtain ⟨n, -, rfl, -⟩ := exists_stopsAt_of_generate series
    exact forall_mem_distinctExercises (always_ofZeros maxOps) n source
  · obtain ⟨n, stops, run⟩ := exists_run_generate_eq ⟨count, 1, 1, maxAttempts⟩ source
    have few := length_distinctExercises_le_three n source
    have used_up : n = maxAttempts := stops.ends.resolve_left (by dsimp only; omega)
    rw [if_neg (by dsimp only; omega), used_up] at run
    exact ⟨_, used_up ▸ few, congrArg Prod.fst run⟩

/-- From words that choose the four operators in turn, `0 + 0`, `0 - 0` and `0 × 0` become
exercises of zeros and `0 ÷ 0` becomes none, so that eight attempts are not enough for four. -/
theorem three_exercises_of_zeros :
    let words := CyclicWords.ofList [0, 0, 0, 0, 0, 0, 0, 0, 0, 0, 0, 0x40000000,
      0, 0, 0, 0, 0, 0x80000000, 0, 0, 0, 0, 0, 0xC0000000]
    let es : List Exercise := [⟨"0 + 0 =".toList, 0, "(0+0)".toList⟩,
      ⟨"0 - 0 =".toList, 0, "(0-0)".toList⟩, ⟨"0 × 0 =".toList, 0, "(0×0)".toList⟩]
    ((candidate 1 1).run words).1 = .ok es.head? ∧ (∀ e ∈ es.head?, e.OfZeros) ∧
    ((generate ⟨3, 1, 1, 8⟩).run words).1 = .ok es ∧ (∀ e ∈ es, e.OfZeros) ∧
    4 ≤ 4 ∧ ((generate ⟨4, 1, 1, 8⟩).run words).1 = .error (.shortage 3 4 8) ∧
    ∃ made ≤ 3, ((generate ⟨4, 1, 1, 8⟩).run words).1 = .error (.shortage made 4 8) := by
  intro words es
  have first : ((candidate 1 1).run words).1 = .ok es.head? := by cbv
  have series : ((generate ⟨3, 1, 1, 8⟩).run words).1 = .ok es := by cbv
  have short : ((generate ⟨4, 1, 1, 8⟩).run words).1 = .error (.shortage 3 4 8) := by cbv
  obtain ⟨candidates, all, never⟩ := only_zeros_below_one words
  refine ⟨first, fun e he => candidates 1 e ?_, series, all _ _ _ _ series, Nat.le_refl 4, short,
    never 4 8 (Nat.le_refl 4)⟩
  rw [first, Option.mem_def.1 he]

end ArithDrill
