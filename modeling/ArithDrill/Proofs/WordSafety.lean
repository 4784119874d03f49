import ArithDrill.Proofs.Guarded
import Mathlib.Data.List.GetD

/-!
# The draws of the generator on words

Every guard of the generator is just strong enough.  A number is drawn from the ranges below its
bound, and the special cases of the bounds zero, one and two keep these ranges from being empty.
Positions in a text are compared with its ends before they are moved.  So no draw of the generator
meets a trap, except that a text may be so large that a sum leaves the words; and what is drawn is
what the model draws from the same words.

The positions that the four loops move are the lengths of the parts of a cut, which widening and
narrowing the cut change in the same way.

## Main definitions

* `Guarded.GivesAt` — a guarded computation and a plain one give the same.

## Main statements

* `Guarded.GivesAt.bind` — one computation after another.
* `Guarded.givesAt_literal`, `Guarded.givesAt_op` — numbers and operators.
* `Guarded.givesAt_enclose`, `Guarded.givesAt_bracket` — parentheses.
* `Chain.byteLength_render_lt` — the bytes of a chain.
* `Guarded.givesAt_candidate` — candidates.
-/

namespace ArithDrill

/-! ## Bytes -/

namespace Path

theorem foldl_utf8Size (t : Text) (n : Nat) :
    t.foldl (fun n c => n + c.utf8Size) n = n + byteLength t := by
  induction t generalizing n with
  | nil => rfl
  | cons c t ih =>
    rw [byteLength, List.foldl_cons, List.foldl_cons, ih, ih, Nat.zero_add, Nat.add_assoc]

theorem byteLength_cons (c : Char) (t : Text) :
    byteLength (c :: t) = c.utf8Size + byteLength t := by
  rw [byteLength, List.foldl_cons, foldl_utf8Size, Nat.zero_add]

/-- If no character has more than two bytes, there are at most twice as many bytes as characters. -/
theorem byteLength_le {t : Text} (h : ∀ c ∈ t, c.utf8Size ≤ 2) : byteLength t ≤ 2 * t.length := by
  induction t with
  | nil => exact Nat.le_refl 0
  | cons c t ih =>
    have first := h c List.mem_cons_self
    have rest := ih fun x hx => h x (List.mem_cons_of_mem c hx)
    rw [byteLength_cons, List.length_cons]
    omega

end Path

/-- The characters of numbers have one byte. -/
theorem Token.utf8Size_of_isNumberChar {c : Char} (h : isNumberChar c = true) :
    c.utf8Size = 1 := by
  obtain ⟨-, high⟩ := toNat_of_isNumberChar h
  exact Char.utf8Size_eq_one_iff.2 (UInt32.le_iff_toNat_le.2 (high.trans (by decide)))

namespace Chain

/-- The characters of a chain have at most two bytes. -/
theorem utf8Size_le_of_mem_render {c : Chain} {x : Char} (h : x ∈ c.render) : x.utf8Size ≤ 2 := by
  have number {l : Literal} (h : x ∈ l.render) : x.utf8Size ≤ 2 :=
    (Token.utf8Size_of_isNumberChar (Literal.isNumberChar_of_mem_render h)).trans_le (by decide)
  rcases List.mem_append.1 h with h | h
  · exact number h
  · obtain ⟨⟨o, l⟩, -, h⟩ := List.mem_flatMap.1 h
    simp only [List.mem_cons] at h
    rcases h with rfl | rfl | rfl | h
    · decide
    · cases o <;> decide
    · decide
    · exact number h

/-- A chain of fewer than `2 ^ 63` characters can be given two bytes more: even if all characters
but the first have two bytes, there are that many left. -/
theorem byteLength_render_lt {c : Chain} (short : c.render.length < 2 ^ 63) :
    Path.byteLength c.render + 2 < UInt64.size := by
  have size : UInt64.size = 2 ^ 64 := rfl
  obtain ⟨x, first, digit⟩ := c.exists_head?_render
  obtain ⟨t, text⟩ := List.head?_eq_some_iff.1 first
  have one := Token.utf8Size_of_isNumberChar digit
  have rest : Path.byteLength t ≤ 2 * t.length :=
    Path.byteLength_le fun y hy => utf8Size_le_of_mem_render (c := c) (by simp [text, hy])
  rw [text, List.length_cons] at short
  rw [text, Path.byteLength_cons]
  omega

end Chain

namespace Guarded

variable {α β σ : Type} [WordSource σ] {large : Prop}

/-! ## Runs without a trap -/

/-- From one source, a guarded computation gives what a plain one gives, and takes the same words.
Where something is too large, a sum may stop it; nothing else ever does. -/
def GivesAt (large : Prop) (d : Guarded α) (e : Draw α) (s : σ) : Prop :=
  Draw.run (ExceptT.run d) s = (.ok (e.run s).1, (e.run s).2) ∨
    large ∧ (Draw.run (ExceptT.run d) s).1 = .error .overflow

theorem givesAt_pure (a : α) (s : σ) : (pure a : Guarded α).GivesAt large (pure a) s := .inl rfl

/-- Where nothing is too large, there is a result, and it is that of the plain computation. -/
theorem GivesAt.eq_ok {d : Guarded α} {e : Draw α} {s : σ} (h : d.GivesAt large e s)
    (small : ¬large) : (Draw.run (ExceptT.run d) s).1 = .ok (e.run s).1 :=
  congrArg Prod.fst (h.resolve_right fun excess => small excess.1)

/-- One computation after another, from one source. -/
theorem GivesAt.seq {d : Guarded α} {e : Draw α} {f : α → Guarded β} {g : α → Draw β} {s : σ}
    (h : d.GivesAt large e s)
    (next : (f (e.run s).1).GivesAt large (g (e.run s).1) (e.run s).2) :
    (d >>= f).GivesAt large (e >>= g) s := by
  rw [GivesAt, ExceptT.run_bind, Draw.run_bind, Draw.run_bind]
  rcases h with given | ⟨excess, stopped⟩
  · rw [given]
    exact next
  · rw [stopped]
    exact .inr ⟨excess, rfl⟩

/-- A computation after one that only computes. -/
theorem GivesAt.after {d : Guarded α} {a : α} {f : α → Guarded β} {e : Draw β} {s : σ}
    (h : d.GivesAt large (pure a) s) (next : (f a).GivesAt large e s) :
    (d >>= f).GivesAt large e s := GivesAt.seq (e := pure a) (g := fun _ => e) h next

/-- One computation after another: what always holds of the first result is all that the second
computation may rely on. -/
theorem GivesAt.bind {d : Guarded α} {e : Draw α} {f : α → Guarded β} {g : α → Draw β} {s : σ}
    {P : α → Prop} (h : d.GivesAt large e s) (always : e.Always P)
    (next : ∀ a (t : σ), P a → (f a).GivesAt large (g a) t) :
    (d >>= f).GivesAt large (e >>= g) s :=
  h.seq (next _ _ (Draw.always_run always s))

/-- One computation after another, where the second relies on nothing. -/
theorem GivesAt.andThen {d : Guarded α} {e : Draw α} {f : α → Guarded β} {g : α → Draw β} {s : σ}
    (h : d.GivesAt large e s) (next : ∀ a (t : σ), (f a).GivesAt large (g a) t) :
    (d >>= f).GivesAt large (e >>= g) s := h.seq (next _ _)

/-- A draw of the plain kind has no trap. -/
theorem givesAt_lift (d : Draw α) (s : σ) : (liftM d : Guarded α).GivesAt large d s := by
  refine .inl ?_
  show Draw.run (Except.ok <$> d) s = _
  rw [map_eq_pure_bind, Draw.run_bind]
  rfl

/-- A range with a number in it may be drawn from. -/
theorem givesAt_number {r : Span} (some_number : r.lo ≤ r.hi) (s : σ) :
    (number r).GivesAt large (.number r .done) s := by
  rw [number, if_pos some_number]
  exact givesAt_lift _ s

theorem below_eq {span : Nat → Nat → Span} {lo hi : Nat} (h : lo < hi) :
    below span lo hi = number (span lo (hi - 1)) := if_pos h

theorem sub_eq {a b : Nat} (h : b ≤ a) : sub a b = pure (a - b) := if_pos h

theorem givesAt_add {a b : Nat} (fits : ¬large → a + b < UInt64.size) (s : σ) :
    (add a b).GivesAt large (pure (a + b)) s := by
  by_cases word : a + b < UInt64.size
  · rw [add, if_pos word]
    exact givesAt_pure _ s
  · rw [add, if_neg word]
    exact .inr ⟨by_contra fun small => word (fits small), rfl⟩

theorem get_eq {xs : List α} {i : Nat} {a : α} (h : xs[i]? = some a) : get xs i = pure a := by
  rw [get, h]

theorem slice_eq {xs a b c : List α} {start stop : Nat} (parts : xs = a ++ (b ++ c))
    (from_here : start = a.length) (to_there : stop = a.length + b.length) :
    slice xs start stop = pure b := by
  rw [parts, from_here, to_there, slice, if_pos (by simp), ← List.length_append,
    ← List.append_assoc, List.take_left, List.drop_left]

theorem slice_tail (a : α) (as : List α) : slice (a :: as) 1 (a :: as).length = pure as :=
  slice_eq (a := [a]) (c := []) (by simp) rfl (by simp [Nat.add_comm])

theorem givesAt_replicate {d : Guarded α} {e : Draw α} (h : ∀ s : σ, d.GivesAt large e s) (n : Nat)
    (s : σ) : (replicate n d).GivesAt large (Draw.replicate n e) s := by
  induction n generalizing s with
  | zero => exact givesAt_pure [] s
  | succ n ih =>
    refine (h s).andThen fun a s => ?_
    exact (ih s).andThen fun as s => givesAt_pure _ s

/-! ## Numbers and operators -/

theorem givesAt_whole (bound : Nat) (s : σ) :
    (whole bound).GivesAt large (Literal.drawWhole bound) s := by
  rw [whole, below_eq (by omega)]
  exact (givesAt_number (Nat.zero_le _) s).seq (givesAt_pure _ _)

theorem givesAt_parts {bound : Nat} (two_le : 2 ≤ bound) (s : σ) :
    (parts bound).GivesAt large (Literal.drawParts bound) s := by
  rw [parts, Literal.drawParts, sub_eq (by omega), pure_bind, below_eq (by omega), Nat.sub_sub]
  refine (givesAt_number (Nat.zero_le _) s).bind (Draw.always_value (Nat.zero_le _))
    fun units t _ => ?_
  -- the same for the denominator that is drawn and for the one that is not
  have numerator (den : Nat) (some_choice : 2 ≤ den) (t : σ) : GivesAt large (do
        let num ← below .value 1 den
        return if units = 0 then Literal.fraction num den else .mixed units num den) (do
        let num ← Draw.value 1 (den - 1)
        return if units = 0 then Literal.fraction num den else .mixed units num den) t := by
    rw [below_eq (by omega)]
    exact (givesAt_number (by show 1 ≤ den - 1; omega) t).seq (givesAt_pure _ _)
  dsimp only
  by_cases choice : 2 < bound
  · rw [if_pos choice, if_pos choice, pure_bind]
    exact (givesAt_number (by show 2 ≤ bound - 1; omega) t).bind (Draw.always_value (by omega))
      fun den t range => numerator den range.1 t
  · rw [if_neg choice, if_neg choice, pure_bind]
    exact numerator 2 (Nat.le_refl 2) t

/-- Numbers are drawn without a trap, whatever the bound. -/
theorem givesAt_literal (bound : Nat) (s : σ) :
    (literal bound).GivesAt large (Literal.draw bound) s := by
  rw [literal, Literal.draw]
  by_cases small : bound < 2
  · rw [if_pos small, if_pos small]
    exact givesAt_whole bound s
  · rw [if_neg small, if_neg small]
    refine (givesAt_lift Draw.flip s).bind (Draw.always_toss _) fun heads t _ => ?_
    cases heads with
    | true => exact givesAt_whole bound t
    | false => exact givesAt_parts (by omega) t

/-- Operators are drawn without a trap. -/
theorem givesAt_op (s : σ) : op.GivesAt large Op.draw s := by
  rw [op, below_eq (by decide)]
  refine (givesAt_number (Nat.zero_le _) s).bind (Draw.always_count (Nat.zero_le _))
    fun i t range => ?_
  have within : i < Op.all.length := by
    have := range.2
    have : Op.all.length = 4 := rfl
    omega
  rw [get_eq (List.getElem?_eq_getElem within), List.getD_eq_getElem _ _ within]
  exact givesAt_pure _ t

/-! ## Parentheses -/

/-- A position that goes to the left through the middle part of a text. -/
theorem back_eq {t a b c : Text} {low i passes : Nat} (skips : Char → Bool)
    (parts : t = a ++ (b ++ c)) (from_here : i = a.length + b.length) (to_there : low = a.length)
    (enough : b.length < passes) :
    back t low skips passes i = pure (a.length + (b.reverse.dropWhile skips).length) := by
  -- the middle part loses its last character with every pass, so that the passes are enough
  induction passes generalizing b c i with
  | zero => omega
  | succ passes ih =>
    rcases List.eq_nil_or_concat b with rfl | ⟨b, x, rfl⟩
    · rw [back, if_neg (by simp [from_here, to_there]), from_here]
      rfl
    · rw [List.concat_eq_append] at parts from_here enough ⊢
      rw [List.length_append, List.length_singleton] at from_here enough
      have here : t[a.length + b.length]? = some x := by
        rw [parts, List.append_assoc, ← List.append_assoc, ← List.length_append,
          List.getElem?_append_right (Nat.le_refl _), Nat.sub_self]
        rfl
      have before : i - 1 = a.length + b.length := by omega
      rw [back, if_pos (by omega), sub_eq (by omega), before, pure_bind, get_eq here, pure_bind]
      by_cases skipped : skips x = true
      · rw [if_pos skipped, pure_bind, ih (by simpa using parts) rfl (by omega)]
        simp [skipped]
      · rw [if_neg skipped, from_here]
        simp [skipped]

/-- A position that goes to the right through the middle part of a text. -/
theorem givesAt_forth {t a b c : Text} {high i passes : Nat} (skips : Char → Bool)
    (parts : t = a ++ (b ++ c)) (from_here : i = a.length) (to_there : high = a.length + b.length)
    (enough : b.length < passes) (fits : ¬large → t.length < UInt64.size) (s : σ) :
    (forth t high skips passes i).GivesAt large
      (pure (a.length + (b.takeWhile skips).length)) s := by
  -- here the first character of the middle part goes over to the part before it
  induction passes generalizing a b i with
  | zero => omega
  | succ passes ih =>
    cases b with
    | nil =>
      rw [forth, if_neg (by simp [from_here, to_there]), from_here]
      exact givesAt_pure _ s
    | cons x b =>
      have longer : a.length + 1 ≤ t.length := by
        rw [parts]
        simp
      have here : t[i]? = some x := by
        rw [parts, from_here, List.getElem?_append_right (Nat.le_refl _), Nat.sub_self]
        rfl
      rw [List.length_cons] at to_there enough
      rw [forth, if_pos (by omega), get_eq here, pure_bind]
      by_cases skipped : skips x = true
      · rw [if_pos skipped]
        refine (givesAt_add (fun small => ?_) s).after ?_
        · have := fits small
          omega
        · have rest := @ih (a ++ [x]) b (i + 1) (by simpa using parts) (by simp [from_here])
            (by rw [to_there, List.length_append, List.length_singleton]; omega) (by omega)
          rwa [List.length_append, List.length_singleton, Nat.add_assoc, Nat.add_comm 1,
            ← List.length_cons, ← List.takeWhile_cons_of_pos skipped] at rest
      · rw [if_neg skipped, from_here, List.takeWhile_cons_of_neg skipped]
        exact givesAt_pure _ s

section

variable (c : Cut)

/-- The first loop finds where a widened cut begins. -/
theorem back_widen : back c.text 0 (fun x => !Cut.mayPrecede x) (c.text.length + 1)
    c.before.length = pure c.widen.before.length := by
  have parts : c.text = [] ++ (c.before ++ (c.inside ++ c.after)) := by simp [Cut.text]
  have enough : c.before.length < c.text.length + 1 := by
    rw [parts]
    simp only [List.nil_append, List.length_append]
    omega
  have moved := back_eq (fun x => !Cut.mayPrecede x) parts (Nat.zero_add _).symm rfl enough
  simpa [Cut.widen] using moved

/-- The second loop finds where a widened cut ends. -/
theorem forth_widen (fits : ¬large → c.text.length < UInt64.size) (s : σ) :
    (forth c.text c.text.length (fun x => !Cut.mayFollow x) (c.text.length + 1)
      (c.before.length + c.inside.length)).GivesAt large
      (pure (c.widen.before.length + c.widen.inside.length)) s := by
  have parts : c.text = (c.before ++ c.inside) ++ (c.after ++ []) := by simp [Cut.text]
  have size : c.text.length = (c.before ++ c.inside).length + c.after.length := by
    rw [Cut.text, List.length_append]
  have moved := givesAt_forth (fun x => !Cut.mayFollow x) parts List.length_append.symm size
    (by omega : c.after.length < c.text.length + 1) fits s
  have whole := congrArg List.length
    (@List.takeWhile_append_dropWhile _ (fun x => !Cut.mayPrecede x) c.before.reverse)
  rw [List.length_append, List.length_reverse] at whole
  convert moved using 2
  simp only [Cut.widen, List.length_append, List.length_reverse]
  omega

/-- The third loop finds where a narrowed cut begins. -/
theorem forth_narrow (fits : ¬large → c.text.length < UInt64.size) (s : σ) :
    (forth c.text (c.before.length + c.inside.length) (· == ' ') (c.text.length + 1)
      c.before.length).GivesAt large (pure c.narrow.before.length) s := by
  have parts : c.text = c.before ++ (c.inside ++ c.after) := List.append_assoc _ _ _
  have enough : c.inside.length < c.text.length + 1 := by simp [parts]; omega
  have moved := givesAt_forth (· == ' ') parts rfl rfl enough fits s
  simpa [Cut.narrow] using moved

/-- The fourth loop finds where a narrowed cut ends. -/
theorem back_narrow : back c.text c.narrow.before.length (· == ' ') (c.text.length + 1)
    (c.before.length + c.inside.length) =
      pure (c.narrow.before.length + c.narrow.inside.length) := by
  have whole := @List.takeWhile_append_dropWhile _ (· == ' ') c.inside
  have parts : c.text = c.narrow.before ++ (c.inside.dropWhile (· == ' ') ++ c.after) := by
    rw [← List.append_assoc, Cut.narrow, List.append_assoc c.before, whole, Cut.text]
  have stop : c.before.length + c.inside.length =
      c.narrow.before.length + (c.inside.dropWhile (· == ' ')).length := by
    have lengths := congrArg List.length whole
    rw [List.length_append] at lengths
    simp only [Cut.narrow, List.length_append]
    omega
  have enough : (c.inside.dropWhile (· == ' ')).length < c.text.length + 1 := by
    simp [parts]
    omega
  have moved := back_eq (· == ' ') parts stop rfl enough
  simpa [Cut.narrow] using moved

/-- Between the two positions of a cut, parentheses are put around what remains of the cut. -/
theorem givesAt_enclose {bytes : Nat} (fits : ¬large → c.text.length < UInt64.size)
    (room : ¬large → bytes + 2 < UInt64.size) (s : σ) :
    (enclose c.text bytes c.before.length (c.before.length + c.inside.length)).GivesAt large
      (pure c.widen.narrow.bracketed) s := by
  rw [enclose, back_widen, pure_bind]
  refine (forth_widen c fits s).after ?_
  -- from here on the text is that of the widened cut, and then of the narrowed one
  rw [← c.text_widen] at fits ⊢
  refine (forth_narrow _ fits s).after ?_
  rw [back_narrow, pure_bind, ← c.widen.text_narrow]
  generalize c.widen.narrow = n
  by_cases empty : n.inside = []
  · rw [if_pos (by simp [empty]), Cut.bracketed, if_pos (by simp [empty])]
    exact givesAt_pure _ s
  · have some_char := List.length_pos_iff.2 empty
    have parts : n.text = n.before ++ (n.inside ++ n.after) := List.append_assoc _ _ _
    have before : slice n.text 0 n.before.length = pure n.before :=
      slice_eq (a := []) parts rfl (Nat.zero_add _).symm
    have inside : slice n.text n.before.length (n.before.length + n.inside.length) =
        pure n.inside := slice_eq parts rfl rfl
    have after : slice n.text (n.before.length + n.inside.length) n.text.length = pure n.after :=
      slice_eq (a := n.before ++ n.inside) (c := []) (by simp [parts]) (by simp)
        (by simp [parts, Nat.add_assoc])
    rw [if_neg (by omega), Cut.bracketed, if_neg (by simpa using empty)]
    refine (givesAt_add room s).after ?_
    rw [before, pure_bind, inside, pure_bind, after, pure_bind]
    exact givesAt_pure _ s

end

/-- Parentheses are put into a text without a trap.  Both its characters and its bytes count. -/
theorem givesAt_bracket {t : Text} {bytes : Nat} (fits : ¬large → t.length < 2 ^ 63)
    (room : ¬large → bytes + 2 < UInt64.size) (s : σ) :
    (bracket t bytes).GivesAt large (ArithDrill.bracket t) s := by
  have size : UInt64.size = 2 ^ 64 := rfl
  rw [bracket, ArithDrill.bracket]
  by_cases single : t.length < 2
  · rw [if_pos single, if_pos single]
    exact givesAt_pure t s
  · rw [if_neg single, if_neg single]
    refine (givesAt_number (Nat.zero_le _) s).bind (Draw.always_count (Nat.zero_le _))
      fun start s range => ?_
    rw [sub_eq (by omega), pure_bind]
    refine (givesAt_number (Nat.le_max_right _ _) s).bind (Draw.always_count (Nat.le_max_right _ _))
      fun extent s far => ?_
    refine (givesAt_add (fun small => ?_) s).after ?_
    · have := fits small
      omega
    have order : start ≤ min (start + extent) t.length := by omega
    have within : min (start + extent) t.length ≤ t.length := Nat.min_le_right _ _
    generalize min (start + extent) t.length = stop at order within
    have parts := Cut.text_ofPositions t order
    have short (small : ¬large) : (Cut.ofPositions t start stop).text.length < UInt64.size := by
      have := fits small
      rw [parts]
      omega
    have enclosed := givesAt_enclose (Cut.ofPositions t start stop) short room s
    have before : (Cut.ofPositions t start stop).before.length = start := by
      simp [Cut.ofPositions]
      omega
    have inside : (Cut.ofPositions t start stop).inside.length = stop - start := by
      simp [Cut.ofPositions]
      omega
    rw [parts, before, inside, Nat.add_sub_cancel' order] at enclosed
    exact enclosed

/-! ## Candidates -/

/-- Chains are drawn without a trap. -/
theorem givesAt_chain (bound maxOps : Nat) (s : σ) :
    (chain bound maxOps).GivesAt large (Chain.draw bound maxOps) s := by
  refine (givesAt_number (Nat.le_max_right _ _) s).andThen fun k s => ?_
  -- the first number stands apart from the others in a chain
  rw [replicate, bind_assoc]
  refine (givesAt_literal bound s).andThen fun first s => ?_
  rw [bind_assoc]
  refine (givesAt_replicate (givesAt_literal bound) k s).andThen fun others s => ?_
  rw [pure_bind]
  refine (givesAt_replicate givesAt_op k s).andThen fun ops s => ?_
  rw [get_eq List.getElem?_cons_zero, pure_bind, slice_tail, pure_bind]
  exact givesAt_pure _ s

/-- Candidates are drawn without a trap, unless the text of the chain is too large. -/
theorem givesAt_candidate {bound maxOps : Nat} {s : σ}
    (fits : ¬large → ((Chain.draw bound maxOps).run s).1.render.length < 2 ^ 63) :
    (candidate bound maxOps).GivesAt large (ArithDrill.candidate bound maxOps) s := by
  rw [candidate, ArithDrill.candidate, Sketch.draw, LawfulMonad.bind_assoc]
  refine (givesAt_chain bound maxOps s).seq ?_
  generalize ((Chain.draw bound maxOps).run s).1 = c at fits
  generalize ((Chain.draw bound maxOps).run s).2 = s
  refine GivesAt.andThen ?_ fun sketch s => givesAt_pure sketch.exercise? s
  rw [complete]
  split
  · refine (givesAt_lift (Draw.toss _) s).andThen fun heads s => ?_
    cases heads with
    | true =>
      exact (givesAt_bracket fits (fun small => Chain.byteLength_render_lt (fits small)) s).andThen
        fun text s => givesAt_pure _ s
    | false => exact givesAt_pure _ s
  · exact givesAt_pure _ s

end Guarded

end ArithDrill
