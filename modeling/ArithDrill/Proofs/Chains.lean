import ArithDrill.Exercise.Sketch
import ArithDrill.Proofs.Brackets
import ArithDrill.Proofs.Lines
import ArithDrill.Proofs.Signs

/-!
# From sketches to exercises

The text of a chain is the line of its tokens.  With a pair of parentheses in it, it still has
the chain's numbers and operators.  Whichever of the two texts a sketch comes to use, its value is
the one that the sketch gives with it, so a sketch is either abandoned or becomes an exercise with
the right answer; it never breaks a run off.

## Main definitions

* `Chain.tokens` — the tokens of a chain.
* `Chain.Writes` — the texts that a sketch of a chain may use.
* `Sketch.Drawn` — what is known of a sketch that has been drawn.

## Main statements

* `Chain.render_eq` — a chain is written with single spaces.
* `Chain.Writes.scan_eq` — the tokens of a text of a chain.
* `attemptAll_eq` — trying texts in turn.
* `Sketch.always_draw` — what is drawn is a chain to order and one of its texts.
* `Sketch.form?_eq` — the text that is used, with its value.
-/

namespace ArithDrill

open Token

/-! ## The tokens of a chain -/

/-- The operator of a token, if it is one. -/
def Token.operator? : Token → Option Op
  | op o => some o
  | _ => none

namespace Chain

/-- The tokens of a chain. -/
def tokens (c : Chain) : List Token :=
  number c.first.render :: c.rest.flatMap fun p => [op p.1, number p.2.render]

/-- A chain is written with single spaces. -/
theorem render_eq (c : Chain) : c.render = Token.render c.tokens := by
  obtain ⟨first, rest⟩ := c
  induction rest generalizing first with
  | nil => simp [render, tokens, Token.text]
  | cons p rest ih =>
    have later := ih p.2
    simp only [render, tokens, List.flatMap_cons, List.cons_append, List.nil_append] at later ⊢
    rw [render_cons_cons, render_cons_cons, ← later]
    simp [Token.text]

theorem whole_number (l : Literal) : (number l.render).Whole :=
  ⟨l.render_ne_nil, fun _ => Literal.isNumberChar_of_mem_render⟩

/-- Between two numbers of a chain there is an operator. -/
theorem apart_tokens (c : Chain) : Apart c.tokens := by
  obtain ⟨first, rest⟩ := c
  induction rest generalizing first with
  | nil => exact ⟨by simpa [tokens] using whole_number first, List.isChain_singleton _⟩
  | cons p rest ih =>
    have later := ih p.2
    have spaced := later.spaced
    simp only [tokens, List.flatMap_cons, List.cons_append, List.nil_append] at later spaced ⊢
    constructor
    · intro t ht
      rcases List.mem_cons.1 ht with rfl | ht
      · exact whole_number first
      · rcases List.mem_cons.1 ht with rfl | ht
        · exact whole_op p.1
        · exact later.whole t ht
    · exact .cons_cons (fun _ => rfl) (.cons_cons (fun number => by cases number) spaced)

/-- The numbers of a chain are the number tokens. -/
theorem exists_of_number_mem_tokens {c : Chain} {t : Text} (h : number t ∈ c.tokens) :
    ∃ l ∈ c.numbers, t = l.render := by
  rcases List.mem_cons.1 h with first | later
  · exact ⟨c.first, by simp [numbers], by simpa using first⟩
  · obtain ⟨p, hp, ht⟩ := List.mem_flatMap.1 later
    refine ⟨p.2, ?_, by simpa using ht⟩
    exact List.mem_cons_of_mem _ (List.mem_map_of_mem hp)

/-- What is read off the tokens of a chain is read off its numbers and operators in turn. -/
theorem filterMap_tokens {α : Type} (f : Token → Option α) (c : Chain) :
    c.tokens.filterMap f = (f (number c.first.render)).toList ++
      c.rest.flatMap fun p => (f (op p.1)).toList ++ (f (number p.2.render)).toList := by
  simp only [tokens, List.filterMap_eq_flatMap_toList, List.flatMap_cons, List.flatMap_assoc,
    List.flatMap_nil, List.append_nil]

/-- The operators of a chain are the operator tokens. -/
theorem filterMap_operator?_tokens (c : Chain) :
    c.tokens.filterMap operator? = c.rest.map Prod.fst := by
  rw [filterMap_tokens, List.map_eq_flatMap]
  rfl

/-- The sign of division occurs in a chain exactly if the chain divides. -/
theorem div_mem_render_iff {c : Chain} : '÷' ∈ c.render ↔ c.divides = true := by
  have number_free (l : Literal) : '÷' ∉ l.render := fun h =>
    absurd (Literal.isNumberChar_of_mem_render h) (by decide)
  have sign (o : Op) : '÷' = o.symbol ↔ o = .div := by cases o <;> decide
  simp [render, divides, number_free, sign]

/-! ## The texts of a chain -/

/-- The texts that a sketch of a chain may use: the chain, or the chain with parentheses around a
part of it. -/
inductive Writes (c : Chain) : Text → Prop where
  /-- The chain as it is. -/
  | plain : Writes c c.render
  /-- The chain with a pair of parentheses. -/
  | bracketed {cut : Cut} (clean : cut.Clean) (parts : cut.text = c.render)
      (some_char : cut.inside ≠ []) : Writes c cut.bracketed

variable {c : Chain} {t : Text}

/-- The characters of a text of a chain are those of the chain and parentheses. -/
theorem Writes.mem_iff (h : Writes c t) {x : Char} (opening : x ≠ '(') (closing : x ≠ ')') :
    x ∈ t ↔ x ∈ c.render := by
  cases h with
  | plain => rfl
  | @bracketed cut clean parts some_char =>
    rw [← parts]
    simp [Cut.bracketed, some_char, Cut.text, opening, closing]

/-- A chain begins with a number. -/
theorem exists_head?_render (c : Chain) : ∃ x ∈ c.render.head?, isNumberChar x = true := by
  obtain ⟨x, xs, first⟩ := List.exists_cons_of_ne_nil c.first.render_ne_nil
  refine ⟨x, by simp [render, first], ?_⟩
  exact @Literal.isNumberChar_of_mem_render c.first x (by simp [first])

/-- A text of a chain begins with a number or an opening parenthesis. -/
theorem Writes.exists_head? (h : Writes c t) : ∃ x ∈ t.head?, isTokenChar x = true := by
  obtain ⟨x, first, digit⟩ := c.exists_head?_render
  cases h with
  | plain => exact ⟨x, first, isTokenChar_of_isNumberChar digit⟩
  | @bracketed cut clean parts some_char =>
    by_cases start : cut.before = []
    · exact ⟨'(', by simp [Cut.bracketed, some_char, start], by decide⟩
    · refine ⟨x, ?_, isTokenChar_of_isNumberChar digit⟩
      rw [← parts, Cut.text, List.append_assoc, List.head?_append_of_ne_nil _ start] at first
      rw [Cut.bracketed, if_neg (by simpa using some_char), List.head?_append_of_ne_nil _ start]
      exact first

/-- A text of a chain with an equals sign after it can stand in a file. -/
theorem Writes.isItem (h : Writes c t) : Text.IsItem (t ++ " =".toList) := by
  obtain ⟨x, first, char⟩ := h.exists_head?
  have begins : (t ++ " =".toList).head? = some x := by
    rw [List.head?_append, Option.mem_def.1 first]
    rfl
  have ends : (t ++ " =".toList).getLast? = some '=' := by
    simp [List.getLast?_append]
  refine Text.isItem_of_ends begins ends (isBlank_of_isTokenChar char) (by decide) ?_
  intro newline
  rcases List.mem_append.1 newline with expression | sign
  · rw [h.mem_iff (by decide) (by decide), c.render_eq] at expression
    rcases eq_space_or_isTokenChar_of_mem_render c.apart_tokens.whole expression with space | char
    · exact absurd space (by decide)
    · exact absurd char (by decide)
  · exact absurd sign (by decide)

/-- The tokens of a text of a chain are those of the chain, with or without a pair of
parentheses. -/
theorem Writes.scan_eq (h : Writes c t) :
    scan t = c.tokens ∨ ∃ xs ys zs, c.tokens = xs ++ (ys ++ zs) ∧
      scan t = xs ++ openParen :: (ys ++ closeParen :: zs) := by
  cases h with
  | plain =>
    left
    rw [c.render_eq, scan_render c.apart_tokens]
  | bracketed clean parts some_char =>
    rw [c.render_eq] at parts
    exact .inr (clean.exists_scan_bracketed c.apart_tokens some_char parts)

/-- A text of a chain has the numbers of the chain. -/
theorem Writes.exists_of_number_mem_scan (h : Writes c t) {x : Text} (hx : number x ∈ scan t) :
    ∃ l ∈ c.numbers, x = l.render := by
  have own : number x ∈ c.tokens := by
    rcases h.scan_eq with same | ⟨xs, ys, zs, tokens, parens⟩
    · rw [← same]
      exact hx
    · rw [parens] at hx
      rw [tokens]
      simpa using hx
  exact exists_of_number_mem_tokens own

/-- What is read off the tokens of a text of a chain, but not off parentheses, is what is read off
the tokens of the chain. -/
theorem Writes.filterMap_scan (h : Writes c t) {α : Type} {f : Token → Option α}
    (opening : f openParen = none) (closing : f closeParen = none) :
    (scan t).filterMap f = c.tokens.filterMap f := by
  rcases h.scan_eq with same | ⟨xs, ys, zs, tokens, parens⟩
  · rw [same]
  · rw [parens, tokens]
    simp [opening, closing]

/-- A text of a chain has the operators of the chain, in the same order. -/
theorem Writes.filterMap_operator?_scan (h : Writes c t) :
    (scan t).filterMap operator? = c.rest.map Prod.fst := by
  rw [h.filterMap_scan rfl rfl, filterMap_operator?_tokens]

end Chain

/-! ## Trying texts -/

/-- A text without a value ends the trying. -/
theorem attemptAll_cons_of_none {t : Text} (h : valueOf? t = none) (ts : List Text) :
    attemptAll (t :: ts) = .ok none := by
  cases ts <;> simp [attemptAll, attempt_eq, h]

/-- After a text with a value the others are tried. -/
theorem attemptAll_cons_of_some {t : Text} {v : Rat} (h : valueOf? t = some v) (u : Text)
    (ts : List Text) : attemptAll (t :: u :: ts) = attemptAll (u :: ts) := by
  rw [attemptAll, attempt_eq, h]
  simp

/-- Texts tried in turn give the value of the last one, if all have a value. -/
theorem attemptAll_eq (ts : List Text) :
    attemptAll ts =
      .ok (if ∀ t ∈ ts, (valueOf? t).isSome then ts.getLast?.bind valueOf? else none) := by
  induction ts with
  | nil => rfl
  | cons t us ih =>
    cases h : valueOf? t with
    | none =>
      rw [attemptAll_cons_of_none h]
      simp [h]
    | some v =>
      cases us with
      | nil => simp [attemptAll, attempt_eq, h]
      | cons u vs =>
        rw [attemptAll_cons_of_some h, ih]
        simp [h]

namespace Chain

/-- The longest beginning of a chain is the chain. -/
theorem getLast?_beginnings {c : Chain} (some_op : 1 ≤ c.rest.length) :
    c.beginnings.getLast? = some c := by
  have last : (List.range' 1 c.rest.length).getLast? = some c.rest.length := by
    rw [List.getLast?_range', if_neg (by omega)]
    congr 1
    omega
  rw [beginnings, List.getLast?_map, last]
  simp [take]

/-- A chain has its value if all its beginnings have one. -/
theorem value?_eq {c : Chain} (some_op : 1 ≤ c.rest.length) :
    c.value? =
      .ok (if ∀ b ∈ c.beginnings, (valueOf? b.render).isSome then valueOf? c.render else none) := by
  rw [value?, attemptAll_eq]
  simp [getLast?_beginnings some_op]

/-- The value of a chain is that of its text. -/
theorem evaluate_render {c : Chain} (some_op : 1 ≤ c.rest.length) {v : Rat}
    (h : c.value? = .ok (some v)) : evaluate c.render = .ok (some v) := by
  rw [value?_eq some_op] at h
  split at h
  · exact valueOf?_eq_some_iff.1 (Except.ok.inj h)
  · simp at h

end Chain

/-! ## Sketches -/

namespace Sketch

/-- What is known of a sketch that has been drawn: a chain to order, and one of its texts if
parentheses were drawn. -/
structure Drawn (bound maxOps : Nat) (s : Sketch) : Prop where
  /-- The chain is to order. -/
  within : s.chain.Within bound maxOps
  /-- The other text is one of the chain. -/
  writes : ∀ t ∈ s.bracketed, s.chain.Writes t

/-- The chain of a sketch has what every chain that is drawn has.  A text with parentheses is drawn
only for more than one operator, and has what all such texts of the chain have. -/
theorem always_draw_of {bound maxOps : Nat} {P : Chain → Prop} {Q : Chain → Text → Prop}
    (chains : (Chain.draw bound maxOps).Always P)
    (texts : ∀ c : Chain, P c → (bracket c.render).Always (Q c)) :
    (draw bound maxOps).Always fun s => P s.chain ∧
      ∀ t ∈ s.bracketed, 1 < s.chain.rest.length ∧ Q s.chain t := by
  refine Draw.always_bind chains fun chain drawn => ?_
  split
  · rename_i more
    refine Draw.always_bind (Draw.always_toss _) fun heads _ => ?_
    split
    · refine Draw.always_bind (texts chain drawn) fun text written => ⟨drawn, fun t ht => ?_⟩
      obtain rfl : text = t := by simpa using ht
      exact ⟨more.2, written⟩
    · exact ⟨drawn, by simp⟩
  · exact ⟨drawn, by simp⟩

/-- What is drawn is a chain to order and one of its texts. -/
theorem always_draw {bound maxOps : Nat} (some_bound : 1 ≤ bound) (some_op : 1 ≤ maxOps) :
    (draw bound maxOps).Always (Drawn bound maxOps) := by
  have texts (c : Chain) : (bracket c.render).Always c.Writes := by
    refine (always_bracket _).mono ?_
    rintro _ (rfl | ⟨cut, clean, parts, some_char, rfl⟩)
    · exact .plain
    · exact .bracketed clean parts some_char
  have chains := Chain.always_draw some_bound some_op
  refine (always_draw_of chains fun c _ => texts c).mono fun s drawn => ?_
  exact ⟨drawn.1, fun t ht => (drawn.2 t ht).2⟩

/-- The text that is used: the one with parentheses if it has a value, else the chain. -/
theorem form?_eq {s : Sketch} {r : Option Rat} (h : s.chain.value? = .ok r) :
    s.form? = .ok (r.map fun v =>
      (s.bracketed.bind fun t => (valueOf? t).map fun w => (t, w)).getD (s.chain.render, v)) := by
  rw [form?, h]
  cases r with
  | none => rfl
  | some v =>
    cases other : s.bracketed with
    | none => simp [bind, Except.bind, pure, Except.pure]
    | some t =>
      cases value : valueOf? t <;>
        simp [attempt_eq, value, bind, Except.bind, pure, Except.pure]

end Sketch

end ArithDrill
