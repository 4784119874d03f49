import ArithDrill.Proofs.Chains

/-!
# Where parentheses are put

Seen from outside, a text with a pair of parentheses in it is told by two positions: the one
before which the opening parenthesis stands and the one before which the closing one stands.  In
any text they stand beside a space, an operator, another parenthesis or an end, and never inside
of a space.  In the line of a chain they stand beside spaces and ends only, so that every number
stays in one piece, and there always is a pair: any two characters of such a line that are
neighbours have one that is no space, and this one survives the narrowing.

## Main definitions

* `Encloses` — a text is another one with a pair of parentheses at two positions.

## Main statements

* `Cut.Clean.encloses` — the positions of a clean cut.
* `always_encloses`, `Chain.always_encloses` — what is drawn, for any text and for a chain.
* `bracket_encloses` — the same for every source of words, with the tokens of the result.
-/

namespace ArithDrill

open Token

/-! ## Positions -/

/-- The text `u` is `t` with a pair of parentheses, an opening one before the character at
`start` and a closing one before the character at `stop`. -/
structure Encloses (t u : Text) (start stop : Nat) : Prop where
  /-- There is something between the parentheses. -/
  lt : start < stop
  /-- The closing parenthesis stands at the end at the latest. -/
  le : stop ≤ t.length
  /-- Nothing but the parentheses is new, and nothing is lost. -/
  eq : u = t.take start ++ '(' :: ((t.take stop).drop start ++ ')' :: t.drop stop)
  /-- What stands between them does not begin with a space. -/
  first : t[start]? ≠ some ' '
  /-- What stands between them does not end with a space. -/
  last : t[stop - 1]? ≠ some ' '
  /-- The opening parenthesis stands at the beginning or after a space, an operator or an opening
  parenthesis. -/
  opens : start = 0 ∨ ∃ c ∈ [' ', '+', '-', '×', '÷', '('], t[start - 1]? = some c
  /-- The closing parenthesis stands at the end or before a space, an operator or a closing
  parenthesis. -/
  closes : stop = t.length ∨ ∃ c ∈ [' ', '+', '-', '×', '÷', ')'], t[stop]? = some c

/-- Parentheses make a text longer. -/
theorem Encloses.ne {t u : Text} {start stop : Nat} (h : Encloses t u start stop) : u ≠ t := by
  have within := h.le
  have before := h.lt
  intro same
  have longer := congrArg List.length h.eq
  simp only [same, List.length_append, List.length_cons, List.length_take, List.length_drop]
    at longer
  omega

namespace Cut

variable {c : Cut}

/-- The last character before a position. -/
private theorem getElem?_length_sub_one (a b : Text) (some_char : a ≠ []) :
    (a ++ b)[a.length - 1]? = a.getLast? := by
  have pos := List.length_pos_iff.2 some_char
  rw [List.getElem?_append_left (by omega), List.getLast?_eq_getElem?]

/-- The first character at a position. -/
private theorem getElem?_length (a b : Text) : (a ++ b)[a.length]? = b.head? := by
  rw [List.getElem?_append_right (Nat.le_refl _), Nat.sub_self, List.head?_eq_getElem?]

/-- The parentheses of a clean cut stand before and after its middle part. -/
theorem Clean.encloses (clean : c.Clean) (some_char : c.inside ≠ []) :
    Encloses c.text c.bracketed c.before.length (c.before.length + c.inside.length) := by
  have pos := List.length_pos_iff.2 some_char
  have stop : c.before.length + c.inside.length = (c.before ++ c.inside).length := by simp
  constructor
  · omega
  · simp [text]
  · rw [bracketed, if_neg (by simpa using some_char), text, stop, List.take_left, List.drop_left,
      List.drop_left, List.append_assoc, List.take_left]
  · rw [text, List.append_assoc, getElem?_length, List.head?_append_of_ne_nil _ some_char]
    exact fun space => clean.first ' ' space rfl
  · rw [text, stop, getElem?_length_sub_one _ _ (by simp [some_char]),
      List.getLast?_append_of_ne_nil _ some_char]
    exact fun space => clean.last ' ' space rfl
  · by_cases start : c.before = []
    · exact .inl (by simp [start])
    · obtain ⟨x, last⟩ := Option.ne_none_iff_exists'.1 (mt List.getLast?_eq_none_iff.1 start)
      refine .inr ⟨x, List.contains_iff_mem.1 (clean.before x last), ?_⟩
      rw [text, List.append_assoc, getElem?_length_sub_one _ _ start, last]
  · by_cases ends : c.after = []
    · exact .inl (by simp [text, ends])
    · obtain ⟨x, first⟩ := Option.ne_none_iff_exists'.1 (mt List.head?_eq_none_iff.1 ends)
      refine .inr ⟨x, List.contains_iff_mem.1 (clean.after x first), ?_⟩
      rw [text, stop, getElem?_length, first]

/-! ## What survives widening and narrowing -/

/-- What is not to be dropped is not dropped. -/
private theorem mem_dropWhile {p : Char → Bool} {t : Text} {x : Char} (hx : x ∈ t)
    (stays : p x = false) : x ∈ t.dropWhile p := by
  rw [← @List.takeWhile_append_dropWhile _ p t, List.mem_append] at hx
  rcases hx with taken | dropped
  · rw [List.mem_takeWhile_imp taken] at stays
    cases stays
  · exact dropped

/-- A character of the middle part that is no space stays there. -/
theorem mem_inside_narrow_widen {x : Char} (hx : x ∈ c.inside) (no_space : x ≠ ' ') :
    x ∈ c.widen.narrow.inside := by
  have wide : x ∈ c.widen.inside := by simp [widen, hx]
  have stays : (x == ' ') = false := by simpa using no_space
  exact List.mem_reverse.2 (mem_dropWhile (List.mem_reverse.2 (mem_dropWhile wide stays)) stays)

end Cut

/-- What is drawn is the text as it was, or the text with a pair of parentheses in it. -/
theorem always_encloses (t : Text) :
    (bracket t).Always fun u => u = t ∨ ∃ start stop, Encloses t u start stop := by
  refine (always_bracket t).mono ?_
  rintro u (same | ⟨c, clean, rfl, some_char, rfl⟩)
  · exact .inl same
  · exact .inr ⟨_, _, clean.encloses some_char⟩

/-! ## Lines with single spaces -/

namespace Token

variable {ts : List Token}

theorem Whole.text_ne_nil {t : Token} (h : t.Whole) : t.text ≠ [] := by
  cases t with
  | number x => exact h.1
  | op o => simp [text]
  | openParen => simp [text]
  | closeParen => simp [text]

theorem Whole.ne_space {t : Token} (h : t.Whole) {c : Char} (hc : c ∈ t.text) : c ≠ ' ' := by
  rintro rfl
  exact absurd (h.isTokenChar_of_mem_text hc) (by decide)

/-- A line begins with a token. -/
theorem head?_render_ne_space (h : ∀ t ∈ ts, t.Whole) : (render ts).head? ≠ some ' ' := by
  cases ts with
  | nil => simp
  | cons t us =>
    have first : t.Whole := h t (by simp)
    have begins : (render (t :: us)).head? = t.text.head? := by
      cases us with
      | nil => rw [render_singleton]
      | cons u vs => rw [render_cons_cons, List.head?_append_of_ne_nil _ first.text_ne_nil]
    rw [begins]
    exact fun space => first.ne_space (List.mem_of_head? space) rfl

/-- No two spaces of a line are neighbours. -/
theorem isChain_render (h : ∀ t ∈ ts, t.Whole) :
    (render ts).IsChain fun c d => c = ' ' → d ≠ ' ' := by
  induction ts with
  | nil => exact .nil
  | cons t us ih =>
    have first : t.Whole := h t (by simp)
    have later : ∀ u ∈ us, u.Whole := fun u hu => h u (List.mem_cons_of_mem t hu)
    have own : t.text.Pairwise fun c d => c = ' ' → d ≠ ' ' :=
      List.pairwise_of_forall_mem_list fun c hc _ _ space => absurd space (first.ne_space hc)
    by_cases last : us = []
    · rw [last, render_singleton]
      exact own.isChain
    · rw [render_cons t last]
      refine own.isChain.append ?_ ?_
      · refine List.isChain_cons.2 ⟨fun d hd _ space => ?_, ih later⟩
        exact head?_render_ne_space later (space ▸ hd)
      · intro c hc _ _ space
        exact absurd space (first.ne_space (List.mem_of_getLast? hc))

end Token

namespace Chain

variable {c : Chain}

/-- A chain with an operator in it has five characters at least. -/
theorem five_le_length_render (some_op : c.rest ≠ []) : 5 ≤ c.render.length := by
  obtain ⟨p, ps, rest⟩ := List.exists_cons_of_ne_nil some_op
  have first := List.length_pos_iff.2 c.first.render_ne_nil
  have second := List.length_pos_iff.2 p.2.render_ne_nil
  simp only [render, rest, List.flatMap_cons, List.length_append, List.length_cons]
  omega

/-- Of two neighbouring characters that are not both spaces, one is no space. -/
private theorem exists_mem_ne_space {t : Text} (long : 2 ≤ t.length)
    (spaced : t.IsChain fun c d => c = ' ' → d ≠ ' ') : ∃ x ∈ t, x ≠ ' ' := by
  rcases t with _ | ⟨x, _ | ⟨y, zs⟩⟩
  · simp at long
  · simp at long
  · by_cases space : x = ' '
    · exact ⟨y, by simp, (List.isChain_cons_cons.1 spaced).1 space⟩
    · exact ⟨x, by simp, space⟩

/-- Two neighbouring characters of a chain are not both spaces, and so there is something to put
in parentheses wherever the draw falls. -/
theorem exists_mem_inside_ofPositions {start stop : Nat} (far : start + 2 ≤ stop)
    (within : stop ≤ c.render.length) :
    ∃ x ∈ (Cut.ofPositions c.render start stop).inside, x ≠ ' ' := by
  have spaced := isChain_render c.apart_tokens.whole
  rw [← c.render_eq] at spaced
  have part : (c.render.take stop).drop start <:+: c.render :=
    (List.drop_suffix _ _).isInfix.trans (List.take_prefix _ _).isInfix
  have long : 2 ≤ ((c.render.take stop).drop start).length := by
    rw [List.length_drop, List.length_take]
    omega
  have here := spaced.infix part
  exact exists_mem_ne_space long here

/-- What is drawn for a chain with an operator in it is always the chain with a pair of
parentheses between its tokens. -/
theorem always_bracket_render (some_op : c.rest ≠ []) :
    (bracket c.render).Always fun u =>
      ∃ cut : Cut, cut.Clean ∧ cut.text = c.render ∧ cut.inside ≠ [] ∧ u = cut.bracketed := by
  have long := five_le_length_render some_op
  refine (always_bracket_cut (by omega)).mono ?_
  rintro _ ⟨start, stop, range, far, within, rfl⟩
  obtain ⟨x, hx, no_space⟩ := @exists_mem_inside_ofPositions c start stop (by omega) within
  refine ⟨_, Cut.clean_narrow_widen _, ?_, ?_, rfl⟩
  · rw [Cut.text_narrow, Cut.text_widen, Cut.text_ofPositions _ (by omega)]
  · exact List.ne_nil_of_mem (Cut.mem_inside_narrow_widen hx no_space)

/-- The line `u` is a chain with a pair of parentheses between its tokens. -/
structure Bracketed (c : Chain) (u : Text) (start stop : Nat) : Prop
    extends Encloses c.render u start stop where
  /-- Before the opening parenthesis stands nothing or a space. -/
  before : start = 0 ∨ c.render[start - 1]? = some ' '
  /-- After the closing parenthesis stands nothing or a space. -/
  after : stop = c.render.length ∨ c.render[stop]? = some ' '
  /-- The parentheses are the only new tokens, and there is a token between them. -/
  tokens : ∃ xs ys zs, scan c.render = xs ++ (ys ++ zs) ∧ ys ≠ [] ∧
    scan u = xs ++ openParen :: (ys ++ closeParen :: zs)
  /-- The numbers are those of the chain. -/
  numbers : (scan u).filter isNumber = c.numbers.map fun l => number l.render

/-- The number tokens of a chain are its numbers. -/
theorem filter_isNumber_tokens (c : Chain) :
    c.tokens.filter isNumber = c.numbers.map fun l => number l.render := by
  rw [← List.filterMap_eq_filter, filterMap_tokens, numbers, List.map_cons, List.map_map,
    List.map_eq_flatMap]
  rfl

/-- A clean cut of a chain puts its parentheses between tokens. -/
theorem bracketed_of_clean {cut : Cut} (clean : cut.Clean) (parts : cut.text = c.render)
    (some_char : cut.inside ≠ []) :
    c.Bracketed cut.bracketed cut.before.length (cut.before.length + cut.inside.length) := by
  have line : cut.text = Token.render c.tokens := by rw [parts, c.render_eq]
  obtain ⟨xs, ys, zs, cuts, before, inside, after⟩ :=
    clean.exists_tokens c.apart_tokens.whole some_char line
  have apart : Apart (xs ++ (ys ++ zs)) := cuts ▸ c.apart_tokens
  have scanned := Cut.scan_bracketed apart some_char before inside after
  have tokens : scan c.render = xs ++ (ys ++ zs) := by
    rw [c.render_eq, scan_render c.apart_tokens, cuts]
  have encloses := clean.encloses some_char
  rw [parts] at encloses
  refine ⟨encloses, ?_, ?_, ⟨xs, ys, zs, tokens, ?_, scanned⟩, ?_⟩
  · rcases before with ⟨nothing, -⟩ | space
    · exact .inl (by simp [nothing])
    · refine .inr ?_
      rw [← parts, Cut.text, List.append_assoc,
        Cut.getElem?_length_sub_one _ _ (by simp [space]), space]
      simp
  · rcases after with ⟨nothing, -⟩ | space
    · exact .inl (by simp [← parts, Cut.text, nothing])
    · refine .inr ?_
      rw [← parts, Cut.text, ← List.length_append, Cut.getElem?_length, space]
      rfl
  · rintro rfl
    exact some_char inside
  · rw [scanned, ← filter_isNumber_tokens, cuts]
    simp [isNumber]

end Chain

/-- A pair of parentheses never cuts a number.  From any source of words, a text comes back as it
was or with one pair of parentheses, beside a space, an operator, a parenthesis or an end and with
no space directly inside.  A chain with an operator in it always comes back with a pair, between
tokens, so that its numbers and operators are the same as before. -/
theorem bracket_encloses {σ : Type} [WordSource σ] (source : σ) :
    (∀ t : Text, ((bracket t).run source).1 = t ∨
      ∃ start stop, Encloses t ((bracket t).run source).1 start stop) ∧
    ∀ c : Chain, c.rest ≠ [] →
      ∃ start stop, c.Bracketed ((bracket c.render).run source).1 start stop := by
  refine ⟨fun t => Draw.always_run (always_encloses t) source, fun c some_op => ?_⟩
  obtain ⟨cut, clean, parts, some_char, drawn⟩ :=
    Draw.always_run (Chain.always_bracket_render some_op) source
  rw [drawn]
  exact ⟨_, _, Chain.bracketed_of_clean clean parts some_char⟩

/-- From the words `0` and `0x70000000`, the chain `12 + 3/4 × 5` comes back as `(12 + 3/4) × 5`:
the stretch that is drawn ends inside of the fraction and is widened to its end. -/
theorem bracketed_sum :
    let c : Chain := ⟨.whole 12, [(.add, .fraction 3 4), (.mul, .whole 5)]⟩
    let words := CyclicWords.ofList [0, 0x70000000]
    c.rest ≠ [] ∧ ((bracket c.render).run words).1 = "(12 + 3/4) × 5".toList ∧
      ∃ start stop, c.Bracketed "(12 + 3/4) × 5".toList start stop := by
  intro c words
  have some_op : c.rest ≠ [] := by simp [c]
  have drawn : ((bracket c.render).run words).1 = "(12 + 3/4) × 5".toList := by decide
  have bracketed := (bracket_encloses words).2 c some_op
  rw [drawn] at bracketed
  exact ⟨some_op, drawn, bracketed⟩

end ArithDrill
