import ArithDrill.Exercise.Bracket
import ArithDrill.Proofs.Outcomes
import ArithDrill.Proofs.Spacing
import Mathlib.Data.List.TakeWhile

/-!
# Parentheses around a part of a line

Widening and narrowing leave a cut that begins and ends beside a space, an operator or a
parenthesis, and whose middle part has no space at its ends.  In a line with single spaces such
a cut lies between tokens, so the parentheses are the only tokens that are new.

## Main definitions

* `Cut.Clean` — a cut whose ends lie where parentheses may stand.

## Main statements

* `Cut.clean_narrow_widen` — the two corrections make every cut clean.
* `always_bracket` — the only change to a text is a pair of parentheses around a clean cut.
* `Cut.Clean.exists_scan_bracketed` — the tokens of a line with a pair of parentheses in it.
-/

namespace ArithDrill

namespace Cut

open Text Token

/-- A cut whose ends lie where parentheses may stand, with no space inside of them. -/
structure Clean (c : Cut) : Prop where
  /-- An opening parenthesis may follow the part before. -/
  before : ∀ x ∈ c.before.getLast?, mayPrecede x = true
  /-- A closing parenthesis may precede the part after. -/
  after : ∀ x ∈ c.after.head?, mayFollow x = true
  /-- The part between does not begin with a space. -/
  first : ∀ x ∈ c.inside.head?, x ≠ ' '
  /-- The part between does not end with a space. -/
  last : ∀ x ∈ c.inside.getLast?, x ≠ ' '

/-- What is left after dropping begins with a character that was not to be dropped. -/
private theorem head?_dropWhile {p : Char → Bool} {t : Text} {x : Char}
    (h : x ∈ (t.dropWhile p).head?) : p x = false := by
  have stops := List.head?_dropWhile_not p t
  rw [Option.mem_def.1 h] at stops
  exact stops

/-- What has been taken consists of characters that were to be taken. -/
private theorem eq_space_of_mem_takeWhile {t : Text} {x : Char}
    (h : x ∈ t.takeWhile (· == ' ')) : x = ' ' :=
  by simpa using List.mem_takeWhile_imp h

/-- After widening parentheses may stand at both ends. -/
theorem mayPrecede_widen (c : Cut) : ∀ x ∈ c.widen.before.getLast?, mayPrecede x = true := by
  intro x hx
  rw [widen, List.getLast?_reverse] at hx
  simpa using head?_dropWhile hx

theorem mayFollow_widen (c : Cut) : ∀ x ∈ c.widen.after.head?, mayFollow x = true := by
  intro x hx
  simpa using head?_dropWhile hx

/-- Widening and then narrowing makes every cut clean. -/
theorem clean_narrow_widen (c : Cut) : c.widen.narrow.Clean where
  before := by
    intro x hx
    rw [narrow, List.getLast?_append] at hx
    rcases Option.or_eq_some_iff.1 hx with space | ⟨-, before⟩
    · rw [eq_space_of_mem_takeWhile (List.mem_of_getLast? space)]
      decide
    · exact mayPrecede_widen c x before
  after := by
    intro x hx
    rw [narrow, List.head?_append] at hx
    rcases Option.or_eq_some_iff.1 hx with space | ⟨-, after⟩
    · have taken := List.mem_reverse.1 (List.mem_of_head? space)
      rw [eq_space_of_mem_takeWhile taken]
      decide
    · exact mayFollow_widen c x after
  first := by
    intro x hx
    -- dropping from the end does not change where the middle part begins
    have start : x ∈ (c.widen.inside.dropWhile (· == ' ')).head? := by
      have parts := @List.takeWhile_append_dropWhile _ (· == ' ')
        (c.widen.inside.dropWhile (· == ' ')).reverse
      rw [← List.reverse_inj, List.reverse_append, List.reverse_reverse] at parts
      rw [← parts, List.head?_append]
      exact Option.or_eq_some_iff.2 (.inl hx)
    simpa using head?_dropWhile start
  last := by
    intro x hx
    rw [narrow, List.getLast?_reverse] at hx
    simpa using head?_dropWhile hx

end Cut

/-- What is put in parentheses comes from a cut that begins in the first half of the text and
covers two characters, if there are so many. -/
theorem always_bracket_cut {t : Text} (long : 2 ≤ t.length) :
    (bracket t).Always fun u => ∃ start stop,
      start ≤ t.length / 2 ∧ min (start + 2) t.length ≤ stop ∧ stop ≤ t.length ∧
        u = (Cut.ofPositions t start stop).widen.narrow.bracketed := by
  rw [bracket, if_neg (by omega)]
  refine Draw.always_bind (Draw.always_count (Nat.zero_le _)) fun start range => ?_
  refine Draw.always_bind (Draw.always_count (Nat.le_max_right _ _)) fun extent far => ?_
  exact ⟨start, min (start + extent) t.length, range.2, by omega, by omega, rfl⟩

/-- The only change to a text is a pair of parentheses around the middle of a clean cut. -/
theorem always_bracket (t : Text) :
    (bracket t).Always fun u => u = t ∨
      ∃ c : Cut, c.Clean ∧ c.text = t ∧ c.inside ≠ [] ∧ u = c.bracketed := by
  by_cases long : 2 ≤ t.length
  · refine (always_bracket_cut long).mono ?_
    rintro _ ⟨start, stop, range, far, within, rfl⟩
    have whole : (Cut.ofPositions t start stop).widen.narrow.text = t := by
      rw [Cut.text_narrow, Cut.text_widen, Cut.text_ofPositions t (by omega)]
    by_cases empty : (Cut.ofPositions t start stop).widen.narrow.inside = []
    · left
      rw [Cut.bracketed, if_pos (by simpa using empty), whole]
    · exact .inr ⟨_, Cut.clean_narrow_widen _, whole, empty, rfl⟩
  · rw [bracket, if_pos (by omega)]
    exact .inl rfl

namespace Cut

open Text Token

/-! ## Parentheses in a line with single spaces -/

/-- No parenthesis is put right beside a character of a number, but on the other side. -/
theorem mayPrecede_of_isNumberChar {x : Char} (h : isNumberChar x = true) :
    mayPrecede x = false := by
  rw [Bool.eq_false_iff]
  intro precedes
  have : x = ' ' ∨ x = '+' ∨ x = '-' ∨ x = '×' ∨ x = '÷' ∨ x = '(' := by
    simpa [mayPrecede] using precedes
  rcases this with rfl | rfl | rfl | rfl | rfl | rfl <;> exact absurd h (by decide)

theorem mayFollow_of_isNumberChar {x : Char} (h : isNumberChar x = true) :
    mayFollow x = false := by
  rw [Bool.eq_false_iff]
  intro follows
  have : x = ' ' ∨ x = '+' ∨ x = '-' ∨ x = '×' ∨ x = '÷' ∨ x = ')' := by
    simpa [mayFollow] using follows
  rcases this with rfl | rfl | rfl | rfl | rfl | rfl <;> exact absurd h (by decide)

variable {c : Cut} {ts : List Token}

/-- The middle part of a clean cut begins with a token. -/
theorem Clean.exists_before (clean : c.Clean) (whole : ∀ t ∈ ts, t.Whole)
    (some_char : c.inside ≠ []) (parts : render ts = c.before ++ (c.inside ++ c.after)) :
    ∃ xs ys, ts = xs ++ ys ∧ (c.before = [] ∧ xs = [] ∨ c.before = render xs ++ [' ']) ∧
      c.inside ++ c.after = render ys := by
  by_cases start : c.before = []
  · exact ⟨[], ts, rfl, .inl ⟨start, rfl⟩, by rw [parts, start, List.nil_append]⟩
  · have head : (c.inside ++ c.after).head? = c.inside.head? :=
      List.head?_append_of_ne_nil _ some_char
    rcases render_eq_append whole start (by simp [some_char]) parts with
      ⟨xs, ys, -, -, -, hb⟩ | ⟨xs, ys, hts, -, ha, hb⟩ | ⟨x, y, hx, -, digit, -⟩
    · have space : ' ' ∈ c.inside.head? := by
        rw [← head, hb]
        rfl
      exact absurd rfl (clean.first ' ' space)
    · exact ⟨xs, ys, hts, .inr ha, hb⟩
    · have precedes := clean.before x hx
      rw [mayPrecede_of_isNumberChar digit] at precedes
      exact absurd precedes (by decide)

/-- The middle part of a clean cut ends with a token. -/
theorem Clean.exists_after (clean : c.Clean) (whole : ∀ t ∈ ts, t.Whole) (some_char : c.inside ≠ [])
    (parts : render ts = c.inside ++ c.after) :
    ∃ xs ys, ts = xs ++ ys ∧ c.inside = render xs ∧
      (c.after = [] ∧ ys = [] ∨ c.after = ' ' :: render ys) := by
  by_cases stop : c.after = []
  · exact ⟨ts, [], by simp, by rw [parts, stop, List.append_nil], .inl ⟨stop, rfl⟩⟩
  · rcases render_eq_append whole some_char stop parts with
      ⟨xs, ys, hts, -, ha, hb⟩ | ⟨xs, ys, -, -, ha, -⟩ | ⟨x, y, -, hy, -, digit⟩
    · exact ⟨xs, ys, hts, ha, .inr hb⟩
    · have space : ' ' ∈ c.inside.getLast? := by
        rw [ha]
        simp
      exact absurd rfl (clean.last ' ' space)
    · have follows := clean.after y hy
      rw [mayFollow_of_isNumberChar digit] at follows
      exact absurd follows (by decide)

/-- A clean cut of a line with single spaces lies between tokens. -/
theorem Clean.exists_tokens (clean : c.Clean) (whole : ∀ t ∈ ts, t.Whole)
    (some_char : c.inside ≠ []) (parts : c.text = render ts) :
    ∃ xs ys zs, ts = xs ++ (ys ++ zs) ∧ (c.before = [] ∧ xs = [] ∨ c.before = render xs ++ [' ']) ∧
      c.inside = render ys ∧ (c.after = [] ∧ zs = [] ∨ c.after = ' ' :: render zs) := by
  rw [Cut.text, List.append_assoc] at parts
  obtain ⟨xs, us, rfl, before, rest⟩ := clean.exists_before whole some_char parts.symm
  have later : ∀ t ∈ us, t.Whole := fun t ht => whole t (List.mem_append_right xs ht)
  obtain ⟨ys, zs, rfl, inside, after⟩ := clean.exists_after later some_char rest.symm
  exact ⟨xs, ys, zs, rfl, before, inside, after⟩

/-- Parentheses that stand between tokens are scanned between these tokens. -/
theorem scan_bracketed {xs ys zs : List Token} (apart : Apart (xs ++ (ys ++ zs)))
    (some_char : c.inside ≠ []) (before : c.before = [] ∧ xs = [] ∨ c.before = render xs ++ [' '])
    (inside : c.inside = render ys) (after : c.after = [] ∧ zs = [] ∨ c.after = ' ' :: render zs) :
    scan c.bracketed = xs ++ openParen :: (ys ++ closeParen :: zs) := by
  have first : c.before.compact = xs.flatMap Token.text := by
    have whole : ∀ t ∈ xs, t.Whole := fun t ht => apart.whole t (by simp [ht])
    rcases before with ⟨nothing, rfl⟩ | line
    · rw [nothing]
      rfl
    · rw [line, compact_append, compact_render whole, compact_space_cons]
      exact List.append_nil _
  have middle : c.inside.compact = ys.flatMap Token.text := by
    have whole : ∀ t ∈ ys, t.Whole := fun t ht => apart.whole t (by simp [ht])
    rw [inside, compact_render whole]
  have last : c.after.compact = zs.flatMap Token.text := by
    have whole : ∀ t ∈ zs, t.Whole := fun t ht => apart.whole t (by simp [ht])
    rcases after with ⟨nothing, rfl⟩ | line
    · rw [nothing]
      rfl
    · rw [line, compact_space_cons, compact_render whole]
  have texts : c.bracketed.compact
      = (xs ++ openParen :: (ys ++ closeParen :: zs)).flatMap Token.text := by
    rw [bracketed, if_neg (by simpa using some_char), compact_append, first,
      compact_cons_of_isTokenChar (by decide), compact_append, middle,
      compact_cons_of_isTokenChar (by decide), last]
    simp [Token.text]
  have still_apart : Apart (xs ++ openParen :: (ys ++ closeParen :: zs)) := by
    have opened : Apart (xs ++ openParen :: ys ++ zs) := by
      simpa using apart.insert whole_openParen rfl
    simpa using opened.insert whole_closeParen rfl
  rw [scan_eq_scanFrom, texts, scanFrom_texts still_apart]

/-- The tokens of a line with a pair of parentheses in it are those of the line and the
parentheses. -/
theorem Clean.exists_scan_bracketed (clean : c.Clean) (apart : Apart ts) (some_char : c.inside ≠ [])
    (parts : c.text = render ts) :
    ∃ xs ys zs, ts = xs ++ (ys ++ zs) ∧
      scan c.bracketed = xs ++ openParen :: (ys ++ closeParen :: zs) := by
  obtain ⟨xs, ys, zs, rfl, before, inside, after⟩ :=
    clean.exists_tokens apart.whole some_char parts
  exact ⟨xs, ys, zs, rfl, scan_bracketed apart some_char before inside after⟩

end Cut

end ArithDrill
