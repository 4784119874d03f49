import ArithDrill.Proofs.Scanning
import Mathlib.Data.List.Chain

/-!
# Lines with single spaces

A list of tokens is written with single spaces between them.  The spaces are gone when the line
is scanned, so the tokens come back as they were if no two numbers are neighbours.  Where such a
line is cut in two, the cut lies beside a space or inside a number.

## Main definitions

* `Token.Whole` — a token that is scanned as one.
* `Token.Apart` — tokens that stay apart when written without spaces.

## Main statements

* `Token.scan_render` — tokens that stay apart are what is scanned from their line.
* `Token.render_eq_append` — the ways of cutting a line in two.
-/

namespace ArithDrill.Token

open Text

/-- A token that is scanned as one: the text of a number is a run of number characters. -/
def Whole : Token → Prop
  | number t => t ≠ [] ∧ ∀ c ∈ t, isNumberChar c = true
  | _ => True

/-- Tokens that stay apart when nothing stands between them. -/
structure Apart (ts : List Token) : Prop where
  /-- Each is scanned as one. -/
  whole : ∀ t ∈ ts, t.Whole
  /-- No number follows a number. -/
  spaced : ts.IsChain fun t u => t.isNumber = true → u.isNumber = false

variable {t : Token} {ts us : List Token}

/-- What is no number may stand anywhere. -/
theorem Apart.insert (h : Apart (ts ++ us)) (whole : t.Whole) (other : t.isNumber = false) :
    Apart (ts ++ t :: us) := by
  obtain ⟨before, after, -⟩ := List.isChain_append.1 h.spaced
  constructor
  · intro u hu
    rcases List.mem_append.1 hu with earlier | later
    · exact h.whole u (List.mem_append_left us earlier)
    · rcases List.mem_cons.1 later with rfl | later
      · exact whole
      · exact h.whole u (List.mem_append_right ts later)
  · have front : (t :: us).IsChain fun t u => t.isNumber = true → u.isNumber = false := by
      refine List.isChain_cons.2 ⟨?_, after⟩
      intro u _ number
      rw [other] at number
      exact absurd number (by decide)
    refine before.append front ?_
    intro u _ v hv _
    rw [List.head?_cons, Option.mem_some_iff] at hv
    rw [← hv]
    exact other

theorem whole_op (o : Op) : (op o).Whole := trivial

theorem whole_openParen : openParen.Whole := trivial

theorem whole_closeParen : closeParen.Whole := trivial

theorem Whole.isTokenChar_of_mem_text (h : t.Whole) {c : Char} (hc : c ∈ t.text) :
    isTokenChar c = true := by
  cases t with
  | number x => exact isTokenChar_of_isNumberChar (h.2 c hc)
  | op o =>
    rw [List.mem_singleton.1 hc]
    exact isTokenChar_symbol o
  | openParen =>
    rw [List.mem_singleton.1 hc]
    decide
  | closeParen =>
    rw [List.mem_singleton.1 hc]
    decide

/-- A token with a character before another one is a number. -/
theorem Whole.isNumberChar_of_text_eq (h : t.Whole) {a b : Text} (left : a ≠ []) (right : b ≠ [])
    (parts : t.text = a ++ b) {c : Char} (hc : c ∈ a ++ b) : isNumberChar c = true := by
  have long : 1 < t.text.length := by
    have := List.length_pos_iff.2 left
    have := List.length_pos_iff.2 right
    rw [parts, List.length_append]
    omega
  cases t with
  | number x =>
    rw [← parts] at hc
    exact h.2 c hc
  | op o => simp [text] at long
  | openParen => simp [text] at long
  | closeParen => simp [text] at long

/-! ## Scanning what was written -/

/-- A number is one token if nothing that follows belongs to it. -/
theorem scanFrom_text_append (h : t.Whole) {rest : Text}
    (ends : t.isNumber = true → ∀ c ∈ rest.head?, isNumberChar c = false) :
    scanFrom [] (t.text ++ rest) = t :: scanFrom [] rest := by
  cases t with
  | number x =>
    cases rest with
    | nil =>
      rw [List.append_nil]
      exact scanFrom_of_isNumberChar h.1 h.2
    | cons c cs =>
      have other : isNumberChar c = false := ends rfl c rfl
      rw [scanFrom_append other, text, scanFrom_of_isNumberChar h.1 h.2]
      rfl
  | op o => exact scanFrom_symbol o rest
  | openParen => exact scanFrom_openParen rest
  | closeParen => exact scanFrom_closeParen rest

/-- Tokens that stay apart are scanned one by one. -/
theorem scanFrom_texts (h : Apart ts) : scanFrom [] (ts.flatMap text) = ts := by
  induction ts with
  | nil => rfl
  | cons t us ih =>
    have later : Apart us :=
      ⟨fun u hu => h.whole u (List.mem_cons_of_mem t hu), h.spaced.of_cons⟩
    have ends : t.isNumber = true → ∀ c ∈ (us.flatMap text).head?, isNumberChar c = false := by
      intro number c hc
      cases us with
      | nil => simp at hc
      | cons u vs =>
        have other : u.isNumber = false := h.spaced.rel number
        cases u with
        | number x => simp [isNumber] at other
        | op o =>
          have first : o.symbol = c := by simpa [text] using hc
          rw [← first]
          exact isNumberChar_symbol o
        | openParen =>
          have first : '(' = c := by simpa [text] using hc
          rw [← first]
          decide
        | closeParen =>
          have first : ')' = c := by simpa [text] using hc
          rw [← first]
          decide
    rw [List.flatMap_cons, scanFrom_text_append (h.whole t (by simp)) ends, ih later]

theorem compact_space_cons (t : Text) : compact (' ' :: t) = compact t :=
  List.filter_cons_of_neg (by decide)

theorem compact_cons_of_isTokenChar {c : Char} (h : isTokenChar c = true) (t : Text) :
    compact (c :: t) = c :: compact t :=
  List.filter_cons_of_pos (by simp [isBlank_of_isTokenChar h])

/-- Without its spaces a line is the texts of its tokens. -/
theorem compact_render (h : ∀ t ∈ ts, t.Whole) : (render ts).compact = ts.flatMap text := by
  induction ts with
  | nil => rfl
  | cons t us ih =>
    have first : t.text.compact = t.text :=
      compact_of_isTokenChar fun c hc => (h t (by simp)).isTokenChar_of_mem_text hc
    cases us with
    | nil => simpa using first
    | cons u vs =>
      rw [render_cons_cons, compact_append, first, compact_space_cons,
        ih fun t ht => h t (List.mem_cons_of_mem _ ht), @List.flatMap_cons _ _ t]

/-- A line of whole tokens is made of the characters of tokens and of spaces. -/
theorem eq_space_or_isTokenChar_of_mem_render (h : ∀ t ∈ ts, t.Whole) {c : Char}
    (hc : c ∈ render ts) : c = ' ' ∨ isTokenChar c = true := by
  induction ts with
  | nil => simp at hc
  | cons t us ih =>
    have first : c ∈ t.text → isTokenChar c = true :=
      fun hc => (h t (by simp)).isTokenChar_of_mem_text hc
    cases us with
    | nil => exact .inr (first (by simpa using hc))
    | cons u vs =>
      rw [render_cons_cons, List.mem_append, List.mem_cons] at hc
      rcases hc with own | space | later
      · exact .inr (first own)
      · exact .inl space
      · exact ih (fun t ht => h t (List.mem_cons_of_mem _ ht)) later

/-- Tokens that stay apart are what is scanned from their line. -/
theorem scan_render (h : Apart ts) : scan (render ts) = ts := by
  rw [scan_eq_scanFrom, compact_render h.whole, scanFrom_texts h]

/-! ## Cutting a line in two -/

theorem render_cons (t : Token) (some_token : us ≠ []) :
    render (t :: us) = t.text ++ ' ' :: render us := by
  obtain ⟨u, vs, rfl⟩ := List.exists_cons_of_ne_nil some_token
  exact render_cons_cons t u vs

/-- A line of whole tokens that is cut in two is cut before a space, after a space or inside a
number. -/
theorem render_eq_append (h : ∀ t ∈ ts, t.Whole) {a b : Text} (left : a ≠ []) (right : b ≠ [])
    (parts : render ts = a ++ b) :
    (∃ xs ys, ts = xs ++ ys ∧ xs ≠ [] ∧ a = render xs ∧ b = ' ' :: render ys) ∨
    (∃ xs ys, ts = xs ++ ys ∧ xs ≠ [] ∧ a = render xs ++ [' '] ∧ b = render ys) ∨
    ∃ c d, c ∈ a.getLast? ∧ d ∈ b.head? ∧ isNumberChar c = true ∧ isNumberChar d = true := by
  induction ts generalizing a with
  | nil => simp_all
  | cons t us ih =>
    have first : t.Whole := h t (by simp)
    -- a cut in the first token
    have inside {v w : Text} (hv : v ≠ []) (cut : t.text = a ++ v) (hb : b = v ++ w) :
        ∃ c d, c ∈ a.getLast? ∧ d ∈ b.head? ∧ isNumberChar c = true ∧ isNumberChar d = true := by
      refine ⟨a.getLast left, v.head hv, List.getLast?_eq_some_getLast left, ?_, ?_, ?_⟩
      · rw [hb, List.head?_append_of_ne_nil _ hv]
        exact List.head?_eq_some_head hv
      · exact first.isNumberChar_of_text_eq left hv cut
          (List.mem_append_left _ (List.getLast_mem left))
      · exact first.isNumberChar_of_text_eq left hv cut
          (List.mem_append_right _ (List.head_mem hv))
    by_cases last : us = []
    · subst us
      rw [render_singleton] at parts
      exact .inr (.inr (@inside b [] right parts (by simp)))
    · rw [render_cons t last] at parts
      rcases List.append_eq_append_iff.1 parts with ⟨as, ha, hb⟩ | ⟨v, hv, hb⟩
      · cases as with
        | nil => exact .inl ⟨[t], us, rfl, by simp, by simpa using ha, hb.symm⟩
        | cons c as =>
          obtain ⟨rfl, rest⟩ := List.cons.inj hb
          by_cases here : as = []
          · subst as
            exact .inr (.inl ⟨[t], us, rfl, by simp, by simpa using ha, rest.symm⟩)
          · rcases ih (fun u hu => h u (List.mem_cons_of_mem t hu)) here rest with
              ⟨xs, ys, rfl, hxs, rfl, tail⟩ | ⟨xs, ys, rfl, hxs, rfl, tail⟩ | ⟨c, d, hc, hd, digits⟩
            · exact .inl ⟨t :: xs, ys, rfl, by simp, by rw [render_cons t hxs, ha], tail⟩
            · refine .inr (.inl ⟨t :: xs, ys, rfl, by simp, ?_, tail⟩)
              rw [render_cons t hxs, ha]
              simp
            · refine .inr (.inr ⟨c, d, ?_, hd, digits⟩)
              rw [ha, List.getLast?_append_of_ne_nil _ (by simp)]
              rw [List.getLast?_cons_of_ne_nil here]
              exact hc
      · by_cases here : v = []
        · subst v
          exact .inl ⟨[t], us, rfl, by simp, by simpa using hv.symm, by simpa using hb⟩
        · exact .inr (.inr (inside here hv hb))

end ArithDrill.Token
