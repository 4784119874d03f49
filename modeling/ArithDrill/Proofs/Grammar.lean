import ArithDrill.Proofs.Postorder
import Mathlib

/-!
# The grammar of expressions

The strict grammar has three kinds of phrases, numbered like the levels of the descent: sums at
level one, products at level two and factors at level three.  A phrase below level three is either
one phrase of the next level, or a shorter phrase of its own level, an operator and a phrase of
the next level, so that operators of one precedence group to the left.  Every parenthesis has its
partner.

The parser accepts a little more, for it lets parentheses stay open at the end.  Its answers are
those of the grammar for the list in which the missing parentheses have been put at the end.  In
one direction, what the parser has read derives its tree once the parentheses left open are
closed, and some are left open only where no token follows that the parser could go on with.  In
the other direction, the parser finds every derivation, and a closing parenthesis at the very end
may be left out without any change.

## Main definitions

* `Grammar.Derives` — the strict grammar.
* `Grammar.Padded` — a list with further parentheses around some of its phrases.
* `Grammar.closed` — a list with its missing parentheses at the end.

## Main statements

* `Grammar.sound_of_descent` — what the parser reads is derived by the grammar.
* `Grammar.Derives.completes` — what the grammar derives is read by the parser.
* `Grammar.shortens_of_descent` — a closing parenthesis at the very end may be left out.
* `Grammar.ofTokens_eq_ok_iff_derives` — the parser accepts exactly its grammar.
-/

namespace ArithDrill.Grammar

open ArithDrill.Parser

/-- The strict grammar: a list of tokens derives a tree at a level. -/
inductive Derives : Nat → List Token → Expr → Prop where
  /-- A factor is a number that can be read. -/
  | number {text : Text} {l : Literal} (h : Literal.read text = .ok l) :
    Derives 3 [.number text] (.leaf l)
  /-- A factor is a sum in parentheses. -/
  | paren {ts : List Token} {e : Expr} (inner : Derives 1 ts e) :
    Derives 3 (.openParen :: (ts ++ [.closeParen])) e
  /-- A product alone is a sum, and a factor alone is a product. -/
  | operand {n : Nat} {ts : List Token} {e : Expr} (level : n < 3) (only : Derives (n + 1) ts e) :
    Derives n ts e
  /-- A sum is a sum, `+` or `-` and a product; a product is a product, `×` or `÷` and a factor. -/
  | chain {n : Nat} {o : Op} {ts us : List Token} {a b : Expr} (level : o.precedence = n)
    (left : Derives n ts a) (right : Derives (n + 1) us b) :
    Derives n (ts ++ .op o :: us) (.node o a b)

namespace Derives

variable {n m : Nat} {ts us : List Token} {e : Expr}

/-- The parentheses of a phrase are all closed. -/
theorem count_eq (h : Derives n ts e) : ts.count .openParen = ts.count .closeParen := by
  induction h with
  | number _ => rfl
  | paren _ ih => simp [ih]
  | operand _ _ ih => exact ih
  | chain _ _ _ ihLeft ihRight => simp [ihLeft, ihRight]

/-- There are no phrases above the level of factors. -/
theorem level_le (h : Derives n ts e) : n ≤ 3 := by
  induction h with
  | number _ => exact Nat.le_refl 3
  | paren _ _ => exact Nat.le_refl 3
  | operand level _ _ => exact Nat.le_of_lt level
  | chain _ _ _ ihLeft _ => exact ihLeft

/-- A phrase of a tighter level is one of every looser level. -/
theorem loosen (h : Derives (n + m) ts e) : Derives n ts e := by
  induction m with
  | zero => exact h
  | succ m ih => exact ih (.operand h.level_le h)

end Derives

/-! ## What the parser reads is derived -/

/-- The parser is stuck: neither an operator nor a closing parenthesis comes next, so that
everything around ends here as well. -/
def Stuck (ts : List Token) : Prop :=
  ts.head? ≠ some .closeParen ∧ ∀ o, ts.head? ≠ some (.op o)

/-- The tokens `us`, read in front of `rest`, derive a tree when the parentheses that they leave
open are closed; where some are left open, the parser is stuck. -/
def DerivesOpen (n : Nat) (us : List Token) (e : Expr) (rest : List Token) : Prop :=
  ∃ m, Derives n (us ++ List.replicate m .closeParen) e ∧ (0 < m → Stuck rest)

namespace DerivesOpen

variable {n : Nat} {us vs rest : List Token} {a b e : Expr} {o : Op}

/-- In front of an operator every parenthesis has been closed. -/
theorem derives_of_op (h : DerivesOpen n us e (.op o :: rest)) : Derives n us e := by
  obtain ⟨m, derives, stuck⟩ := h
  cases m with
  | zero => simpa using derives
  | succ m => exact absurd rfl ((stuck (Nat.succ_pos m)).2 o)

theorem operand (level : n < 3) (h : DerivesOpen (n + 1) us e rest) : DerivesOpen n us e rest := by
  obtain ⟨m, derives, stuck⟩ := h
  exact ⟨m, .operand level derives, stuck⟩

theorem chain (level : o.precedence = n) {ts : List Token} (left : DerivesOpen n us a (.op o :: ts))
    (right : DerivesOpen (n + 1) vs b rest) :
    DerivesOpen n (us ++ .op o :: vs) (.node o a b) rest := by
  obtain ⟨m, derives, stuck⟩ := right
  refine ⟨m, ?_, stuck⟩
  simpa using Derives.chain level left.derives_of_op derives

/-- A sum in parentheses: its closing parenthesis comes next, or is left open as well. -/
theorem paren (h : DerivesOpen 1 us e rest) (stops : StopsBelow 1 rest) :
    ∃ vs, .openParen :: (us ++ rest) = vs ++ skipClosing rest ∧
      DerivesOpen 3 vs e (skipClosing rest) := by
  obtain ⟨m, derives, stuck⟩ := h
  by_cases closes : rest.head? = some .closeParen
  · obtain ⟨rest', rfl⟩ := List.head?_eq_some_iff.1 closes
    obtain rfl : m = 0 := Nat.eq_zero_of_not_pos fun some_open => (stuck some_open).1 rfl
    refine ⟨.openParen :: (us ++ [.closeParen]), by simp [skipClosing], 0, ?_, by simp⟩
    simpa using Derives.paren derives
  · have stays : skipClosing rest = rest := by
      unfold skipClosing
      split
      · simp at closes
      · rfl
    have no_op : ∀ o, rest.head? ≠ some (.op o) := by
      intro o next
      obtain ⟨rest', rfl⟩ := List.head?_eq_some_iff.1 next
      exact not_stopsBelow_one o rest' stops
    rw [stays]
    refine ⟨.openParen :: us, rfl, m + 1, ?_, fun _ => ⟨closes, no_op⟩⟩
    simpa [List.replicate_succ'] using Derives.paren derives

end DerivesOpen

/-- What an answer of the parser says about the tokens that have been read. -/
def Sound : Call → Plain → Prop
  | .read n ts, .ok (e, rest) => ∃ us, ts = us ++ rest ∧ DerivesOpen n us e rest
  | .extend n left ts, .ok (e, rest) => ∀ us, DerivesOpen n us left ts →
      ∃ vs, ts = vs ++ rest ∧ DerivesOpen n (us ++ vs) e rest
  | _, .error _ => True

/-- What the parser reads is followed by no operator that it could go on with.  The simulation by
the conversion to a postfix list has shown this already. -/
theorem stopsBelow_of_descent {n : Nat} {ts rest : List Token} {e : Expr}
    (h : Descent (.read n ts) (.ok (e, rest))) : StopsBelow n rest :=
  (Postfix.simulates_of_descent h [] [] (by simp [Postfix.Yard.Settled])).1

/-- What the parser reads is derived by the grammar.  The induction is on the rules of the
descent. -/
theorem sound_of_descent {c : Call} {r : Plain} (h : Descent c r) : Sound c r := by
  induction h with
  | missing | badNumber | strayOp | strayClosing | parenFails | chainFails | stepFails => trivial
  | @number text l ts h => exact ⟨[.number text], rfl, 0, .number h, by simp⟩
  | @paren ts rest e inner ih =>
    obtain ⟨us, rfl, derives⟩ := ih
    exact derives.paren (stopsBelow_of_descent inner)
  | @chain n ts rest left r level _ _ ihFirst ihOthers =>
    obtain ⟨us, rfl, derives⟩ := ihFirst
    match r with
    | .error _ => trivial
    | .ok (e, rest') =>
      obtain ⟨vs, rfl, derives'⟩ := ihOthers us (derives.operand level)
      exact ⟨us ++ vs, by simp, derives'⟩
  | stop h =>
    intro us derives
    exact ⟨[], rfl, by simpa using derives⟩
  | @step n o left right ts rest r level _ _ ihNext ihOthers =>
    obtain ⟨vs, rfl, derives⟩ := ihNext
    match r with
    | .error _ => trivial
    | .ok (e, rest') =>
      intro us before
      obtain ⟨ws, rfl, derives'⟩ := ihOthers (us ++ .op o :: vs) (before.chain level derives)
      exact ⟨.op o :: (vs ++ ws), by simp, by simpa using derives'⟩

/-! ## What is derived is read by the parser -/

/-- No operator has the precedence of a factor, so a factor is not extended. -/
theorem eq_of_extend_three {left : Expr} {ts : List Token} {r : Plain}
    (h : Descent (.extend 3 left ts) r) : r = .ok (left, ts) := by
  cases h with
  | stop _ => rfl
  | @step _ o _ _ _ _ _ level | @stepFails _ o _ _ _ level =>
    rcases o.precedence_eq with loose | tight <;> omega

namespace Derives

variable {n : Nat} {us rest : List Token} {e : Expr} {r : Plain}

/-- The parser reads a phrase and goes on with the extensions of its tree.  Said in this way the
induction goes through for phrases that group to the left: the parser comes to the tree of a long
phrase by extending the tree of a shorter one. -/
theorem completes (h : Derives n us e) (stops : StopsBelow (n + 1) rest)
    (others : Descent (.extend n e rest) r) : Descent (.read n (us ++ rest)) r := by
  induction h generalizing rest r with
  | number h =>
    rw [eq_of_extend_three others]
    exact .number h
  | @paren ts e _ ih =>
    rw [eq_of_extend_three others]
    have inner : Descent (.read 1 (ts ++ .closeParen :: rest)) (.ok (e, .closeParen :: rest)) :=
      ih (by simp [StopsBelow]) (.stop (by simp))
    simpa [skipClosing] using Descent.paren inner
  | operand level _ ih =>
    have first := ih (fun o next => Nat.lt_succ_of_lt (stops o next))
      (.stop fun o next => Nat.ne_of_lt (stops o next))
    exact .chain level first others
  | @chain n o ts us a b level _ _ ihLeft ihRight =>
    have next := ihRight (fun o next => Nat.lt_succ_of_lt (stops o next))
      (.stop fun o next => Nat.ne_of_lt (stops o next))
    have stops' : StopsBelow (n + 1) (.op o :: (us ++ rest)) := by
      intro o' head
      cases head
      omega
    have left : Descent (.read n (ts ++ .op o :: (us ++ rest))) r :=
      ihLeft stops' (.step level next others)
    simpa using left

/-- The parser reads a phrase in front of what cannot extend it. -/
theorem descent (h : Derives n us e) (stops : StopsBelow n rest) :
    Descent (.read n (us ++ rest)) (.ok (e, rest)) :=
  h.completes (fun o next => Nat.lt_succ_of_lt (stops o next))
    (.stop fun o next => Nat.ne_of_lt (stops o next))

end Derives

/-! ## A closing parenthesis at the end -/

/-- The list `ts` is `us` without the closing parenthesis at its end, if this has not been read
already. -/
def Shortened (us ts : List Token) : Prop :=
  us = ts ++ [.closeParen] ∨ us = [] ∧ ts = []

namespace Shortened

variable {us ts : List Token} {t : Token}

/-- Any other token in front of a list is in front of the shortened list. -/
theorem exists_cons (h : Shortened (t :: us) ts) (other : t ≠ .closeParen) :
    ∃ vs, ts = t :: vs ∧ Shortened us vs := by
  rcases h with last | ⟨empty, -⟩
  · cases ts with
    | nil => exact absurd (List.cons.inj last).1 other
    | cons t' vs =>
      obtain ⟨rfl, rest⟩ := List.cons.inj last
      exact ⟨vs, rfl, .inl rest⟩
  · cases empty

/-- An operator in front of the shortened list is in front of the list. -/
theorem head?_eq (h : Shortened us ts) {o : Op} (next : ts.head? = some (.op o)) :
    us.head? = some (.op o) := by
  obtain ⟨vs, rfl⟩ := List.head?_eq_some_iff.1 next
  rcases h with rfl | ⟨-, empty⟩
  · rfl
  · cases empty

/-- An optional parenthesis may be skipped on both sides, for the one at the end is optional. -/
theorem skipClosing (h : Shortened us ts) :
    Shortened (Parser.skipClosing us) (Parser.skipClosing ts) := by
  rcases h with rfl | ⟨rfl, rfl⟩
  · match ts with
    | [] => exact .inr ⟨rfl, rfl⟩
    | .closeParen :: _ => exact .inl rfl
    | .number _ :: _ => exact .inl rfl
    | .op _ :: _ => exact .inl rfl
    | .openParen :: _ => exact .inl rfl
  · exact .inr ⟨rfl, rfl⟩

end Shortened

/-- An answer of the parser stays when the closing parenthesis at the very end is left out. -/
def Shortens : Call → Plain → Prop
  | .read n us, .ok (e, rest) => ∀ ts, Shortened us ts →
      ∃ rest', Shortened rest rest' ∧ Descent (.read n ts) (.ok (e, rest'))
  | .extend n left us, .ok (e, rest) => ∀ ts, Shortened us ts →
      ∃ rest', Shortened rest rest' ∧ Descent (.extend n left ts) (.ok (e, rest'))
  | _, .error _ => True

/-- The parser answers alike without the closing parenthesis at the very end.  The induction is on
the rules of the descent. -/
theorem shortens_of_descent {c : Call} {r : Plain} (h : Descent c r) : Shortens c r := by
  induction h with
  | missing | badNumber | strayOp | strayClosing | parenFails | chainFails | stepFails => trivial
  | number h =>
    intro ts shortened
    obtain ⟨vs, rfl, tail⟩ := shortened.exists_cons (by simp)
    exact ⟨vs, tail, .number h⟩
  | paren _ ih =>
    intro ts shortened
    obtain ⟨vs, rfl, tail⟩ := shortened.exists_cons (by simp)
    obtain ⟨rest', left, inner⟩ := ih vs tail
    exact ⟨_, left.skipClosing, .paren inner⟩
  | @chain n us rest left r level _ _ ihFirst ihOthers =>
    match r with
    | .error _ => trivial
    | .ok (e, rest') =>
      intro ts shortened
      obtain ⟨vs, between, first⟩ := ihFirst ts shortened
      obtain ⟨ws, after, others⟩ := ihOthers vs between
      exact ⟨ws, after, .chain level first others⟩
  | stop h =>
    intro ts shortened
    exact ⟨ts, shortened, .stop fun o next => h o (shortened.head?_eq next)⟩
  | @step n o left right us rest r level _ _ ihNext ihOthers =>
    match r with
    | .error _ => trivial
    | .ok (e, rest') =>
      intro ts shortened
      obtain ⟨us', rfl, tail⟩ := shortened.exists_cons (by simp)
      obtain ⟨vs, between, next⟩ := ihNext us' tail
      obtain ⟨ws, after, others⟩ := ihOthers vs between
      exact ⟨ws, after, .step level next others⟩

/-! ## Whole lists of tokens -/

/-- A list is accepted when the parser reads a sum from it and nothing is left. -/
theorem ofTokens_eq_ok_iff {ts : List Token} {e : Expr} :
    Expr.ofTokens ts = .ok e ↔ Descent (.read 1 ts) (.ok (e, [])) := by
  rw [Expr.ofTokens_eq]
  constructor
  · intro accepted
    have descent := descent_sum ts
    cases answer : (sum ts).plain with
    | error x =>
      rw [answer] at accepted
      cases accepted
    | ok p =>
      obtain ⟨tree, rest⟩ := p
      rw [answer] at accepted descent
      match rest with
      | [] =>
        cases accepted
        exact descent
      | .closeParen :: _ | .number _ :: _ | .op _ :: _ | .openParen :: _ => cases accepted
  · intro descent
    rw [(descent_sum ts).unique descent]
    rfl

/-- A closing parenthesis at the end of an accepted list may be left out. -/
theorem ofTokens_of_append_closeParen {ts : List Token} {e : Expr}
    (h : Expr.ofTokens (ts ++ [.closeParen]) = .ok e) : Expr.ofTokens ts = .ok e := by
  obtain ⟨rest, nothing | ⟨-, rfl⟩, descent⟩ :=
    shortens_of_descent (ofTokens_eq_ok_iff.1 h) ts (.inl rfl)
  · simp at nothing
  · exact ofTokens_eq_ok_iff.2 descent

/-- So may several of them. -/
theorem ofTokens_of_append_replicate {ts : List Token} {e : Expr} {m : Nat}
    (h : Expr.ofTokens (ts ++ List.replicate m .closeParen) = .ok e) :
    Expr.ofTokens ts = .ok e := by
  induction m with
  | zero => simpa using h
  | succ m ih =>
    rw [List.replicate_succ', ← List.append_assoc] at h
    exact ih (ofTokens_of_append_closeParen h)

/-- The parser accepts what the grammar derives, and a further closing parenthesis closes
nothing. -/
theorem Derives.ofTokens_append_replicate {us : List Token} {e : Expr} (h : Derives 1 us e)
    (k : Nat) :
    Expr.ofTokens (us ++ List.replicate k .closeParen) =
      if k = 0 then .ok e else .error .unopened := by
  have stops : StopsBelow 1 (List.replicate k .closeParen) := by
    cases k <;> simp [StopsBelow, List.replicate_succ]
  rw [Expr.ofTokens_eq, (descent_sum _).unique (h.descent stops)]
  cases k <;> rfl

/-- A list that the grammar derives is accepted. -/
theorem Derives.ofTokens {us : List Token} {e : Expr} (h : Derives 1 us e) :
    Expr.ofTokens us = .ok e := by
  simpa using h.ofTokens_append_replicate 0

/-- The grammar is not ambiguous, since the parser finds every derivation. -/
theorem Derives.unique {us : List Token} {e e' : Expr} (h : Derives 1 us e)
    (h' : Derives 1 us e') : e = e' :=
  Except.ok.inj (h.ofTokens.symm.trans h'.ofTokens)

/-! ## Redundant parentheses -/

/-- The list `us` is the phrase `ts` with any number of further parentheses, each pair around a
phrase of its derivation. -/
inductive Padded : Nat → List Token → List Token → Prop where
  /-- A number stays as it is. -/
  | number {text : Text} {l : Literal} (h : Literal.read text = .ok l) :
    Padded 3 [.number text] [.number text]
  /-- Parentheses are put inside of parentheses. -/
  | paren {ts us : List Token} (inner : Padded 1 ts us) :
    Padded 3 (.openParen :: (ts ++ [.closeParen])) (.openParen :: (us ++ [.closeParen]))
  /-- Parentheses are put into an operand that stands alone. -/
  | operand {n : Nat} {ts us : List Token} (level : n < 3) (only : Padded (n + 1) ts us) :
    Padded n ts us
  /-- Parentheses are put into both sides of an operator. -/
  | chain {n : Nat} {o : Op} {ts ts' us us' : List Token} (level : o.precedence = n)
    (left : Padded n ts us) (right : Padded (n + 1) ts' us') :
    Padded n (ts ++ .op o :: ts') (us ++ .op o :: us')
  /-- Parentheses are put around the phrase. -/
  | wrap {n : Nat} {ts us : List Token} (level : 1 ≤ n) (inner : Padded n ts us) :
    Padded n ts (.openParen :: (us ++ [.closeParen]))

/-- A phrase in parentheses is a phrase of the same level, for the same tree. -/
theorem Derives.wrap {n : Nat} {us : List Token} {e : Expr} (level : 1 ≤ n) (h : Derives n us e) :
    Derives n (.openParen :: (us ++ [.closeParen])) e := by
  obtain ⟨m, below⟩ := Nat.exists_eq_add_of_le h.level_le
  obtain ⟨k, above⟩ := Nat.exists_eq_add_of_le level
  have inner : Derives 1 us e := loosen (m := k) (above ▸ h)
  exact loosen (m := m) (below ▸ Derives.paren inner)

/-- Further parentheses around phrases do not change the tree. -/
theorem Padded.exists_derives {n : Nat} {ts us : List Token} (h : Padded n ts us) :
    ∃ e, Derives n ts e ∧ Derives n us e := by
  induction h with
  | number h => exact ⟨_, .number h, .number h⟩
  | paren _ ih =>
    obtain ⟨e, plain, padded⟩ := ih
    exact ⟨e, .paren plain, .paren padded⟩
  | operand level _ ih =>
    obtain ⟨e, plain, padded⟩ := ih
    exact ⟨e, .operand level plain, .operand level padded⟩
  | @chain n o _ _ _ _ level _ _ ihLeft ihRight =>
    obtain ⟨a, plain, padded⟩ := ihLeft
    obtain ⟨b, plain', padded'⟩ := ihRight
    exact ⟨.node o a b, .chain level plain plain', .chain level padded padded'⟩
  | wrap level _ ih =>
    obtain ⟨e, plain, padded⟩ := ih
    exact ⟨e, plain, padded.wrap level⟩

/-! ## Parentheses left open -/

/-- How many more parentheses are opened than closed. -/
def unclosed (ts : List Token) : Nat := ts.count .openParen - ts.count .closeParen

/-- A list with its missing closing parentheses at the end. -/
def closed (ts : List Token) : List Token := ts ++ List.replicate (unclosed ts) .closeParen

variable {ts : List Token} {e : Expr}

/-- What is accepted is derived once the parentheses left open are closed. -/
theorem derives_of_ofTokens (h : Expr.ofTokens ts = .ok e) :
    ts.count .closeParen ≤ ts.count .openParen ∧ Derives 1 (closed ts) e := by
  obtain ⟨us, same, m, derives, -⟩ := sound_of_descent (ofTokens_eq_ok_iff.1 h)
  rw [List.append_nil] at same
  subst same
  have balanced := derives.count_eq
  simp only [List.count_append, List.count_replicate] at balanced
  have opened : ts.count .openParen = ts.count .closeParen + m := by simpa using balanced
  have open_parens : unclosed ts = m := by
    unfold unclosed
    omega
  refine ⟨by omega, ?_⟩
  rw [closed, open_parens]
  exact derives

/-- Closing the parentheses left open, all or some of them, changes nothing; a further closing
parenthesis closes nothing. -/
theorem ofTokens_append_replicate (h : Derives 1 (closed ts) e) (k : Nat) :
    Expr.ofTokens (ts ++ List.replicate k .closeParen) =
      if k ≤ unclosed ts then .ok e else .error .unopened := by
  by_cases le : k ≤ unclosed ts
  · obtain ⟨m, all⟩ := Nat.exists_eq_add_of_le le
    have accepted := h.ofTokens
    rw [closed, all, ← List.replicate_append_replicate, ← List.append_assoc] at accepted
    rw [if_pos le, ofTokens_of_append_replicate accepted]
  · obtain ⟨m, more⟩ := Nat.exists_eq_add_of_le (Nat.le_of_not_le le)
    have refused := h.ofTokens_append_replicate m
    rw [closed, List.append_assoc, List.replicate_append_replicate, ← more] at refused
    rw [if_neg le, refused, if_neg (by omega)]

/-- The parser accepts exactly its grammar, where parentheses may stay open at the end: a list is
read as a tree exactly if it closes no more parentheses than it opens and the strict grammar
derives the tree from the list with the missing ones at its end.  An accepted list has one tree.
Putting parentheses around phrases or taking them away does not change it, nor does closing some or
all of the parentheses left open; one closing parenthesis more closes nothing. -/
theorem ofTokens_eq_ok_iff_derives (ts : List Token) (e : Expr) :
    (Expr.ofTokens ts = .ok e ↔
      ts.count .closeParen ≤ ts.count .openParen ∧ Derives 1 (closed ts) e) ∧
    (Expr.ofTokens ts = .ok e →
      (∀ e', Derives 1 (closed ts) e' → e' = e) ∧
      (∀ us, Padded 1 (closed ts) us ∨ Padded 1 us (closed ts) → Expr.ofTokens us = .ok e) ∧
      ∀ k, Expr.ofTokens (ts ++ List.replicate k .closeParen) =
        if k ≤ unclosed ts then .ok e else .error .unopened) := by
  refine ⟨⟨derives_of_ofTokens, ?_⟩, ?_⟩
  · rintro ⟨-, derives⟩
    simpa using ofTokens_append_replicate derives 0
  · intro accepted
    have derives := (derives_of_ofTokens accepted).2
    refine ⟨fun e' derives' => derives'.unique derives, ?_, ofTokens_append_replicate derives⟩
    rintro us (padded | padded)
    · obtain ⟨e', here, there⟩ := padded.exists_derives
      exact derives.unique here ▸ there.ofTokens
    · obtain ⟨e', there, here⟩ := padded.exists_derives
      exact derives.unique here ▸ there.ofTokens

/-- In `(1 + 2` one parenthesis is left open.  Its tree is that of `(1 + 2)` and of `((1) + 2)`,
and `(1 + 2))` is refused. -/
theorem derives_open_sum :
    let one : Token := .number ['1']
    let two : Token := .number ['2']
    let ts : List Token := [.openParen, one, .op .add, two]
    let us : List Token := [.openParen, .openParen, one, .closeParen, .op .add, two, .closeParen]
    let e : Expr := .node .add (.leaf (.whole 1)) (.leaf (.whole 2))
    Expr.ofTokens ts = .ok e ∧ Derives 1 (ts ++ [.closeParen]) e ∧
      Padded 1 (ts ++ [.closeParen]) us ∧ Expr.ofTokens us = .ok e ∧
      Expr.ofTokens (ts ++ [.closeParen]) = .ok e ∧
      Expr.ofTokens (ts ++ [.closeParen, .closeParen]) = .error .unopened := by
  intro one two ts us e
  have read_one : Literal.read ['1'] = .ok (.whole 1) := by cbv
  have read_two : Literal.read ['2'] = .ok (.whole 2) := by cbv
  have accepted : Expr.ofTokens ts = .ok e := by cbv
  have complete : closed ts = ts ++ [.closeParen] := by decide
  have left : Padded 1 [one] [.openParen, one, .closeParen] :=
    .operand (by decide) (.operand (by decide) (.wrap (by decide) (.number read_one)))
  have right : Padded 2 [two] [two] := .operand (by decide) (.number read_two)
  have padded : Padded 1 (ts ++ [.closeParen]) us :=
    .operand (by decide) (.operand (by decide) (.paren (.chain (o := .add) rfl left right)))
  obtain ⟨derived, settled⟩ := ofTokens_eq_ok_iff_derives ts e
  obtain ⟨-, padding, closing⟩ := settled accepted
  have derives := (derived.1 accepted).2
  rw [complete] at derives padding
  exact ⟨accepted, derives, padded, padding us (.inl padded), closing 1, closing 2⟩

end ArithDrill.Grammar
