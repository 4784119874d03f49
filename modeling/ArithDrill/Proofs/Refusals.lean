import ArithDrill.Proofs.Traversal

/-!
# Where tokens are refused

Going through a list of tokens from left to right comes to one of three things.  The list is
complete, or a value is missing at its end, or one of its tokens cannot stand where it stands.  A
complete list and a list without its last value can be continued to a complete one; a token that
cannot stand is refused for good, whatever follows it.  So a list is refused at the first token
that no continuation can repair.

The state of the conversion to a postfix list tells the three apart: a step fails, or at the end a
value is expected, or none is.  The parser fails for the same lists and for the same reasons, so it
obeys the same laws, although it may go on past an optional parenthesis before it reports anything.

## Main definitions

* `RefusesEarly` — the laws of where a list of tokens is refused.

## Main statements

* `Postfix.run_cases` — what going through a list comes to.
* `Postfix.refusesEarly_run` — the laws for the conversion, from its three outcomes.
* `refused_at_earliest_token` — the laws for the parser and the conversion.
-/

namespace ArithDrill

/-- Where a reader of tokens refuses a list. -/
structure RefusesEarly {α : Type} (read : List Token → Except ParseError α) (ts : List Token) :
    Prop where
  /-- A failure stays whatever follows, unless a value is missing at the end. -/
  final : ∀ x, read ts = .error x → x ≠ .incomplete → ∀ us, read (ts ++ us) = .error x
  /-- A value is missing at the end exactly if every number that can be read completes the list. -/
  missing_iff : read ts = .error .incomplete ↔
    ∀ text l, Literal.read text = .ok l → ∃ a, read (ts ++ [.number text]) = .ok a
  /-- After an operator at the end of a complete list a value is missing. -/
  reopened : ∀ a, read ts = .ok a → ∀ o, read (ts ++ [.op o]) = .error .incomplete
  /-- A failure that stays is due to the first token that cannot be repaired: what stands before
  it has a continuation, and with it there is none. -/
  earliest : ∀ x, read ts = .error x → x ≠ .incomplete →
    ∃ done t next, ts = done ++ t :: next ∧ (∃ us a, read (done ++ us) = .ok a) ∧
      ∀ us, read (done ++ t :: us) = .error x

namespace Postfix

variable {ts : List Token} {text : Text} {l : Literal} {o : Op} {x : ParseError} {y : Yard}

/-! ## What going through a list comes to -/

/-- No single token is refused for a value that is missing at the end. -/
theorem step_ne_incomplete (y : Yard) (t : Token) : y.step t ≠ .error .incomplete := by
  intro h
  cases t with
  | number text =>
    cases expects : y.expectsValue with
    | false => simp [Yard.step, expects] at h
    | true => cases read : Literal.read text <;> simp [Yard.step, expects, read] at h
  | op o => cases expects : y.expectsValue <;> simp [Yard.step, expects] at h
  | openParen => cases expects : y.expectsValue <;> simp [Yard.step, expects] at h
  | closeParen =>
    cases expects : y.expectsValue with
    | true => simp [Yard.step, expects] at h
    | false => cases closed : close? y.waiting y.output <;> simp [Yard.step, expects, closed] at h

/-- What going through a list comes to: one of its tokens is refused, a value is missing at its
end, or it is complete. -/
theorem run_cases (ts : List Token) :
    (∃ x, x ≠ .incomplete ∧ ts.foldlM Yard.step Yard.start = .error x ∧
      Yard.start.run ts = .error x) ∨
    (∃ y, ts.foldlM Yard.step Yard.start = .ok y ∧ y.expectsValue = true ∧
      Yard.start.run ts = .error .incomplete) ∨
    ∃ y ps, ts.foldlM Yard.step Yard.start = .ok y ∧ y.expectsValue = false ∧
      Yard.start.run ts = .ok ps := by
  cases gone : ts.foldlM Yard.step Yard.start with
  | error x =>
    obtain ⟨_, t, _, between, -, -, fails⟩ := foldlM_eq_error_iff.1 gone
    have other : x ≠ .incomplete := by
      rintro rfl
      exact step_ne_incomplete between t fails
    exact .inl ⟨x, other, rfl, by simp [Yard.run, gone, Except.bind]⟩
  | ok y =>
    cases expects : y.expectsValue with
    | true =>
      have missing : Yard.start.run ts = .error .incomplete := by
        simp [Yard.run, gone, Except.bind, Yard.finish, expects]
      exact .inr (.inl ⟨y, rfl, expects, missing⟩)
    | false =>
      have complete : Yard.start.run ts = .ok (drain y.waiting y.output).reverse := by
        simp [Yard.run, gone, Except.bind, Yard.finish, expects]
      exact .inr (.inr ⟨y, _, rfl, expects, complete⟩)

/-- A failure for another reason than a missing value is that of a token. -/
theorem foldlM_of_run_eq_error (refused : Yard.start.run ts = .error x) (other : x ≠ .incomplete) :
    ts.foldlM Yard.step Yard.start = .error x := by
  obtain ⟨x', -, gone, refused'⟩ | ⟨y, -, -, missing⟩ | ⟨y, ps, -, -, complete⟩ := run_cases ts
  · obtain rfl : x' = x := by simpa [refused'] using refused
    exact gone
  · exact absurd (by simpa [missing] using refused.symm) other
  · simp [complete] at refused

/-- A value is missing where one is expected at the end. -/
theorem run_eq_incomplete_iff : Yard.start.run ts = .error .incomplete ↔
    ∃ y, ts.foldlM Yard.step Yard.start = .ok y ∧ y.expectsValue = true := by
  obtain ⟨x, other, gone, refused⟩ | ⟨y, gone, expects, missing⟩ |
    ⟨y, ps, gone, expects, complete⟩ := run_cases ts
  · simp [refused, gone, other]
  · simp [missing, gone, expects]
  · simp [complete, gone, expects]

/-- A list is complete where no value is expected at the end. -/
theorem exists_run_eq_ok_iff : (∃ ps, Yard.start.run ts = .ok ps) ↔
    ∃ y, ts.foldlM Yard.step Yard.start = .ok y ∧ y.expectsValue = false := by
  obtain ⟨x, other, gone, refused⟩ | ⟨y, gone, expects, missing⟩ |
    ⟨y, ps, gone, expects, complete⟩ := run_cases ts
  · simp [refused, gone]
  · simp [missing, gone, expects]
  · simp [complete, gone, expects]

/-! ## How a list goes on -/

/-- A token that is refused is refused whatever follows. -/
theorem run_append_of_error (h : ts.foldlM Yard.step Yard.start = .error x) (us : List Token) :
    Yard.start.run (ts ++ us) = .error x := by
  simp [Yard.run, List.foldlM_append, h, bind, Except.bind]

/-- Going on after a list is going on from the state that it leaves. -/
theorem run_append_of_ok (h : ts.foldlM Yard.step Yard.start = .ok y) (us : List Token) :
    Yard.start.run (ts ++ us) = y.run us := by
  simp [Yard.run, List.foldlM_append, h, bind, Except.bind]

/-- A number completes a list whose last value is missing. -/
theorem exists_run_number (expects : y.expectsValue = true) (h : Literal.read text = .ok l) :
    ∃ ps, y.run [.number text] = .ok ps := by
  simp [Yard.run_cons, Yard.step, expects, h, Except.bind, Yard.run_nil, Yard.finish]

/-- A number cannot stand after a complete list. -/
theorem run_number_of_complete (complete : y.expectsValue = false) (text : Text) :
    y.run [.number text] = .error (.unexpected (.number text)) := by
  simp [Yard.run_cons, Yard.step, complete, Except.bind]

/-- After an operator a value is missing. -/
theorem run_op_of_complete (complete : y.expectsValue = false) (o : Op) :
    y.run [.op o] = .error .incomplete := by
  simp [Yard.run_cons, Yard.step, complete, Except.bind, Yard.run_nil, Yard.finish]

/-- There is a number that can be read. -/
theorem read_zero : Literal.read ['0'] = .ok (.whole 0) := by cbv

/-- What is not refused can be continued to a complete list. -/
theorem exists_run_append (h : ts.foldlM Yard.step Yard.start = .ok y) :
    ∃ us ps, Yard.start.run (ts ++ us) = .ok ps := by
  cases expects : y.expectsValue with
  | true =>
    obtain ⟨ps, complete⟩ := exists_run_number expects read_zero
    exact ⟨_, ps, (run_append_of_ok h _).trans complete⟩
  | false =>
    obtain ⟨ps, complete⟩ := exists_run_eq_ok_iff.2 ⟨y, h, expects⟩
    exact ⟨[], ps, by simpa using complete⟩

/-- The laws hold of the conversion from its first state. -/
theorem refusesEarly_run (ts : List Token) : RefusesEarly Yard.start.run ts where
  final x refused other us := run_append_of_error (foldlM_of_run_eq_error refused other) us
  missing_iff := by
    constructor
    · intro missing text l h
      obtain ⟨y, gone, expects⟩ := run_eq_incomplete_iff.1 missing
      rw [run_append_of_ok gone]
      exact exists_run_number expects h
    · -- a number completes neither a list with a refused token nor one that is complete already
      intro completes
      obtain ⟨ps, complete⟩ := completes _ _ read_zero
      obtain ⟨x, -, gone, -⟩ | ⟨y, -, -, missing⟩ | ⟨y, _, gone, expects, -⟩ := run_cases ts
      · simp [run_append_of_error gone] at complete
      · exact missing
      · simp [run_append_of_ok gone, run_number_of_complete expects] at complete
  reopened ps complete o := by
    obtain ⟨y, gone, expects⟩ := exists_run_eq_ok_iff.1 ⟨ps, complete⟩
    rw [run_append_of_ok gone, run_op_of_complete expects]
  earliest x refused other := by
    obtain ⟨done, t, next, between, rfl, before, fails⟩ :=
      foldlM_eq_error_iff.1 (foldlM_of_run_eq_error refused other)
    refine ⟨done, t, next, rfl, exists_run_append before, fun us => ?_⟩
    rw [run_append_of_ok before, Yard.run_cons, fails]
    rfl

end Postfix

/-! ## The parser and the conversion -/

section

variable {α : Type} {read : List Token → Except ParseError α} {ts : List Token}

/-- A reader fails for a list as the conversion does from its first state. -/
def FailsAlike (read : List Token → Except ParseError α) (ts : List Token) : Prop :=
  ∀ x, read ts = .error x ↔ Postfix.Yard.start.run ts = .error x

/-- Where the one fails for no reason, neither does the other. -/
theorem FailsAlike.exists_ok_iff (h : FailsAlike read ts) :
    (∃ a, read ts = .ok a) ↔ ∃ ps, Postfix.Yard.start.run ts = .ok ps := by
  cases answer : read ts with
  | error x => simp [(h x).1 answer]
  | ok a =>
    cases run : Postfix.Yard.start.run ts with
    | error x => simp [(h x).2 run] at answer
    | ok ps => simp

/-- A reader that fails like the conversion obeys the same laws.  Only lists with a token in them
are continuations that matter. -/
theorem refusesEarly_of_failsAlike (here : FailsAlike read ts)
    (later : ∀ us, us ≠ [] → FailsAlike read us) : RefusesEarly read ts where
  final x refused other us := by
    have run := (Postfix.refusesEarly_run ts).final x ((here x).1 refused) other us
    by_cases nothing : ts ++ us = []
    · obtain ⟨rfl, rfl⟩ := List.append_eq_nil_iff.1 nothing
      exact refused
    · exact (later _ nothing x).2 run
  missing_iff := by
    rw [here, (Postfix.refusesEarly_run ts).missing_iff]
    refine forall_congr' fun text => forall_congr' fun l => imp_congr_right fun _ => ?_
    exact (later _ (by simp)).exists_ok_iff.symm
  reopened a complete o := by
    obtain ⟨ps, run⟩ := here.exists_ok_iff.1 ⟨a, complete⟩
    exact (later _ (by simp) _).2 ((Postfix.refusesEarly_run ts).reopened ps run o)
  earliest x refused other := by
    obtain ⟨done, t, next, parts, ⟨us, ps, repaired⟩, final⟩ :=
      (Postfix.refusesEarly_run ts).earliest x ((here x).1 refused) other
    have some_token : done ++ us ≠ [] := by
      intro nothing
      rw [nothing] at repaired
      cases repaired
    obtain ⟨a, accepted⟩ := (later _ some_token).exists_ok_iff.2 ⟨ps, repaired⟩
    exact ⟨done, t, next, parts, ⟨us, a, accepted⟩, fun vs => (later _ (by simp) x).2 (final vs)⟩

end

/-- The conversion of a list with a token in it is its run from the first state. -/
theorem Postfix.failsAlike_ofTokens {ts : List Token} (some_token : ts ≠ []) :
    FailsAlike Postfix.ofTokens ts := fun x => by
  rw [ofTokens_eq_run some_token]

/-- The parser fails like the conversion, also for the empty list. -/
theorem Expr.failsAlike_ofTokens (ts : List Token) : FailsAlike Expr.ofTokens ts := by
  intro x
  by_cases nothing : ts = []
  · subst ts
    rw [ofTokens_nil]
    simp [Postfix.Yard.run_nil, Postfix.Yard.finish, Postfix.Yard.start]
  · rw [← Postfix.ofTokens_eq_error_iff nothing, Postfix.failsAlike_ofTokens nothing x]

/-- Syntax errors are reported at the first token that no continuation can repair.  A list that is
refused for another reason than a missing value is refused for this reason whatever follows; it has
a first token of which this is true, and what stands before this token can still be completed.  A
value is missing at the end of a list exactly if any number completes it, and an operator after a
complete list leaves a value missing.  All this holds of the parser, and of the conversion to a
postfix list when there is a token. -/
theorem refused_at_earliest_token :
    (∀ ts, RefusesEarly Expr.ofTokens ts) ∧ ∀ ts, ts ≠ [] → RefusesEarly Postfix.ofTokens ts := by
  constructor
  · intro ts
    exact refusesEarly_of_failsAlike (Expr.failsAlike_ofTokens ts)
      fun us _ => Expr.failsAlike_ofTokens us
  · intro ts some_token
    exact refusesEarly_of_failsAlike (Postfix.failsAlike_ofTokens some_token)
      fun us later => Postfix.failsAlike_ofTokens later

/-- In `(1) 2` the second number is refused whatever follows, and `(1)` before it is complete.  In
`(1 ×` a value is missing, which any number supplies.  The parenthesis of `(1` may stay open, and
after an operator a value is missing. -/
theorem refused_second_number :
    let one : Token := .number ['1']
    let two : Token := .number ['2']
    let ts : List Token := [.openParen, one, .closeParen, two]
    let us : List Token := [.openParen, one, .op .mul]
    ts ≠ [] ∧ Postfix.ofTokens ts = .error (.unexpected two) ∧
      (∀ vs, Postfix.ofTokens (ts ++ vs) = .error (.unexpected two)) ∧
      us ≠ [] ∧ Postfix.ofTokens us = .error .incomplete ∧
      (∀ text l, Literal.read text = .ok l →
        ∃ ps, Postfix.ofTokens (us ++ [.number text]) = .ok ps) ∧
      Expr.ofTokens [.openParen, one] = .ok (.leaf (.whole 1)) ∧
      ∀ o, Expr.ofTokens ([.openParen, one] ++ [.op o]) = .error .incomplete := by
  intro one two ts us
  have refused : Postfix.ofTokens ts = .error (.unexpected two) := by cbv
  have missing : Postfix.ofTokens us = .error .incomplete := by cbv
  have accepted : Expr.ofTokens [.openParen, one] = .ok (.leaf (.whole 1)) := by cbv
  have some_token : ts ≠ [] := by simp [ts]
  have some_token' : us ≠ [] := by simp [us]
  obtain ⟨parser, conversion⟩ := refused_at_earliest_token
  exact ⟨some_token, refused, (conversion ts some_token).final _ refused (by simp), some_token',
    missing, (conversion us some_token').missing_iff.1 missing, accepted,
    (parser [.openParen, one]).reopened _ accepted⟩

end ArithDrill
