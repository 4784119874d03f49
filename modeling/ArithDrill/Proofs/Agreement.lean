import ArithDrill.Evaluation
import ArithDrill.Proofs.Numbers
import ArithDrill.Proofs.Postorder

/-!
# Two ways to the value of a line

A line is evaluated on a stack, from its postfix list.  The same value, or the same failure, comes
of parsing the line to a tree and evaluating the tree.  Both go through the numbers from left to
right and apply the operators in postfix order, so that of several failures both meet the same
one first, and since a postfix list that spells a tree always fits the stack, no line breaks it.

## Main definitions

* `evaluateTree` — the value of a list of tokens by way of its tree.
* `valueOf?` — the value of a line that has one.

## Main statements

* `Postfix.eval_of_spells` — a list that spells a tree has the value of the tree.
* `evaluateTokens_eq_evaluateTree` — the two ways agree on every list with a token in it.
* `evaluation_ways_agree` — the same for lists of tokens and for lines, with the exceptions.
* `attempt_eq` — trying a line never fails.
-/

namespace ArithDrill

namespace Postfix

/-- A list that spells a tree puts the value of the tree on top of the stack, or fails as the
tree does. -/
theorem foldlM_push_of_spells {ps : List Token} {e : Expr} (h : Spells ps e)
    (stack : List Rat) : ps.foldlM push stack = e.eval.map fun v => v :: stack := by
  induction h generalizing stack with
  | @leaf text l h =>
    simp [push, readNumber_of_read h, Expr.eval, Except.map]
  | @node ps qs a b o _ _ ihLeft ihRight =>
    rw [List.foldlM_append, List.foldlM_append, ihLeft]
    cases ha : a.eval with
    | error x => simp [Expr.eval, ha, Except.map, bind, Except.bind]
    | ok x =>
      have right := ihRight (x :: stack)
      cases hb : b.eval with
      | error y => simp [Expr.eval, ha, hb, right, Except.map, bind, Except.bind]
      | ok y =>
        -- the left operand lies below the right one, as `push` expects
        cases hv : o.apply x y <;>
          simp [Expr.eval, ha, hb, hv, right, push, Except.map, bind, Except.bind, pure,
            Except.pure]

/-- A list that spells a tree has the value of the tree. -/
theorem eval_of_spells {ps : List Token} {e : Expr} (h : Spells ps e) :
    eval ps = e.eval.map some := by
  rw [eval, if_neg (by simpa using h.ne_nil), foldlM_push_of_spells h]
  cases e.eval <;> rfl

end Postfix

/-- The value of a list of tokens by way of its tree. -/
def evaluateTree (ts : List Token) : Except EvalError Rat :=
  match Expr.ofTokens ts with
  | .error x => .error (.unreadable x)
  | .ok e => e.eval

/-- A value by way of a tree is the value of this tree. -/
theorem evaluateTree_eq_ok_iff {ts : List Token} {v : Rat} :
    evaluateTree ts = .ok v ↔ ∃ e, Expr.ofTokens ts = .ok e ∧ e.eval = .ok v := by
  unfold evaluateTree
  cases Expr.ofTokens ts <;> simp

/-- Without a token there is no value. -/
theorem evaluateTree_nil : evaluateTree [] = .error (.unreadable .incomplete) := by
  rw [evaluateTree, Expr.ofTokens_nil]

/-- Evaluating a tree never breaks a stack. -/
theorem evaluateTree_ne_fault (ts : List Token) (f : StackFault) :
    evaluateTree ts ≠ .error (.fault f) := by
  unfold evaluateTree
  cases Expr.ofTokens ts with
  | error x => simp
  | ok e => exact e.eval_ne_fault f

/-- The two ways agree on every list with a token in it. -/
theorem evaluateTokens_eq_evaluateTree {ts : List Token} (h : ts ≠ []) :
    evaluateTokens ts = (evaluateTree ts).map some := by
  unfold evaluateTokens evaluateTree
  cases tree : Expr.ofTokens ts with
  | error x =>
    rw [Postfix.ofTokens_of_error h tree]
    rfl
  | ok e =>
    obtain ⟨ps, spells, list⟩ := Postfix.ofTokens_of_expr tree
    rw [list]
    exact Postfix.eval_of_spells spells

@[simp] theorem evaluateTokens_nil : evaluateTokens [] = .ok none := rfl

/-- A list of tokens has no value and no failure only if it is empty. -/
theorem evaluateTokens_eq_none_iff {ts : List Token} :
    evaluateTokens ts = .ok none ↔ ts = [] := by
  by_cases h : ts = []
  · simp [h]
  · rw [evaluateTokens_eq_evaluateTree h]
    cases evaluateTree ts <;> simp [Except.map, h]

/-- The value of a list of tokens is that of its tree. -/
theorem evaluateTokens_eq_some_iff {ts : List Token} {v : Rat} :
    evaluateTokens ts = .ok (some v) ↔ ∃ e, Expr.ofTokens ts = .ok e ∧ e.eval = .ok v := by
  rw [← evaluateTree_eq_ok_iff]
  by_cases h : ts = []
  · simp [h, evaluateTree_nil]
  · rw [evaluateTokens_eq_evaluateTree h]
    cases evaluateTree ts <;> simp [Except.map]

/-- No list of tokens breaks the stack. -/
theorem evaluateTokens_ne_fault (ts : List Token) (f : StackFault) :
    evaluateTokens ts ≠ .error (.fault f) := by
  by_cases h : ts = []
  · simp [h]
  · have tree := evaluateTree_ne_fault ts f
    rw [evaluateTokens_eq_evaluateTree h]
    cases evaluated : evaluateTree ts with
    | error x =>
      rw [evaluated] at tree
      simpa [Except.map] using tree
    | ok v => simp [Except.map]

/-- The two ways of evaluation agree on every list of tokens, in the value and in the failure,
but for the empty list, which has no value on the one and cannot be parsed on the other.  So no
line breaks the stack, and only a line without tokens has neither a value nor a failure. -/
theorem evaluation_ways_agree :
    (∀ ts : List Token,
      evaluateTokens ts = if ts = [] then .ok none else (evaluateTree ts).map some) ∧
    evaluateTree [] = .error (.unreadable .incomplete) ∧
    (∀ (t : Text) (f : StackFault), evaluate t ≠ .error (.fault f)) ∧
    ∀ t : Text, evaluate t = .ok none ↔ Token.scan t = [] := by
  refine ⟨fun ts => ?_, evaluateTree_nil, fun t => evaluateTokens_ne_fault _,
    fun t => evaluateTokens_eq_none_iff⟩
  split
  · rename_i empty
    rw [empty, evaluateTokens_nil]
  · rename_i some_token
    exact evaluateTokens_eq_evaluateTree some_token

/-- The value of a line, if it has one. -/
def valueOf? (t : Text) : Option Rat := (evaluate t).toOption.join

theorem valueOf?_eq_some_iff {t : Text} {v : Rat} :
    valueOf? t = some v ↔ evaluate t = .ok (some v) := by
  unfold valueOf?
  cases evaluate t <;> simp [Except.toOption]

/-- Trying a line never fails: a line that cannot be read or breaks a rule counts as one without
a value. -/
theorem attempt_eq (t : Text) : attempt t = .ok (valueOf? t) := by
  unfold attempt valueOf?
  cases h : evaluate t with
  | ok v => rfl
  | error x =>
    have ordinary : x.isFault = false := by
      cases x with
      | fault f => exact absurd h (evaluateTokens_ne_fault _ f)
      | divisionByZero => rfl
      | negativeResult => rfl
      | unreadable y => rfl
    simp [ordinary, Except.toOption]

end ArithDrill
