import ArithDrill.Proofs.Folds
import ArithDrill.Proofs.Signs
import Mathlib

/-!
# Which quotients are refused

A quotient that is a negative integer is refused and other negative quotients are not.  This rule
cannot be observed: no value on the stack is ever negative, so there are no negative quotients, and
what is refused as negative is always a difference.  Any rule that spares the quotients which are
not negative gives the same values and the same failures to all lines and all trees.

## Main definitions

* `QuotientRule` — a rule that says which quotients are refused.
* `Op.applyUnder`, `Expr.evalUnder`, `evaluateUnder` — evaluation under such a rule.
* `Postfix.Reaches`, `Computes` — a stack that the evaluation of a list or a line comes to.

## Main statements

* `Postfix.push_cases` — what one token can do.
* `Postfix.nonneg_of_push`, `Postfix.Reaches.nonneg` — one step and many steps of an evaluation.
* `Postfix.exists_reaches_of_eval` — what is refused as negative is a difference.
* `evaluateUnder_eq`, `Expr.evalUnder_eq` — the rule cannot be observed.
* `refusals_are_differences` — the same for lines, with the signs of all values on the way.
-/

namespace ArithDrill

/-! ## Evaluation under a rule -/

/-- A rule that says which quotients are refused as negative. -/
abbrev QuotientRule := Rat → Bool

namespace QuotientRule

/-- Negative integers are refused: the rule of the exercises. -/
def integers : QuotientRule := fun q => q.isInt && decide (q < 0)

/-- Everything negative is refused. -/
def strict : QuotientRule := fun q => decide (q < 0)

/-- Nothing is refused. -/
def lenient : QuotientRule := fun _ => false

/-- A rule refuses negative quotients only. -/
def Spares (rule : QuotientRule) : Prop := ∀ q, rule q = true → q < 0

theorem spares_strict : strict.Spares := by simp [Spares, strict]

theorem spares_lenient : lenient.Spares := by simp [Spares, lenient]

end QuotientRule

/-- The value of `a o b` when `rule` decides about quotients. -/
def Op.applyUnder (rule : QuotientRule) (o : Op) (a b : Rat) : Except EvalError Rat :=
  match o with
  | div =>
    if b = 0 then .error .divisionByZero
    else if rule (a / b) then .error .negativeResult else .ok (a / b)
  | o => o.apply a b

/-- The value of a tree when `rule` decides about quotients. -/
def Expr.evalUnder (rule : QuotientRule) : Expr → Except EvalError Rat
  | leaf l => .ok l.value
  | node o a b => do
    let x ← a.evalUnder rule
    let y ← b.evalUnder rule
    o.applyUnder rule x y

namespace Postfix

/-- The effect of one token on the stack when `rule` decides about quotients. -/
def pushUnder (rule : QuotientRule) (stack : List Rat) (t : Token) : Except EvalError (List Rat) :=
  match t, stack with
  | .op o, b :: a :: vs => (o.applyUnder rule a b).map fun v => v :: vs
  | t, vs => push vs t

/-- The value of a postfix list when `rule` decides about quotients. -/
def evalUnder (rule : QuotientRule) (ts : List Token) : Except EvalError (Option Rat) :=
  if ts.isEmpty then .ok none
  else do
    let vs ← ts.foldlM (pushUnder rule) []
    result vs

end Postfix

/-- The value of a line when `rule` decides about quotients. -/
def evaluateUnder (rule : QuotientRule) (t : Text) : Except EvalError (Option Rat) :=
  match Postfix.ofTokens (Token.scan t) with
  | .error e => .error (.unreadable e)
  | .ok ps => Postfix.evalUnder rule ps

/-! ## The rule of the exercises

Under this rule everything is evaluated as ever, whatever the operands are. -/

section

open QuotientRule

theorem Op.applyUnder_integers : Op.applyUnder integers = Op.apply := by
  funext o a b
  cases o with
  | div => simp [applyUnder, apply, integers]
  | add | sub | mul => rfl

theorem Expr.evalUnder_integers : Expr.evalUnder integers = Expr.eval := by
  funext e
  induction e with
  | leaf l => rfl
  | node o a b ihLeft ihRight => rw [evalUnder, eval, ihLeft, ihRight, Op.applyUnder_integers]

theorem Postfix.pushUnder_integers : Postfix.pushUnder integers = Postfix.push := by
  funext stack t
  match t, stack with
  | .op o, b :: a :: vs => rw [pushUnder, Op.applyUnder_integers, push]
  | .op o, [] | .op o, [_] => rfl
  | .number _, _ | .openParen, _ | .closeParen, _ => rfl

theorem Postfix.evalUnder_integers : Postfix.evalUnder integers = Postfix.eval := by
  funext ts
  rw [evalUnder, eval, pushUnder_integers]

theorem evaluateUnder_integers : evaluateUnder integers = evaluate := by
  funext t
  unfold evaluateUnder evaluate evaluateTokens
  cases Postfix.ofTokens (Token.scan t) with
  | error x => rfl
  | ok ps => exact congrFun Postfix.evalUnder_integers ps

end

/-- Rules differ where an operand is negative. -/
example : Op.div.applyUnder .strict (-1) 2 = .error .negativeResult ∧
    Op.div.applyUnder .integers (-1) 2 = .ok (-1 / 2) := by cbv

/-! ## Operators on operands that are not negative -/

namespace Op

variable {o : Op} {a b : Rat} {rule : QuotientRule}

/-- The rule for quotients makes no difference: there is no negative quotient. -/
theorem applyUnder_eq (spares : rule.Spares) (ha : 0 ≤ a) (hb : 0 ≤ b) :
    o.applyUnder rule a b = o.apply a b := by
  cases o with
  | add | sub | mul => rfl
  | div =>
    by_cases zero : b = 0
    · simp [applyUnder, apply, zero]
    · have not_negative : ¬ a / b < 0 := Rat.not_lt.2 (div_nonneg ha hb zero)
      have not_refused : rule (a / b) ≠ true := fun refused => not_negative (spares _ refused)
      simp [applyUnder, apply, zero, not_negative, not_refused]

/-- What an operator refuses as negative is a difference. -/
theorem apply_eq_negativeResult_iff (ha : 0 ≤ a) (hb : 0 ≤ b) :
    o.apply a b = .error .negativeResult ↔ o = sub ∧ a < b := by
  rw [← applyUnder_eq QuotientRule.spares_lenient ha hb]
  cases o with
  | add | mul => simp [applyUnder, apply]
  | sub => simp [applyUnder, apply]
  | div => by_cases zero : b = 0 <;> simp [applyUnder, QuotientRule.lenient, zero]

end Op

/-! ## One step on the stack -/

namespace Postfix

/-- No value on the stack is negative. -/
def Nonneg (stack : List Rat) : Prop := ∀ v ∈ stack, 0 ≤ v

theorem nonneg_cons {v : Rat} {vs : List Rat} : Nonneg (v :: vs) ↔ 0 ≤ v ∧ Nonneg vs := by
  simp [Nonneg]

variable {stack stack' : List Rat} {t : Token} {ts : List Token} {rule : QuotientRule}

/-- What one token can do: put a number that it reads as on the stack, apply an operator to the two
topmost values, or fail in a way that has nothing to do with signs. -/
theorem push_cases (stack : List Rat) (t : Token) :
    (∃ text v, readNumber text = .ok v ∧ push stack t = .ok (v :: stack)) ∨
    (∃ o a b vs, t = .op o ∧ stack = b :: a :: vs ∧
      push stack t = (o.apply a b).map fun v => v :: vs) ∨
    ∃ x, x ≠ .negativeResult ∧ push stack t = .error x := by
  match t, stack with
  | .number text, vs =>
    cases read : readNumber text with
    | error x => exact .inr (.inr ⟨.unreadable (.literal x), by simp, by simp [push, read]⟩)
    | ok v => exact .inl ⟨text, v, read, by simp [push, read]⟩
  | .op o, b :: a :: vs => exact .inr (.inl ⟨o, a, b, vs, rfl, rfl, rfl⟩)
  | .op o, [] | .op o, [_] => exact .inr (.inr ⟨.fault (.missingOperand o), by simp, rfl⟩)
  | .openParen, _ | .closeParen, _ => exact .inr (.inr ⟨.fault .strayParenthesis, by simp, rfl⟩)

/-- One token keeps the stack free of negative values. -/
theorem nonneg_of_push (h : Nonneg stack) (step : push stack t = .ok stack') : Nonneg stack' := by
  rcases push_cases stack t with ⟨text, v, read, pushed⟩ | ⟨o, a, b, vs, -, rfl, pushed⟩ |
    ⟨x, -, failed⟩
  · obtain rfl := Except.ok.inj (pushed.symm.trans step)
    exact nonneg_cons.2 ⟨nonneg_of_readNumber read, h⟩
  · obtain ⟨hb, ha, hvs⟩ : 0 ≤ b ∧ 0 ≤ a ∧ Nonneg vs := by simpa [nonneg_cons] using h
    rw [pushed] at step
    cases value : o.apply a b with
    | error x => simp [value, Except.map] at step
    | ok v =>
      obtain rfl : v :: vs = stack' := by simpa [value, Except.map] using step
      exact nonneg_cons.2 ⟨Op.apply_nonneg ha hb value, hvs⟩
  · rw [failed] at step
    cases step

/-- What a token is refused for as negative is a difference. -/
theorem exists_sub_of_push (h : Nonneg stack) (refused : push stack t = .error .negativeResult) :
    ∃ a b vs, t = .op .sub ∧ stack = b :: a :: vs ∧ a < b := by
  rcases push_cases stack t with ⟨text, v, -, pushed⟩ | ⟨o, a, b, vs, rfl, rfl, pushed⟩ |
    ⟨x, other, failed⟩
  · rw [pushed] at refused
    cases refused
  · obtain ⟨hb, ha, -⟩ : 0 ≤ b ∧ 0 ≤ a ∧ Nonneg vs := by simpa [nonneg_cons] using h
    rw [pushed] at refused
    have applied : o.apply a b = .error .negativeResult := by
      cases value : o.apply a b with
      | error x => simpa [value, Except.map] using refused
      | ok v => simp [value, Except.map] at refused
    obtain ⟨rfl, less⟩ := (Op.apply_eq_negativeResult_iff ha hb).1 applied
    exact ⟨a, b, vs, rfl, rfl, less⟩
  · exact absurd (Except.error.inj (failed.symm.trans refused)) other

/-- The rule for quotients makes no difference to one token. -/
theorem pushUnder_eq (spares : rule.Spares) (h : Nonneg stack) :
    pushUnder rule stack t = push stack t := by
  match t, stack with
  | .op o, b :: a :: vs =>
    obtain ⟨hb, ha, -⟩ : 0 ≤ b ∧ 0 ≤ a ∧ Nonneg vs := by simpa [nonneg_cons] using h
    rw [pushUnder, Op.applyUnder_eq spares ha hb, push]
  | .op o, [] | .op o, [_] => rfl
  | .number _, _ | .openParen, _ | .closeParen, _ => rfl

/-! ## Many steps on the stack -/

/-- Many tokens keep the stack free of negative values. -/
theorem nonneg_of_foldlM (h : Nonneg stack) (run : ts.foldlM push stack = .ok stack') :
    Nonneg stack' :=
  foldlM_keeps (P := fun _ => Nonneg) nonneg_of_push h run

/-- The rule for quotients makes no difference to many tokens. -/
theorem foldlM_pushUnder_eq (spares : rule.Spares) (h : Nonneg stack) :
    ts.foldlM (pushUnder rule) stack = ts.foldlM push stack := by
  induction ts generalizing stack with
  | nil => rfl
  | cons t ts ih =>
    rw [List.foldlM_cons, List.foldlM_cons, pushUnder_eq spares h]
    cases step : push stack t with
    | error x => rfl
    | ok next => exact ih (nonneg_of_push h step)

/-- The evaluation of a postfix list comes to a stack, where the tokens `next` are left. -/
def Reaches (ps : List Token) (stack : List Rat) (next : List Token) : Prop :=
  ∃ done, ps = done ++ next ∧ done.foldlM push [] = .ok stack

/-- No value that an evaluation comes to is negative. -/
theorem Reaches.nonneg {ps next : List Token} (h : Reaches ps stack next) : Nonneg stack := by
  obtain ⟨done, -, run⟩ := h
  exact nonneg_of_foldlM (by simp [Nonneg]) run

/-- The value of a postfix list is refused as negative at a difference below zero. -/
theorem exists_reaches_of_eval (refused : eval ts = .error .negativeResult) :
    ∃ a b vs next, Reaches ts (b :: a :: vs) (.op .sub :: next) ∧ a < b := by
  have failed : ts.foldlM push [] = .error .negativeResult := by
    unfold eval at refused
    split at refused
    · cases refused
    · cases run : ts.foldlM push [] with
      | error x => simpa [run, bind, Except.bind] using refused
      | ok vs =>
        rw [run] at refused
        match vs with
        | [] | [_] | _ :: _ :: _ => cases refused
  obtain ⟨done, t, next, between, rfl, run, fails⟩ := foldlM_eq_error_iff.1 failed
  have nonneg : Nonneg between := nonneg_of_foldlM (by simp [Nonneg]) run
  obtain ⟨a, b, vs, rfl, rfl, less⟩ := exists_sub_of_push nonneg fails
  exact ⟨a, b, vs, next, ⟨done, rfl, run⟩, less⟩

/-- The rule for quotients makes no difference to a postfix list. -/
theorem evalUnder_eq (spares : rule.Spares) (ts : List Token) : evalUnder rule ts = eval ts := by
  rw [evalUnder, eval, foldlM_pushUnder_eq spares (by simp [Nonneg])]

end Postfix

/-! ## Trees and lines -/

variable {rule : QuotientRule}

/-- The rule for quotients makes no difference to a tree. -/
theorem Expr.evalUnder_eq (spares : rule.Spares) (e : Expr) : e.evalUnder rule = e.eval := by
  induction e with
  | leaf l => rfl
  | node o a b ihLeft ihRight =>
    rw [evalUnder, eval, ihLeft, ihRight]
    cases left : a.eval with
    | error x => rfl
    | ok x =>
      cases right : b.eval with
      | error y => rfl
      | ok y => exact Op.applyUnder_eq spares (a.eval_nonneg left) (b.eval_nonneg right)

/-- The rule for quotients makes no difference to a line. -/
theorem evaluateUnder_eq (spares : rule.Spares) (t : Text) : evaluateUnder rule t = evaluate t := by
  unfold evaluateUnder evaluate evaluateTokens
  cases Postfix.ofTokens (Token.scan t) with
  | error x => rfl
  | ok ps => exact Postfix.evalUnder_eq spares ps

/-- The evaluation of a line comes to a stack, where the tokens `next` of its postfix list are
left. -/
def Computes (t : Text) (stack : List Rat) (next : List Token) : Prop :=
  ∃ ps, Postfix.ofTokens (Token.scan t) = .ok ps ∧ Postfix.Reaches ps stack next

/-- A line is refused as negative at a difference below zero. -/
theorem exists_computes_of_evaluate {t : Text} (refused : evaluate t = .error .negativeResult) :
    ∃ a b vs next, Computes t (b :: a :: vs) (.op .sub :: next) ∧ a < b := by
  unfold evaluate evaluateTokens at refused
  cases list : Postfix.ofTokens (Token.scan t) with
  | error x => simp [list] at refused
  | ok ps =>
    rw [list] at refused
    obtain ⟨a, b, vs, next, reaches, less⟩ := Postfix.exists_reaches_of_eval refused
    exact ⟨a, b, vs, next, ⟨ps, list, reaches⟩, less⟩

/-- No value of a line is negative, and neither is any that its evaluation comes to on the way.
What is refused as negative is always a difference of which the left side is smaller, and never a
quotient.  So the rule for quotients may be replaced by any other that spares those which are not
negative, such as `strict` or `lenient`: all lines, and all trees that have been parsed, keep their
values and their failures. -/
theorem refusals_are_differences :
    (∀ t v, evaluate t = .ok (some v) → 0 ≤ v) ∧
    (∀ t stack next, Computes t stack next → ∀ v ∈ stack, 0 ≤ v) ∧
    (∀ t, evaluate t = .error .negativeResult →
      ∃ a b vs next, Computes t (b :: a :: vs) (.op .sub :: next) ∧ a < b) ∧
    (∀ t a b vs next, Computes t (b :: a :: vs) (.op .div :: next) →
      Op.div.apply a b ≠ .error .negativeResult) ∧
    (evaluateUnder .integers = evaluate ∧ Expr.evalUnder .integers = Expr.eval) ∧
    ∀ rule : QuotientRule, rule.Spares →
      (∀ t, evaluateUnder rule t = evaluate t) ∧
      ∀ ts e, Expr.ofTokens ts = .ok e → e.evalUnder rule = e.eval := by
  have nonneg : ∀ t stack next, Computes t stack next → ∀ v ∈ stack, 0 ≤ v := by
    rintro t stack next ⟨ps, -, reaches⟩
    exact reaches.nonneg
  refine ⟨fun t v => evaluate_nonneg, nonneg, fun t => exists_computes_of_evaluate, ?_,
    ⟨evaluateUnder_integers, Expr.evalUnder_integers⟩, ?_⟩
  · intro t a b vs next computes refused
    have signs := nonneg t _ _ computes
    have sub := (Op.apply_eq_negativeResult_iff (signs a (by simp)) (signs b (by simp))).1 refused
    exact absurd sub.1 (by decide)
  · intro rule spares
    exact ⟨evaluateUnder_eq spares, fun _ e _ => e.evalUnder_eq spares⟩

/-- In `5 ÷ (1 - 2)` the difference is refused, before anything is divided; `(2 - 1) ÷ 2` has a
value.  Neither depends on the rule for quotients. -/
theorem refused_difference :
    let bad : Text := "5 ÷ (1 - 2)".toList
    let good : Text := "(2 - 1) ÷ 2".toList
    evaluate good = .ok (some (1 / 2)) ∧ (0 : Rat) ≤ 1 / 2 ∧
      evaluate bad = .error .negativeResult ∧
      (∃ a b vs next, Computes bad (b :: a :: vs) (.op .sub :: next) ∧ a < b) ∧
      Computes good [2, 1] [.op .div] ∧ (∀ v ∈ [(2 : Rat), 1], 0 ≤ v) ∧
      Op.div.apply 1 2 ≠ .error .negativeResult ∧
      QuotientRule.strict.Spares ∧ evaluateUnder .strict bad = .error .negativeResult ∧
      QuotientRule.lenient.Spares ∧ evaluateUnder .lenient bad = .error .negativeResult ∧
      ∃ e, Expr.ofText good = .ok e ∧ e.evalUnder .strict = .ok (1 / 2) := by
  intro bad good
  obtain ⟨values, on_stack, differences, quotients, -, rules⟩ := refusals_are_differences
  have value : evaluate "(2 - 1) ÷ 2".toList = .ok (some (1 / 2)) := by cbv
  have refused : evaluate "5 ÷ (1 - 2)".toList = .error .negativeResult := by cbv
  have list : Postfix.ofTokens (Token.scan "(2 - 1) ÷ 2".toList) =
      .ok [.number ['2'], .number ['1'], .op .sub, .number ['2'], .op .div] := by cbv
  have run : [.number ['2'], .number ['1'], .op .sub, .number ['2']].foldlM Postfix.push [] =
      .ok [2, 1] := by cbv
  have computes : Computes good [2, 1] [.op .div] := ⟨_, list, _, rfl, run⟩
  obtain ⟨e, tree, eval⟩ := evaluateTokens_eq_some_iff.1 value
  have strict := rules .strict QuotientRule.spares_strict
  have lenient := rules .lenient QuotientRule.spares_lenient
  exact ⟨value, values good _ value, refused, differences bad refused, computes,
    on_stack good _ _ computes, quotients good 1 2 [] [] computes,
    QuotientRule.spares_strict, (strict.1 bad).trans refused,
    QuotientRule.spares_lenient, (lenient.1 bad).trans refused,
    e, tree, (strict.2 _ e tree).trans eval⟩

end ArithDrill
