import ArithDrill.Proofs.Folds
import ArithDrill.Proofs.Postorder
import Mathlib

/-!
# Postfix lists as traversals

The postfix list of a line lists the tree of the line in postorder: the literals and operators, the
operands of every operator before it.  A literal may be written in several ways, so the tree alone
leaves the texts of the numbers open; they are those of the line, in the same order.  The
conversion only ever moves tokens, from the line to the output or through its stack, so that it
makes up none and loses none but parentheses.

## Main definitions

* `Symbol` — what a token of a postfix list stands for.
* `Expr.postorder` — the symbols of a tree, operands first.
* `Postfix.Unstacks` — operators are put out from a stack and parentheses are dropped.
* `Postfix.Yard.Holds` — what the conversion has of the tokens that it has gone through.

## Main statements

* `Postfix.Yard.Holds.step`, `Postfix.Yard.holds_of_foldlM` — one token and many tokens.
* `Postfix.Spells.map_symbol?` — a list that spells a tree lists it in postorder.
* `Postfix.lists_tree_in_postorder` — what the postfix list of a line is.
-/

namespace ArithDrill

/-- What a token of a postfix list stands for. -/
inductive Symbol where
  /-- A number, as written. -/
  | literal (l : Literal)
  /-- An operator. -/
  | op (o : Op)
  deriving DecidableEq, Repr

/-- The symbols of a tree: left operand, right operand, operator. -/
def Expr.postorder : Expr → List Symbol
  | leaf l => [.literal l]
  | node o a b => a.postorder ++ b.postorder ++ [.op o]

namespace Token

/-- The symbol of a token; a parenthesis has none, and neither has a number that cannot be
read. -/
def symbol? : Token → Option Symbol
  | number t => (Literal.read t).toOption.map .literal
  | op o => some (.op o)
  | openParen | closeParen => none

theorem symbol?_eq_literal_iff {t : Token} {l : Literal} :
    t.symbol? = some (.literal l) ↔ ∃ text, t = number text ∧ Literal.read text = .ok l := by
  cases t with
  | number text => cases h : Literal.read text <;> simp [symbol?, h, Except.toOption]
  | op o => simp [symbol?]
  | openParen => simp [symbol?]
  | closeParen => simp [symbol?]

theorem symbol?_eq_op_iff {t : Token} {o : Op} : t.symbol? = some (.op o) ↔ t = op o := by
  cases t <;> simp [symbol?]

/-- Tokens with the same symbols and the same numbers are the same. -/
theorem eq_of_map_symbol? {ps qs : List Token} {ss : List Symbol}
    (hps : ps.map symbol? = ss.map some) (hqs : qs.map symbol? = ss.map some)
    (numbers : ps.filter isNumber = qs.filter isNumber) : ps = qs := by
  induction ss generalizing ps qs with
  | nil =>
    rw [List.map_eq_nil_iff.1 hps, List.map_eq_nil_iff.1 hqs]
  | cons s ss ih =>
    obtain ⟨p, ps', rfl, hp, rest⟩ := List.map_eq_cons_iff.1 hps
    obtain ⟨q, qs', rfl, hq, rest'⟩ := List.map_eq_cons_iff.1 hqs
    cases s with
    | literal l =>
      obtain ⟨text, rfl, -⟩ := symbol?_eq_literal_iff.1 hp
      obtain ⟨text', rfl, -⟩ := symbol?_eq_literal_iff.1 hq
      -- both lists begin with a number, so the first numbers are these
      rw [List.filter_cons_of_pos rfl, List.filter_cons_of_pos rfl] at numbers
      obtain ⟨same, others⟩ := List.cons.inj numbers
      rw [same, ih rest rest' others]
    | op o =>
      obtain rfl := symbol?_eq_op_iff.1 hp
      obtain rfl := symbol?_eq_op_iff.1 hq
      rw [ih rest rest' (by simpa [isNumber] using numbers)]

end Token

namespace Postfix

/-! ## What the conversion keeps -/

/-- From a stack and an output to others: operators are put out, and parentheses are dropped. -/
inductive Unstacks : List Waiting → List Token → List Waiting → List Token → Prop where
  /-- Nothing is put out. -/
  | refl (ws : List Waiting) (out : List Token) : Unstacks ws out ws out
  /-- An operator is put out first. -/
  | op {o : Op} {ws ws' : List Waiting} {out out' : List Token}
    (h : Unstacks ws (.op o :: out) ws' out') : Unstacks (.op o :: ws) out ws' out'
  /-- A parenthesis is dropped first. -/
  | paren {ws ws' : List Waiting} {out out' : List Token} (h : Unstacks ws out ws' out') :
    Unstacks (.paren :: ws) out ws' out'

section

variable {ws ws' : List Waiting} {out out' : List Token}

theorem unstacks_release (n : Nat) (ws : List Waiting) (out : List Token) :
    Unstacks ws out (release n ws out).1 (release n ws out).2 := by
  induction ws generalizing out with
  | nil => exact .refl [] out
  | cons w ws ih =>
    cases w with
    | paren => exact .refl _ out
    | op o =>
      rw [release]
      split
      · exact .op (ih (.op o :: out))
      · exact .refl _ out

theorem unstacks_of_close? (h : close? ws out = some (ws', out')) : Unstacks ws out ws' out' := by
  induction ws generalizing out with
  | nil => simp [close?] at h
  | cons w ws ih =>
    cases w with
    | paren =>
      obtain ⟨rfl, rfl⟩ : ws = ws' ∧ out = out' := by simpa [close?] using h
      exact .paren (.refl ws out)
    | op o => exact .op (ih h)

theorem unstacks_drain (ws : List Waiting) (out : List Token) :
    Unstacks ws out [] (drain ws out) := by
  induction ws generalizing out with
  | nil => exact .refl [] out
  | cons w ws ih =>
    cases w with
    | paren => exact .paren (ih out)
    | op o => exact .op (ih (.op o :: out))

/-- Putting out operators adds no number. -/
theorem Unstacks.filter_isNumber (h : Unstacks ws out ws' out') :
    out'.filter Token.isNumber = out.filter Token.isNumber := by
  induction h with
  | refl ws out => rfl
  | op h ih => simpa [Token.isNumber] using ih
  | paren h ih => exact ih

/-- Every operator is still there, on the stack or in the output. -/
theorem Unstacks.count_op (h : Unstacks ws out ws' out') (o : Op) :
    out'.count (.op o) + ws'.count (.op o) = out.count (.op o) + ws.count (.op o) := by
  induction h with
  | refl ws out => rfl
  | op h ih =>
    rw [ih]
    simp only [List.count_cons, beq_iff_eq, Token.op.injEq, Waiting.op.injEq]
    omega
  | paren h ih => simpa using ih

end

namespace Yard

/-- What the conversion has of the tokens `ts` that it has gone through. -/
structure Holds (ts : List Token) (y : Yard) : Prop where
  /-- The numbers have been put out, in order. -/
  numbers : y.output.reverse.filter Token.isNumber = ts.filter Token.isNumber
  /-- The operators have been put out or wait. -/
  operators : ∀ o, y.output.count (.op o) + y.waiting.count (.op o) = ts.count (.op o)

variable {ts us : List Token} {y z : Yard} {t : Token}

theorem holds_start : Holds [] start := ⟨rfl, fun _ => rfl⟩

/-- Putting out operators keeps what there is. -/
theorem Holds.unstack (h : y.Holds ts) {ws : List Waiting} {out : List Token}
    (unstacks : Unstacks y.waiting y.output ws out) (expects : Bool) :
    Holds ts ⟨out, ws, expects⟩ where
  numbers := by
    rw [List.filter_reverse, unstacks.filter_isNumber, ← List.filter_reverse, h.numbers]
  operators o := by rw [unstacks.count_op, h.operators]

/-- What one token does: a number is put out, an opening parenthesis waits, a closing one
unstacks, and an operator unstacks and waits. -/
theorem step_cases (h : y.step t = .ok z) :
    (∃ text, t = .number text ∧ z = ⟨t :: y.output, y.waiting, false⟩) ∨
    (t = .openParen ∧ z = ⟨y.output, .paren :: y.waiting, true⟩) ∨
    (∃ ws out, t = .closeParen ∧ Unstacks y.waiting y.output ws out ∧ z = ⟨out, ws, false⟩) ∨
    ∃ o ws out, t = .op o ∧ Unstacks y.waiting y.output ws out ∧ z = ⟨out, .op o :: ws, true⟩ := by
  obtain ⟨output, waiting, expects⟩ := y
  cases t with
  | number text =>
    cases expects with
    | false => simp [step] at h
    | true =>
      cases read : Literal.read text with
      | error x => simp [step, read] at h
      | ok l => exact .inl ⟨text, rfl, by simpa [step, read] using h.symm⟩
  | openParen =>
    cases expects with
    | false => simp [step] at h
    | true => exact .inr (.inl ⟨rfl, by simpa [step] using h.symm⟩)
  | closeParen =>
    cases expects with
    | true => simp [step] at h
    | false =>
      cases closed : close? waiting output with
      | none => simp [step, closed] at h
      | some p =>
        refine .inr (.inr (.inl ⟨p.1, p.2, rfl, unstacks_of_close? closed, ?_⟩))
        simpa [step, closed] using h.symm
  | op o =>
    cases expects with
    | true => simp [step] at h
    | false =>
      refine .inr (.inr (.inr ⟨o, _, _, rfl, unstacks_release o.precedence waiting output, ?_⟩))
      simpa [step] using h.symm

/-- One token keeps what there is and adds the token, unless it is a parenthesis. -/
theorem Holds.step (h : y.Holds ts) (stepped : y.step t = .ok z) : z.Holds (ts ++ [t]) := by
  obtain ⟨text, rfl, rfl⟩ | ⟨rfl, rfl⟩ | ⟨ws, out, rfl, unstacks, rfl⟩ |
    ⟨o, ws, out, rfl, unstacks, rfl⟩ := step_cases stepped
  · exact ⟨by simp [h.numbers], fun o => by simp [h.operators]⟩
  · exact ⟨by simp [h.numbers, Token.isNumber], fun o => by simp [h.operators]⟩
  · have kept := h.unstack unstacks false
    exact ⟨by simp [kept.numbers, Token.isNumber], fun o => by simp [kept.operators]⟩
  · have kept := h.unstack unstacks true
    refine ⟨by simp [kept.numbers, Token.isNumber], fun o' => ?_⟩
    have before := kept.operators o'
    simp only [List.count_append, List.count_cons, List.count_nil, beq_iff_eq, Token.op.injEq,
      Waiting.op.injEq] at before ⊢
    omega

/-- After many tokens, what the conversion has is of these tokens. -/
theorem holds_of_foldlM (run : ts.foldlM Yard.step start = .ok z) : z.Holds ts :=
  foldlM_keeps (P := fun done y => y.Holds done) Holds.step holds_start run

/-- At the end the stack is put out. -/
theorem eq_of_finish {ps : List Token} (h : y.finish = .ok ps) :
    (drain y.waiting y.output).reverse = ps := by
  rw [finish] at h
  split at h
  · simp at h
  · exact Except.ok.inj h

end Yard

/-- The postfix list has the numbers of the line, in the same order, and its operators. -/
theorem conserves_of_ofTokens {ts ps : List Token} (h : ofTokens ts = .ok ps) :
    ps.filter Token.isNumber = ts.filter Token.isNumber ∧
      ∀ o, ps.count (.op o) = ts.count (.op o) := by
  by_cases empty : ts = []
  · subst ts
    cases h
    simp
  · rw [ofTokens_eq_run empty, Yard.run] at h
    cases run : ts.foldlM Yard.step Yard.start with
    | error x => simp [run, Except.bind] at h
    | ok y =>
      have finished : y.finish = .ok ps := by simpa [run, Except.bind] using h
      have drained := (Yard.holds_of_foldlM run).unstack (unstacks_drain _ _) false
      rw [← Yard.eq_of_finish finished]
      exact ⟨drained.numbers, fun o => by simpa using drained.operators o⟩

/-! ## Postfix lists of trees -/

/-- A list that spells a tree lists it in postorder. -/
theorem Spells.map_symbol? {ps : List Token} {e : Expr} (h : Spells ps e) :
    ps.map Token.symbol? = e.postorder.map some := by
  induction h with
  | leaf h => simp [Token.symbol?, h, Except.toOption, Expr.postorder]
  | node o left right ihLeft ihRight =>
    simp [Expr.postorder, ihLeft, ihRight, Token.symbol?]

/-- The conversion and the parser refuse the same lists for the same reasons. -/
theorem ofTokens_eq_error_iff {ts : List Token} (some_token : ts ≠ []) {x : ParseError} :
    ofTokens ts = .error x ↔ Expr.ofTokens ts = .error x := by
  constructor
  · intro refused
    cases tree : Expr.ofTokens ts with
    | error y =>
      rw [ofTokens_of_error some_token tree] at refused
      exact congrArg Except.error (Except.error.inj refused)
    | ok e =>
      obtain ⟨ps, -, list⟩ := ofTokens_of_expr tree
      simp [list] at refused
  · exact ofTokens_of_error some_token

/-- The postfix list of a line lists the tree of the line. -/
theorem exists_tree_of_ofTokens {ts ps : List Token} (some_token : ts ≠ [])
    (h : ofTokens ts = .ok ps) :
    ∃ e, Expr.ofTokens ts = .ok e ∧ ps.map Token.symbol? = e.postorder.map some := by
  cases tree : Expr.ofTokens ts with
  | error x => simp [ofTokens_of_error some_token tree] at h
  | ok e =>
    obtain ⟨qs, spells, list⟩ := ofTokens_of_expr tree
    obtain rfl : ps = qs := by simpa [h] using list
    exact ⟨e, rfl, spells.map_symbol?⟩

/-- The postfix list of a line is the postorder of its tree.  The conversion refuses a list of
tokens exactly if the parser does, for the same reason.  Otherwise it gives the list that has the
symbols of the tree in postorder and the numbers of the line in their order.  The numbers have to be
asked for: a list with another spelling of one of them, such as `07` for `7`, has the same symbols
and is not the list that is given.  Without them the tree determines the list up to the way in which
its numbers are written.  No parenthesis is in the postfix list, and each operator is in it as often
as in the line. -/
theorem lists_tree_in_postorder (ts : List Token) (some_token : ts ≠ []) :
    (∀ x, ofTokens ts = .error x ↔ Expr.ofTokens ts = .error x) ∧
    (∀ ps : List Token, ofTokens ts = .ok ps ↔
      ∃ e, Expr.ofTokens ts = .ok e ∧ ps.map Token.symbol? = e.postorder.map some ∧
        ps.filter Token.isNumber = ts.filter Token.isNumber) ∧
    (∀ ps : List Token, (∃ qs, ofTokens ts = .ok qs ∧ ps.map Token.symbol? = qs.map Token.symbol?) ↔
      ∃ e, Expr.ofTokens ts = .ok e ∧ ps.map Token.symbol? = e.postorder.map some) ∧
    ∀ ps, ofTokens ts = .ok ps →
      .openParen ∉ ps ∧ .closeParen ∉ ps ∧
        ps.filter Token.isNumber = ts.filter Token.isNumber ∧
        ∀ o, ps.count (.op o) = ts.count (.op o) := by
  refine ⟨fun x => ofTokens_eq_error_iff some_token, fun ps => ⟨fun list => ?_, ?_⟩,
    fun ps => ⟨?_, ?_⟩, fun ps list => ?_⟩
  · obtain ⟨e, tree, symbols⟩ := exists_tree_of_ofTokens some_token list
    exact ⟨e, tree, symbols, (conserves_of_ofTokens list).1⟩
  · rintro ⟨e, tree, symbols, numbers⟩
    obtain ⟨qs, spells, list⟩ := ofTokens_of_expr tree
    have same : ps = qs := Token.eq_of_map_symbol? symbols spells.map_symbol?
      (numbers.trans (conserves_of_ofTokens list).1.symm)
    rw [list, same]
  · rintro ⟨qs, list, same⟩
    obtain ⟨e, tree, symbols⟩ := exists_tree_of_ofTokens some_token list
    exact ⟨e, tree, same.trans symbols⟩
  · rintro ⟨e, tree, symbols⟩
    obtain ⟨qs, spells, list⟩ := ofTokens_of_expr tree
    exact ⟨qs, list, symbols.trans spells.map_symbol?.symm⟩
  · obtain ⟨e, -, symbols⟩ := exists_tree_of_ofTokens some_token list
    have no_none : none ∉ ps.map Token.symbol? := by simp [symbols]
    obtain ⟨numbers, operators⟩ := conserves_of_ofTokens list
    exact ⟨fun h => no_none (List.mem_map_of_mem h), fun h => no_none (List.mem_map_of_mem h),
      numbers, operators⟩

/-- The postfix list of `2 × (03 - 1`, where a parenthesis is open and a number has a zero in
front, lists the tree of `2 × (3 - 1)` and keeps the zero. -/
theorem lists_open_product :
    let ts : List Token :=
      [.number "2".toList, .op .mul, .openParen, .number "03".toList, .op .sub, .number "1".toList]
    let ps : List Token :=
      [.number "2".toList, .number "03".toList, .number "1".toList, .op .sub, .op .mul]
    let e : Expr :=
      .node .mul (.leaf (.whole 2)) (.node .sub (.leaf (.whole 3)) (.leaf (.whole 1)))
    ts ≠ [] ∧ Expr.ofTokens ts = .ok e ∧ ps.map Token.symbol? = e.postorder.map some ∧
      ps.filter Token.isNumber = ts.filter Token.isNumber ∧ ofTokens ts = .ok ps ∧
      .openParen ∉ ps ∧ .closeParen ∉ ps ∧ ∀ o, ps.count (.op o) = ts.count (.op o) := by
  intro ts ps e
  have some_token : ts ≠ [] := by simp [ts]
  have tree : Expr.ofTokens ts = .ok e := by cbv
  have symbols : ps.map Token.symbol? = e.postorder.map some := by cbv
  have numbers : ps.filter Token.isNumber = ts.filter Token.isNumber := by cbv
  obtain ⟨-, lists, -, keeps⟩ := lists_tree_in_postorder ts some_token
  have list : ofTokens ts = .ok ps := (lists ps).2 ⟨e, tree, symbols, numbers⟩
  obtain ⟨no_opening, no_closing, -, operators⟩ := keeps ps list
  exact ⟨some_token, tree, symbols, numbers, list, no_opening, no_closing, operators⟩

end Postfix

end ArithDrill
