import ArithDrill.Proofs.Quotients
import ArithDrill.Proofs.Traversal
import Mathlib.Data.List.Basic
import Mathlib.Data.Option.Basic

/-!
# The stack as a forest

Any list of tokens may be given to the evaluation on a stack, also one that no line has.  At every
point where the evaluation has not failed, the stack holds the values of a row of trees, and the
tokens so far list these trees one after another.  So a list has a value exactly if it lists a
single tree that has this value.

Where the stack does not fit the list, counting tells why.  A number makes the stack higher by one
and an operator makes it lower by one, so that the first operator which finds fewer than two values
is the one that makes up for the numbers before it, and what is left over at the end is the numbers
less the operators.

## Main definitions

* `Token.trimmed` — a token without the blanks around its number.
* `Postfix.Lists` — a list of tokens lists a tree in postorder.
* `Postfix.Forest` — a list of tokens lists trees, and a stack holds their values.
* `Postfix.numbers`, `Postfix.operators` — how many numbers and operators are in a list.
* `Postfix.FirstShort` — the shortest beginning in which the operators are not outnumbered.

## Main statements

* `Postfix.push_eq_ok_iff`, `Postfix.push_eq_fault_iff` — what one token does.
* `Postfix.Forest.push`, `Postfix.exists_forest_of_foldlM` — one step and many steps.
* `Postfix.eval_cases` — what the evaluation of a list can come to.
* `Postfix.eval_eq_some_iff` — the lists that have a value.
* `Postfix.length_of_foldlM` — the height of the stack.
* `Postfix.eval_eq_fault_iff` — where the stack does not fit.
* `Postfix.eval_reads_forest` — values and faults of all lists.
-/

namespace ArithDrill

/-! ## Tokens and listings -/

namespace Token

/-- A token without the blanks around its number. -/
def trimmed : Token → Token
  | number t => number t.trim
  | t => t

/-- Whether a token is an operator. -/
def isOperator : Token → Bool
  | op _ => true
  | _ => false

end Token

namespace Postfix

/-- A list of tokens lists a tree in postorder, when the blanks around its numbers are left out. -/
def Lists (ps : List Token) (e : Expr) : Prop :=
  (ps.map Token.trimmed).map Token.symbol? = e.postorder.map some

/-- A list that lists a tree in postorder spells it. -/
theorem spells_iff {ps : List Token} {e : Expr} :
    Spells ps e ↔ ps.map Token.symbol? = e.postorder.map some := by
  refine ⟨Spells.map_symbol?, fun h => ?_⟩
  induction e generalizing ps with
  | leaf l =>
    obtain ⟨t, rfl, ht⟩ := List.map_eq_singleton_iff.1 h
    obtain ⟨text, rfl, read⟩ := Token.symbol?_eq_literal_iff.1 ht
    exact .leaf read
  | node o a b iha ihb =>
    rw [Expr.postorder, List.map_append, List.map_append] at h
    obtain ⟨operands, last, rfl, h, hlast⟩ := List.map_eq_append_iff.1 h
    obtain ⟨left, right, rfl, hleft, hright⟩ := List.map_eq_append_iff.1 h
    obtain ⟨t, rfl, ht⟩ := List.map_eq_singleton_iff.1 hlast
    obtain rfl := Token.symbol?_eq_op_iff.1 ht
    exact .node o (iha hleft) (ihb hright)

/-- Blanks around numbers do not matter to the stack. -/
theorem push_trimmed (stack : List Rat) (t : Token) : push stack t.trimmed = push stack t := by
  cases t with
  | number text => simp only [Token.trimmed, push, readNumber, Text.trim_trim]
  | op o => rfl
  | openParen => rfl
  | closeParen => rfl

theorem eval_map_trimmed (ps : List Token) : eval (ps.map Token.trimmed) = eval ps := by
  rw [eval, eval, List.foldlM_map]
  simp only [push_trimmed, List.isEmpty_map]

/-- A list that lists a tree has the value of the tree. -/
theorem Lists.eval_eq {ps : List Token} {e : Expr} (h : Lists ps e) :
    eval ps = e.eval.map some := by
  rw [← eval_map_trimmed, eval_of_spells (spells_iff.2 h)]

/-! ## What one token does -/

variable {stack stack' : List Rat} {t : Token} {ps done : List Token} {es : List Expr}

/-- A token is accepted if it is a number that can be read, which is put on the stack, or an
operator that has a result for the two topmost values, which replaces them. -/
theorem push_eq_ok_iff :
    push stack t = .ok stack' ↔
      (∃ text v, t = .number text ∧ readNumber text = .ok v ∧ stack' = v :: stack) ∨
      ∃ o a b vs v, t = .op o ∧ stack = b :: a :: vs ∧ o.apply a b = .ok v ∧ stack' = v :: vs := by
  match t, stack with
  | .number text, vs => cases read : readNumber text <;> simp [push, read, eq_comm]
  | .op o, b :: a :: vs => cases value : o.apply a b <;> simp [push, value, Except.map, eq_comm]
  | .op o, [] | .op o, [_] => simp [push]
  | .openParen, _ | .closeParen, _ => simp [push]

/-- The stack does not fit a token that is an operator with fewer than two values to apply it to,
or a parenthesis. -/
theorem push_eq_fault_iff {f : StackFault} :
    push stack t = .error (.fault f) ↔
      (∃ o, t = .op o ∧ stack.length < 2 ∧ f = .missingOperand o) ∨
      (t = .openParen ∨ t = .closeParen) ∧ f = .strayParenthesis := by
  match t, stack with
  | .number text, vs => cases read : readNumber text <;> simp [push, read]
  | .op o, b :: a :: vs =>
    have no_fault := o.apply_ne_fault a b f
    have enough : ¬vs.length + 1 + 1 < 2 := by omega
    cases value : o.apply a b with
    | error x =>
      rw [value] at no_fault
      simpa [push, value, Except.map, enough] using no_fault
    | ok v => simp [push, value, Except.map, enough]
  | .op o, [] | .op o, [_] => simp [push, eq_comm]
  | .openParen, _ | .closeParen, _ => simp [push, eq_comm]

/-! ## Values: the stack as a forest -/

/-- A list of tokens lists trees, one after another, and the stack holds their values, the last tree
on top. -/
structure Forest (ps : List Token) (stack : List Rat) (es : List Expr) : Prop where
  /-- The tokens list the trees. -/
  listing : (ps.map Token.trimmed).map Token.symbol? =
    (es.reverse.flatMap Expr.postorder).map some
  /-- The values are those of the trees. -/
  values : es.map Expr.eval = stack.map .ok

theorem forest_nil : Forest [] [] [] := ⟨rfl, rfl⟩

/-- One token keeps a forest: a number becomes a new tree, and an operator joins the last two. -/
theorem Forest.push (h : Forest done stack es) (step : push stack t = .ok stack') :
    ∃ es', Forest (done ++ [t]) stack' es' := by
  obtain ⟨text, v, rfl, read, rfl⟩ | ⟨o, a, b, vs, v, rfl, rfl, value, rfl⟩ :=
    push_eq_ok_iff.1 step
  · obtain ⟨l, literal, rfl⟩ := readNumber_eq_ok_iff.1 read
    refine ⟨.leaf l :: es, ?_, ?_⟩
    · simp [h.listing, Token.trimmed, Token.symbol?, literal, Except.toOption,
        Expr.postorder]
    · simp [h.values, Expr.eval]
  · obtain ⟨eb, others, rfl, hb, values⟩ := List.map_eq_cons_iff.1 h.values
    obtain ⟨ea, es', rfl, ha, values⟩ := List.map_eq_cons_iff.1 values
    refine ⟨.node o ea eb :: es', ?_, ?_⟩
    · simp [h.listing, Token.trimmed, Token.symbol?, Expr.postorder]
    · simp [values, Expr.eval, ha, hb, value, bind, Except.bind]

/-- Many tokens keep a forest. -/
theorem exists_forest_of_foldlM (run : ps.foldlM Postfix.push [] = .ok stack) :
    ∃ es, Forest ps stack es :=
  foldlM_keeps (P := fun done stack => ∃ es, Forest done stack es)
    (fun forest step => forest.elim fun _ h => h.push step) ⟨[], forest_nil⟩ run

/-- A list that leaves a single value lists a tree that has this value. -/
theorem exists_lists_of_foldlM {v : Rat} (run : ps.foldlM Postfix.push [] = .ok [v]) :
    ∃ e, Lists ps e ∧ e.eval = .ok v := by
  obtain ⟨es, forest⟩ := exists_forest_of_foldlM run
  obtain ⟨e, rfl, value⟩ := List.map_eq_singleton_iff.1 forest.values
  exact ⟨e, by simpa [Lists] using forest.listing, value⟩

/-- What the evaluation of a list can come to: there is nothing to evaluate, it is refused for one
of its tokens, it leaves a single value, or it leaves another number of values. -/
theorem eval_cases (ps : List Token) :
    (ps = [] ∧ eval ps = .ok none) ∨
    (∃ x, ps ≠ [] ∧ ps.foldlM Postfix.push [] = .error x ∧ eval ps = .error x) ∨
    (∃ v, ps ≠ [] ∧ ps.foldlM Postfix.push [] = .ok [v] ∧ eval ps = .ok (some v)) ∨
    ∃ stack, ps ≠ [] ∧ ps.foldlM Postfix.push [] = .ok stack ∧ stack.length ≠ 1 ∧
      eval ps = .error (.fault (.leftover stack.length)) := by
  by_cases empty : ps = []
  · exact .inl ⟨empty, by simp [eval, empty]⟩
  · rw [eval, if_neg (by simpa using empty)]
    cases run : ps.foldlM Postfix.push [] with
    | error x => exact .inr (.inl ⟨x, empty, rfl, rfl⟩)
    | ok stack =>
      obtain _ | ⟨v, _ | ⟨w, vs⟩⟩ := stack
      · exact .inr (.inr (.inr ⟨[], empty, rfl, by simp, rfl⟩))
      · exact .inr (.inr (.inl ⟨v, empty, rfl, rfl⟩))
      · exact .inr (.inr (.inr ⟨v :: w :: vs, empty, rfl, by simp, rfl⟩))

/-- Only the empty list has neither a value nor a failure. -/
theorem eval_eq_none_iff : eval ps = .ok none ↔ ps = [] := by
  obtain ⟨rfl, value⟩ | ⟨x, some_token, -, value⟩ | ⟨v, some_token, -, value⟩ |
    ⟨stack, some_token, -, -, value⟩ := eval_cases ps
  · simp [value]
  all_goals simp [value, some_token]

/-- A list has a value exactly if it lists a tree that has this value. -/
theorem eval_eq_some_iff {v : Rat} : eval ps = .ok (some v) ↔ ∃ e, Lists ps e ∧ e.eval = .ok v := by
  constructor
  · intro value
    obtain ⟨-, none⟩ | ⟨x, -, -, refused⟩ | ⟨w, -, run, single⟩ | ⟨stack, -, -, -, left⟩ :=
      eval_cases ps
    · simp [value] at none
    · simp [value] at refused
    · obtain rfl : v = w := by simpa [value] using single
      exact exists_lists_of_foldlM run
    · simp [value] at left
  · rintro ⟨e, lists, value⟩
    rw [lists.eval_eq, value]
    rfl

/-! ## One tree for a list -/

/-- A symbol joins the trees before it: a literal is a tree of its own, and an operator takes the
last two as its operands. -/
def plant (es : List Expr) (s : Symbol) : Option (List Expr) :=
  match s, es with
  | .literal l, es => some (.leaf l :: es)
  | .op o, b :: a :: es => some (.node o a b :: es)
  | .op _, _ => none

/-- The tree grows from its symbols, whatever stands before it. -/
theorem foldlM_plant_postorder (e : Expr) (es : List Expr) :
    e.postorder.foldlM plant es = some (e :: es) := by
  induction e generalizing es with
  | leaf l => rfl
  | node o a b iha ihb => simp [Expr.postorder, iha, ihb, plant]

/-- A list lists one tree at most. -/
theorem Lists.unique {e e' : Expr} (h : Lists ps e) (h' : Lists ps e') : e = e' := by
  have same : e.postorder = e'.postorder :=
    List.map_injective_iff.2 (Option.some_injective Symbol) (h.symm.trans h')
  have grown := foldlM_plant_postorder e []
  rw [same, foldlM_plant_postorder e' []] at grown
  exact (List.cons.inj (Option.some.inj grown)).1.symm

/-! ## Faults: the height of the stack -/

/-- How many numbers are in a list. -/
def numbers (ps : List Token) : Nat := ps.countP Token.isNumber

/-- How many operators are in a list. -/
def operators (ps : List Token) : Nat := ps.countP Token.isOperator

theorem numbers_append (ps qs : List Token) : numbers (ps ++ qs) = numbers ps + numbers qs :=
  List.countP_append

theorem operators_append (ps qs : List Token) :
    operators (ps ++ qs) = operators ps + operators qs :=
  List.countP_append

/-- A number makes the stack higher by one, and an operator makes it lower by one.  Either leaves a
value on it. -/
theorem length_of_push (step : push stack t = .ok stack') :
    stack'.length + operators [t] = stack.length + numbers [t] ∧ 0 < stack'.length := by
  obtain ⟨text, v, rfl, -, rfl⟩ | ⟨o, a, b, vs, v, rfl, rfl, -, rfl⟩ := push_eq_ok_iff.1 step
  · simp [operators, numbers, Token.isOperator, Token.isNumber]
  · simp [operators, numbers, Token.isOperator, Token.isNumber]

/-- The height of the stack after many tokens. -/
theorem length_of_foldlM (run : ps.foldlM Postfix.push [] = .ok stack) :
    stack.length + operators ps = numbers ps ∧ (ps ≠ [] → 0 < stack.length) := by
  refine foldlM_keeps (P := fun done stack => stack.length + operators done = numbers done ∧
    (done ≠ [] → 0 < stack.length)) (fun kept step => ?_) (by simp [operators, numbers]) run
  obtain ⟨height, left⟩ := length_of_push step
  rw [operators_append, numbers_append]
  exact ⟨by omega, fun _ => left⟩

/-- While the evaluation does not fail, the operators are outnumbered. -/
theorem operators_lt_numbers (run : done.foldlM Postfix.push [] = .ok stack)
    (some_token : done ≠ []) : operators done < numbers done := by
  obtain ⟨height, left⟩ := length_of_foldlM run
  have := left some_token
  omega

/-- In every beginning of a list that does not fail, the operators are outnumbered. -/
theorem outnumbered_of_prefix {qs : List Token} (run : done.foldlM Postfix.push [] = .ok stack)
    (beginning : qs <+: done) (some_token : qs ≠ []) : operators qs < numbers qs := by
  obtain ⟨rest, rfl⟩ := beginning
  obtain ⟨between, run', -⟩ := foldlM_append_eq_ok_iff.1 run
  exact operators_lt_numbers run' some_token

/-- The evaluation comes to the end of a list with the stack that its run leaves. -/
theorem reaches_end_iff : Reaches ps stack [] ↔ ps.foldlM Postfix.push [] = .ok stack := by
  simp [Reaches]

/-- A list is refused for a token that its evaluation comes to. -/
theorem foldlM_push_eq_error_iff {x : EvalError} :
    ps.foldlM Postfix.push [] = .error x ↔
      ∃ stack t next, Reaches ps stack (t :: next) ∧ push stack t = .error x := by
  rw [foldlM_eq_error_iff]
  constructor
  · rintro ⟨done, t, next, stack, rfl, run, fails⟩
    exact ⟨stack, t, next, ⟨done, rfl, run⟩, fails⟩
  · rintro ⟨stack, t, next, ⟨done, rfl, run⟩, fails⟩
    exact ⟨done, t, next, stack, rfl, run, fails⟩

/-- The stack does not fit a list exactly if it does not fit a token that the evaluation comes to,
or if another number of values than one is left at the end. -/
theorem eval_eq_fault_iff {f : StackFault} :
    eval ps = .error (.fault f) ↔
      (∃ stack t next, Reaches ps stack (t :: next) ∧ push stack t = .error (.fault f)) ∨
      ∃ stack, ps ≠ [] ∧ Reaches ps stack [] ∧ stack.length ≠ 1 ∧ f = .leftover stack.length := by
  simp only [← foldlM_push_eq_error_iff, reaches_end_iff]
  obtain ⟨rfl, value⟩ | ⟨x, some_token, run, value⟩ | ⟨v, some_token, run, value⟩ |
    ⟨stack, some_token, run, other, value⟩ := eval_cases ps
  · simp [value, pure, Except.pure]
  · simp [value, run]
  · simp [value, run]
  · simp [value, run, some_token, other, eq_comm]

/-- The shortest beginning of a list in which there are at least as many operators as numbers. -/
structure FirstShort (ps first : List Token) : Prop where
  /-- It is a beginning of the list. -/
  beginning : first <+: ps
  /-- There is a token in it. -/
  some_token : first ≠ []
  /-- There are at least as many operators as numbers. -/
  short : numbers first ≤ operators first
  /-- No shorter beginning is like this. -/
  least : ∀ qs, qs <+: ps → qs ≠ [] → numbers qs ≤ operators qs → first.length ≤ qs.length

/-- An operator that finds fewer than two values ends the shortest beginning in which the operators
are not outnumbered. -/
theorem firstShort_of_foldlM {o : Op} (run : done.foldlM Postfix.push [] = .ok stack)
    (low : stack.length < 2) (next : List Token) :
    FirstShort (done ++ .op o :: next) (done ++ [.op o]) where
  beginning := ⟨next, by simp⟩
  some_token := by simp
  short := by
    obtain ⟨height, -⟩ := length_of_foldlM run
    have one : operators [.op o] = 1 ∧ numbers [.op o] = 0 := ⟨rfl, rfl⟩
    rw [operators_append, numbers_append]
    omega
  least qs beginning some_token short := by
    by_contra shorter
    have before : qs <+: done := by
      refine List.prefix_of_prefix_length_le beginning (List.prefix_append done _) ?_
      simp only [List.length_append, List.length_singleton] at shorter
      omega
    have := outnumbered_of_prefix run before some_token
    omega

/-- The value of any list of tokens.  The empty list has none, and no other list has neither a value
nor a failure.  A list has a value exactly if it lists a tree that has this value, and it lists one
tree at most.  If there is no parenthesis in the list and the stack does not fit it, then either an
operator misses an operand, and it ends the shortest beginning in which there are at least as many
operators as numbers, or the operators are outnumbered in every beginning, and as many values are
left over as there are more numbers than operators in the list, which is two at least. -/
theorem eval_reads_forest (ps : List Token) :
    (eval ps = .ok none ↔ ps = []) ∧
    (∀ v, eval ps = .ok (some v) ↔ ∃ e, Lists ps e ∧ e.eval = .ok v) ∧
    (∀ e e', Lists ps e → Lists ps e' → e = e') ∧
    ∀ f, .openParen ∉ ps → .closeParen ∉ ps → eval ps = .error (.fault f) →
      (∃ o first, f = .missingOperand o ∧
        f.message = "opérande manquante pour ".toList ++ [o.symbol] ∧
        FirstShort ps first ∧ first.getLast? = some (.op o)) ∨
      ((∀ qs, qs <+: ps → qs ≠ [] → operators qs < numbers qs) ∧
        2 ≤ numbers ps - operators ps ∧ f = .leftover (numbers ps - operators ps) ∧
        f.message = Decimal.write (numbers ps - operators ps) ++
          " valeurs restantes sur la pile".toList) := by
  refine ⟨eval_eq_none_iff, fun v => eval_eq_some_iff, fun e e' => Lists.unique,
    fun f no_opening no_closing fault => ?_⟩
  obtain ⟨stack, t, next, ⟨done, rfl, run⟩, fails⟩ |
    ⟨stack, some_token, ⟨done, rfl, run⟩, other, rfl⟩ := eval_eq_fault_iff.1 fault
  · obtain ⟨o, rfl, low, rfl⟩ | ⟨rfl | rfl, -⟩ := push_eq_fault_iff.1 fails
    · exact .inl ⟨o, done ++ [.op o], rfl, rfl, firstShort_of_foldlM run low next, by simp⟩
    · simp at no_opening
    · simp at no_closing
  · rw [List.append_nil] at some_token ⊢
    obtain ⟨height, left⟩ := length_of_foldlM run
    have height_eq : stack.length = numbers done - operators done := by omega
    have some_left := left some_token
    rw [← height_eq]
    exact .inr ⟨fun qs => outnumbered_of_prefix run, by omega, rfl, rfl⟩

/-- The list `1 2 +` has the value of `1 + 2`, blanks around a number or not.  In `1 + 2` the sign
misses an operand, and in `1 2 3 +` two values are left over. -/
theorem faults_of_misplaced_sum :
    let two : Token := .number "2".toList
    let ps : List Token := [.number " 1 ".toList, two, .op .add]
    let few : List Token := [.number "1".toList, .op .add, two]
    let many : List Token := [.number "1".toList, two, .number "3".toList, .op .add]
    (∃ e, Lists ps e ∧ e.eval = .ok 3) ∧ eval ps = .ok (some 3) ∧
    (.openParen ∉ few ∧ .closeParen ∉ few ∧ eval few = .error (.fault (.missingOperand .add)) ∧
      ∃ first, FirstShort few first ∧ first.getLast? = some (.op .add)) ∧
    (.openParen ∉ many ∧ .closeParen ∉ many ∧ eval many = .error (.fault (.leftover 2)) ∧
      (∀ qs, qs <+: many → qs ≠ [] → operators qs < numbers qs) ∧
      2 = numbers many - operators many) := by
  intro two ps few many
  have tree : ∃ e, Lists ps e ∧ e.eval = .ok 3 :=
    ⟨.node .add (.leaf (.whole 1)) (.leaf (.whole 2)), by cbv, by cbv⟩
  have missing : eval few = .error (.fault (.missingOperand .add)) := by cbv
  have left : eval many = .error (.fault (.leftover 2)) := by cbv
  have few_plain : .openParen ∉ few ∧ .closeParen ∉ few := by decide
  have many_plain : .openParen ∉ many ∧ .closeParen ∉ many := by decide
  have value := ((eval_reads_forest ps).2.1 3).2 tree
  refine ⟨tree, value, ⟨few_plain.1, few_plain.2, missing, ?_⟩,
    ⟨many_plain.1, many_plain.2, left, ?_⟩⟩
  · obtain ⟨o, first, cause, -, short, last⟩ | ⟨-, -, cause, -⟩ :=
      (eval_reads_forest few).2.2.2 _ few_plain.1 few_plain.2 missing
    · cases cause
      exact ⟨first, short, last⟩
    · cases cause
  · obtain ⟨o, first, cause, -⟩ | ⟨outnumbered, -, cause, -⟩ :=
      (eval_reads_forest many).2.2.2 _ many_plain.1 many_plain.2 left
    · cases cause
    · exact ⟨outnumbered, StackFault.leftover.inj cause⟩

end Postfix

end ArithDrill
