import ArithDrill.Expr.Parser

/-!
# The descent as a relation

The parser reads at three levels: a sum is level one, a product level two and a factor level
three.  A chain of level `n` is a reading of level `n + 1`, extended as long as an operator of
precedence `n` follows.  Said in this way sums and products follow the same rules, and what
holds of every run of the parser is proved by one induction with one case for each rule.

The relation serves proofs only.  `descent_sum` says that it holds of what the parser returns.

## Main definitions

* `Parser.Call` — what the parser is asked for.
* `Parser.Descent` — the rules by which it answers.

## Main statements

* `Parser.Descent.unique` — the rules give one answer to a call.
* `Parser.descent_sum` — the answer to every call follows from the rules.
-/

namespace ArithDrill.Parser

/-- A call of the parser. -/
inductive Call where
  /-- Read a tree of a level from the front of some tokens. -/
  | read (level : Nat) (ts : List Token)
  /-- Extend a tree to the right by operators of a level. -/
  | extend (level : Nat) (left : Expr) (ts : List Token)

/-- Every operator in front of the tokens has a precedence below `n`. -/
def StopsBelow (n : Nat) (ts : List Token) : Prop :=
  ∀ o, ts.head? = some (.op o) → o.precedence < n

/-- No operator has the precedence of a factor. -/
theorem stopsBelow_three (ts : List Token) : StopsBelow 3 ts := by
  intro o _
  rcases o.precedence_eq with h | h <;> omega

/-- Every operator has the precedence of a sum at least. -/
theorem not_stopsBelow_one (o : Op) (ts : List Token) : ¬ StopsBelow 1 (.op o :: ts) := by
  intro h
  have low := h o rfl
  rcases o.precedence_eq with h | h <;> omega

/-- The rules of the descent: the answer to a call. -/
inductive Descent : Call → Plain → Prop where
  /-- A factor is missing. -/
  | missing : Descent (.read 3 []) (.error .incomplete)
  /-- A factor is a number. -/
  | number {text : Text} {l : Literal} {ts : List Token} (h : Literal.read text = .ok l) :
    Descent (.read 3 (.number text :: ts)) (.ok (.leaf l, ts))
  /-- A number cannot be read. -/
  | badNumber {text : Text} {x : LiteralError} {ts : List Token}
    (h : Literal.read text = .error x) :
    Descent (.read 3 (.number text :: ts)) (.error (.literal x))
  /-- An operator is no factor. -/
  | strayOp {o : Op} {ts : List Token} :
    Descent (.read 3 (.op o :: ts)) (.error (.unexpected (.op o)))
  /-- A closing parenthesis is no factor. -/
  | strayClosing {ts : List Token} :
    Descent (.read 3 (.closeParen :: ts)) (.error (.unexpected .closeParen))
  /-- A factor is a sum in parentheses. -/
  | paren {ts rest : List Token} {e : Expr} (inner : Descent (.read 1 ts) (.ok (e, rest))) :
    Descent (.read 3 (.openParen :: ts)) (.ok (e, skipClosing rest))
  /-- A sum in parentheses fails. -/
  | parenFails {ts : List Token} {x : ParseError} (inner : Descent (.read 1 ts) (.error x)) :
    Descent (.read 3 (.openParen :: ts)) (.error x)
  /-- A chain begins with its first operand. -/
  | chain {n : Nat} {ts rest : List Token} {left : Expr} {r : Plain} (level : n < 3)
    (first : Descent (.read (n + 1) ts) (.ok (left, rest)))
    (others : Descent (.extend n left rest) r) : Descent (.read n ts) r
  /-- The first operand of a chain fails. -/
  | chainFails {n : Nat} {ts : List Token} {x : ParseError} (level : n < 3)
    (first : Descent (.read (n + 1) ts) (.error x)) : Descent (.read n ts) (.error x)
  /-- A chain ends where no operator of its level follows. -/
  | stop {n : Nat} {left : Expr} {ts : List Token}
    (h : ∀ o, ts.head? = some (.op o) → o.precedence ≠ n) :
    Descent (.extend n left ts) (.ok (left, ts))
  /-- A chain goes on with an operator and an operand. -/
  | step {n : Nat} {o : Op} {left right : Expr} {ts rest : List Token} {r : Plain}
    (level : o.precedence = n) (next : Descent (.read (n + 1) ts) (.ok (right, rest)))
    (others : Descent (.extend n (.node o left right) rest) r) :
    Descent (.extend n left (.op o :: ts)) r
  /-- An operand of a chain fails. -/
  | stepFails {n : Nat} {o : Op} {left : Expr} {ts : List Token} {x : ParseError}
    (level : o.precedence = n) (next : Descent (.read (n + 1) ts) (.error x)) :
    Descent (.extend n left (.op o :: ts)) (.error x)

namespace Descent

variable {n : Nat} {ts : List Token} {left : Expr}

/-- A chain, from the plain answers for its first operand and for the rest. -/
theorem read_bind {first : Plain} {others : Expr × List Token → Plain} (level : n < 3)
    (hf : Descent (.read (n + 1) ts) first)
    (ho : ∀ left rest, first = .ok (left, rest) →
      Descent (.extend n left rest) (others (left, rest))) :
    Descent (.read n ts) (first.bind others) := by
  cases first with
  | error x => exact .chainFails level hf
  | ok p => exact .chain level hf (ho p.1 p.2 rfl)

/-- A chain that goes on, from the plain answers for the next operand and for the rest. -/
theorem extend_bind {o : Op} {next : Plain} {others : Expr × List Token → Plain}
    (level : o.precedence = n) (hn : Descent (.read (n + 1) ts) next)
    (ho : ∀ right rest, next = .ok (right, rest) →
      Descent (.extend n (.node o left right) rest) (others (right, rest))) :
    Descent (.extend n left (.op o :: ts)) (next.bind others) := by
  cases next with
  | error x => exact .stepFails level hn
  | ok p => exact .step level hn (ho p.1 p.2 rfl)

/-- A sum in parentheses, from the plain answer for the sum. -/
theorem paren_map {inner : Plain} (h : Descent (.read 1 ts) inner) :
    Descent (.read 3 (.openParen :: ts)) (inner.map fun p => (p.1, skipClosing p.2)) := by
  cases inner with
  | error x => exact .parenFails h
  | ok p => exact .paren h

/-- The rules leave no choice: a call has one answer. -/
theorem unique {c : Call} {r r' : Plain} (h : Descent c r) (h' : Descent c r') :
    r = r' := by
  induction h generalizing r' with
  | missing =>
    cases h' with
    | missing => rfl
    | chain level | chainFails level => exact absurd level (Nat.lt_irrefl 3)
  | number h =>
    cases h' with
    | number h' | badNumber h' => simp_all
    | chain level | chainFails level => exact absurd level (Nat.lt_irrefl 3)
  | badNumber h =>
    cases h' with
    | number h' | badNumber h' => simp_all
    | chain level | chainFails level => exact absurd level (Nat.lt_irrefl 3)
  | strayOp =>
    cases h' with
    | strayOp => rfl
    | chain level | chainFails level => exact absurd level (Nat.lt_irrefl 3)
  | strayClosing =>
    cases h' with
    | strayClosing => rfl
    | chain level | chainFails level => exact absurd level (Nat.lt_irrefl 3)
  | paren _ ih =>
    cases h' with
    | paren inner =>
      cases ih inner
      rfl
    | parenFails inner => cases ih inner
    | chain level | chainFails level => exact absurd level (Nat.lt_irrefl 3)
  | parenFails _ ih =>
    cases h' with
    | paren inner => cases ih inner
    | parenFails inner =>
      cases ih inner
      rfl
    | chain level | chainFails level => exact absurd level (Nat.lt_irrefl 3)
  | chain level _ _ ihFirst ihOthers =>
    cases h' with
    | chain _ first others =>
      cases ihFirst first
      exact ihOthers others
    | chainFails _ first => cases ihFirst first
    | _ => exact absurd level (Nat.lt_irrefl 3)
  | chainFails level _ ih =>
    cases h' with
    | chain _ first _ => cases ih first
    | chainFails _ first =>
      cases ih first
      rfl
    | _ => exact absurd level (Nat.lt_irrefl 3)
  | stop h =>
    cases h' with
    | stop => rfl
    | step level | stepFails level => exact absurd level (h _ rfl)
  | step level _ _ ihNext ihOthers =>
    cases h' with
    | stop h => exact absurd level (h _ rfl)
    | step _ next others =>
      cases ihNext next
      exact ihOthers others
    | stepFails _ next => cases ihNext next
  | stepFails level _ ih =>
    cases h' with
    | stop h => exact absurd level (h _ rfl)
    | step _ next _ => cases ih next
    | stepFails _ next =>
      cases ih next
      rfl

end Descent

/-- A reading leaves fewer tokens than it was given. -/
theorem Reading.length_lt {n : Nat} {r : Reading n} {e : Expr} {rest : List Token}
    (h : r.plain = .ok (e, rest)) : rest.length < n := by
  cases r with
  | error x => cases h
  | ok p =>
    cases h
    exact p.2.2

/-! ## What the parser returns -/

/-- A sum ends where neither `+` nor `-` follows. -/
theorem plain_moreTerms_stop (left : Expr) {ts : List Token}
    (h : ∀ o, ts.head? = some (.op o) → o.precedence ≠ 1) :
    (moreTerms left ts).plain = .ok (left, ts) := by
  match ts with
  | .op o :: us => rw [plain_moreTerms_op, if_neg (h o rfl)]
  | [] => exact plain_moreTerms_of_not_op left (by simp)
  | .number _ :: _ => exact plain_moreTerms_of_not_op left (by simp)
  | .openParen :: _ => exact plain_moreTerms_of_not_op left (by simp)
  | .closeParen :: _ => exact plain_moreTerms_of_not_op left (by simp)

/-- A product ends where neither `×` nor `÷` follows. -/
theorem plain_moreFactors_stop (left : Expr) {ts : List Token}
    (h : ∀ o, ts.head? = some (.op o) → o.precedence ≠ 2) :
    (moreFactors left ts).plain = .ok (left, ts) := by
  match ts with
  | .op o :: us => rw [plain_moreFactors_op, if_neg (h o rfl)]
  | [] => exact plain_moreFactors_of_not_op left (by simp)
  | .number _ :: _ => exact plain_moreFactors_of_not_op left (by simp)
  | .openParen :: _ => exact plain_moreFactors_of_not_op left (by simp)
  | .closeParen :: _ => exact plain_moreFactors_of_not_op left (by simp)

mutual

/-- A sum is read by the rules. -/
theorem descent_sum (ts : List Token) : Descent (.read 1 ts) (sum ts).plain := by
  rw [plain_sum]
  refine .read_bind (by decide) (descent_product ts) fun left rest h => ?_
  have shorter := Reading.length_lt h
  exact descent_moreTerms left rest
termination_by (ts.length, 2)

/-- A sum is extended by the rules. -/
theorem descent_moreTerms (left : Expr) (ts : List Token) :
    Descent (.extend 1 left ts) (moreTerms left ts).plain := by
  by_cases head : ∃ o, ts.head? = some (.op o) ∧ o.precedence = 1
  · obtain ⟨o, ho, level⟩ := head
    obtain ⟨us, hts⟩ := List.head?_eq_some_iff.1 ho
    have here : ts.length = us.length + 1 := by rw [hts, List.length_cons]
    rw [hts, plain_moreTerms_op, if_pos level]
    refine .extend_bind level (descent_product us) fun right rest h => ?_
    have shorter := Reading.length_lt h
    exact descent_moreTerms (.node o left right) rest
  · rw [plain_moreTerms_stop left fun o ho level => head ⟨o, ho, level⟩]
    exact .stop fun o ho level => head ⟨o, ho, level⟩
termination_by (ts.length, 0)

/-- A product is read by the rules. -/
theorem descent_product (ts : List Token) : Descent (.read 2 ts) (product ts).plain := by
  rw [plain_product]
  refine .read_bind (by decide) (descent_factor ts) fun left rest h => ?_
  have shorter := Reading.length_lt h
  exact descent_moreFactors left rest
termination_by (ts.length, 1)

/-- A product is extended by the rules. -/
theorem descent_moreFactors (left : Expr) (ts : List Token) :
    Descent (.extend 2 left ts) (moreFactors left ts).plain := by
  by_cases head : ∃ o, ts.head? = some (.op o) ∧ o.precedence = 2
  · obtain ⟨o, ho, level⟩ := head
    obtain ⟨us, hts⟩ := List.head?_eq_some_iff.1 ho
    have here : ts.length = us.length + 1 := by rw [hts, List.length_cons]
    rw [hts, plain_moreFactors_op, if_pos level]
    refine .extend_bind level (descent_factor us) fun right rest h => ?_
    have shorter := Reading.length_lt h
    exact descent_moreFactors (.node o left right) rest
  · rw [plain_moreFactors_stop left fun o ho level => head ⟨o, ho, level⟩]
    exact .stop fun o ho level => head ⟨o, ho, level⟩
termination_by (ts.length, 0)

/-- A factor is read by the rules. -/
theorem descent_factor (ts : List Token) : Descent (.read 3 ts) (factor ts).plain := by
  match ts with
  | [] => rw [plain_factor_nil]; exact .missing
  | .openParen :: us => rw [plain_factor_openParen]; exact .paren_map (descent_sum us)
  | .number text :: us =>
    rw [plain_factor_number]
    cases h : Literal.read text with
    | error x => exact .badNumber h
    | ok l => exact .number h
  | .op o :: us => rw [plain_factor_op]; exact .strayOp
  | .closeParen :: us => rw [plain_factor_closeParen]; exact .strayClosing
termination_by (ts.length, 0)

end

end ArithDrill.Parser
