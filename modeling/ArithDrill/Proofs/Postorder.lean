import ArithDrill.Postfix.Conversion
import ArithDrill.Postfix.Stack
import ArithDrill.Proofs.Descent

/-!
# Postfix lists and trees

The conversion to a postfix list keeps its own stack and knows nothing of trees.  Still it goes
through the same tokens as the parser, in the same order, and refuses the same ones.  Where the
parser has read a tree, the conversion has put out a list that spells this tree in postfix
order, or still holds operators that the next token releases.

The invariant that carries the induction is about the stack: while a chain of level `n` is read,
the innermost operator on the stack has a precedence below `n`, so that no operator of the chain
releases what was there before the chain began.

## Main definitions

* `Postfix.Spells` — a list of tokens spells a tree in postfix order.
* `Postfix.Yard.run` — the conversion from any state on.

## Main statements

* `Postfix.ofTokens_of_expr` — a tree that is parsed has its postfix list put out.
* `Postfix.ofTokens_of_error` — where parsing fails, the conversion fails for the same reason.
-/

namespace ArithDrill.Postfix

open ArithDrill.Parser

/-- A list of tokens spells a tree: the operands of every operator, then the operator. -/
inductive Spells : List Token → Expr → Prop where
  /-- A number spells a literal. -/
  | leaf {text : Text} {l : Literal} (h : Literal.read text = .ok l) :
    Spells [.number text] (.leaf l)
  /-- An operator comes after its operands. -/
  | node {ps qs : List Token} {a b : Expr} (o : Op) (left : Spells ps a) (right : Spells qs b) :
    Spells (ps ++ qs ++ [.op o]) (.node o a b)

/-- A list that spells a tree is not empty. -/
theorem Spells.ne_nil {ps : List Token} {e : Expr} (h : Spells ps e) : ps ≠ [] := by
  cases h <;> simp

/-! ## The conversion from any state on -/

/-- The postfix list that a state leads to when the given tokens are left. -/
def Yard.run (y : Yard) (ts : List Token) : Except ParseError (List Token) :=
  (ts.foldlM Yard.step y).bind Yard.finish

/-- The conversion of a list with tokens in it, as a run from the start. -/
theorem ofTokens_eq_run {ts : List Token} (h : ts ≠ []) : ofTokens ts = Yard.start.run ts := by
  rw [ofTokens, if_neg (by simpa using h)]
  rfl

namespace Yard

variable {out ts : List Token} {ws : List Waiting} {o : Op} {n : Nat}

theorem run_cons (y : Yard) (t : Token) (ts : List Token) :
    y.run (t :: ts) = (y.step t).bind fun z => z.run ts := by
  cases h : y.step t <;> simp [run, List.foldlM_cons, h, bind, Except.bind]

theorem run_nil (y : Yard) : y.run [] = y.finish := rfl

/-- A number is put out where a value is expected. -/
theorem run_number {text : Text} {l : Literal} (h : Literal.read text = .ok l) :
    run ⟨out, ws, true⟩ (.number text :: ts) = run ⟨.number text :: out, ws, false⟩ ts := by
  rw [run_cons, step, if_pos rfl, h]
  rfl

/-- An opening parenthesis waits where a value is expected. -/
theorem run_openParen :
    run ⟨out, ws, true⟩ (.openParen :: ts) = run ⟨out, .paren :: ws, true⟩ ts := by
  rw [run_cons]
  rfl

/-- The innermost operator on the stack has a precedence below `n`. -/
def Settled (n : Nat) (ws : List Waiting) : Prop :=
  ∀ o, ws.head? = some (.op o) → o.precedence < n

theorem Settled.mono {m : Nat} (h : Settled n ws) (le : n ≤ m) : Settled m ws :=
  fun o ho => Nat.lt_of_lt_of_le (h o ho) le

/-- A stack with a parenthesis on top is settled for every level. -/
theorem settled_paren (n : Nat) (ws : List Waiting) : Settled n (.paren :: ws) := by
  simp [Settled]

/-- A stack is settled above the precedence of the operator on top. -/
theorem settled_op (h : o.precedence < n) : Settled n (.op o :: ws) := by
  intro o' top
  cases top
  exact h

/-- Nothing is released from a stack that is settled. -/
theorem release_of_settled (h : Settled n ws) (out : List Token) :
    release n ws out = (ws, out) := by
  match ws with
  | [] => rfl
  | .paren :: _ => rfl
  | .op o :: _ =>
    have lower := h o rfl
    rw [release, if_neg (by omega)]

/-- An operator goes onto a stack that is settled for it. -/
theorem run_op (h : Settled o.precedence ws) :
    run ⟨out, ws, false⟩ (.op o :: ts) = run ⟨out, .op o :: ws, true⟩ ts := by
  rw [run_cons, step, if_neg Bool.false_ne_true]
  dsimp only
  rw [release_of_settled h]
  rfl

/-- An operator may be put out at once when none follows that binds more tightly. -/
theorem run_release (h : StopsBelow (o.precedence + 1) ts) :
    run ⟨out, .op o :: ws, false⟩ ts = run ⟨.op o :: out, ws, false⟩ ts := by
  match ts with
  | [] => rfl
  | .number _ :: _ => rfl
  | .openParen :: _ => rfl
  | .closeParen :: _ => rfl
  | .op o' :: _ =>
    have le : o'.precedence ≤ o.precedence := Nat.le_of_lt_succ (h o' rfl)
    rw [run_cons, run_cons, step, step, release, if_pos le]

/-- A parenthesis closes at its closing parenthesis or at the end; any other token but an
operator is refused, whether or not the parenthesis is open. -/
theorem run_paren (h : StopsBelow 1 ts) :
    run ⟨out, .paren :: ws, false⟩ ts = run ⟨out, ws, false⟩ (skipClosing ts) := by
  match ts with
  | [] => rfl
  | .number _ :: _ => rfl
  | .openParen :: _ => rfl
  | .closeParen :: _ => rfl
  | .op o :: _ => exact absurd h (not_stopsBelow_one o _)

end Yard

/-! ## The simulation -/

section

open Yard

/-- An answer of the parser for level `n` matches what the conversion comes to: the same error,
or a state that has put out a spelling of the tree and goes on with the same tokens. -/
def Matches (n : Nat) (out : List Token) (ws : List Waiting)
    (got : Except ParseError (List Token)) : Plain → Prop
  | .error x => got = .error x
  | .ok (e, rest) => StopsBelow n rest ∧
      ∃ ps, Spells ps e ∧ got = run ⟨ps.reverse ++ out, ws, false⟩ rest

/-- The conversion simulates an answer of the parser, from every settled state in which the
call can be made. -/
def Simulates : Call → Plain → Prop
  | .read n ts, r => ∀ out ws, Settled n ws → Matches n out ws (run ⟨out, ws, true⟩ ts) r
  | .extend n left ts, r => StopsBelow (n + 1) ts → ∀ ps, Spells ps left → ∀ out ws,
      Settled n ws → Matches n out ws (run ⟨ps.reverse ++ out, ws, false⟩ ts) r

/-- Every answer of the parser is simulated.  The induction is on the rules of the descent. -/
theorem simulates_of_descent {c : Call} {r : Plain} (h : Descent c r) : Simulates c r := by
  induction h with
  | missing => exact fun out ws _ => rfl
  | @number text l ts h =>
    intro out ws _
    exact ⟨stopsBelow_three ts, [.number text], .leaf h, run_number h⟩
  | @badNumber text x ts h =>
    intro out ws _
    show run _ _ = _
    rw [run_cons, step, if_pos rfl, h]
    rfl
  | strayOp => exact fun out ws _ => rfl
  | strayClosing => exact fun out ws _ => rfl
  | @paren ts rest e _ ih =>
    intro out ws _
    obtain ⟨stops, ps, spells, eq⟩ := ih out (.paren :: ws) (settled_paren 1 ws)
    exact ⟨stopsBelow_three _, ps, spells, by rw [run_openParen, eq, run_paren stops]⟩
  | parenFails _ ih =>
    intro out ws _
    show run _ _ = _
    rw [run_openParen]
    exact ih out (.paren :: ws) (settled_paren 1 ws)
  | @chain n ts rest left r _ _ _ ihFirst ihOthers =>
    intro out ws settled
    obtain ⟨stops, ps, spells, eq⟩ := ihFirst out ws (settled.mono (Nat.le_succ n))
    rw [eq]
    exact ihOthers stops ps spells out ws settled
  | chainFails _ _ ih => exact fun out ws settled => ih out ws (settled.mono (Nat.le_succ _))
  | @stop n left ts h =>
    intro stops ps spells out ws _
    refine ⟨fun o ho => ?_, ps, spells, rfl⟩
    have le := stops o ho
    have ne := h o ho
    omega
  | @step n o left right ts rest r level _ _ ihNext ihOthers =>
    intro _ ps spells out ws settled
    have above : Settled (n + 1) (.op o :: ws) := settled_op (by omega)
    obtain ⟨stops, qs, spellsRight, eq⟩ := ihNext (ps.reverse ++ out) (.op o :: ws) above
    rw [run_op (level ▸ settled), eq, run_release (level ▸ stops)]
    have joined := ihOthers stops _ (spells.node o spellsRight) out ws settled
    simpa using joined
  | @stepFails n o left ts x level _ ih =>
    intro _ ps _ out ws settled
    have above : Settled (n + 1) (.op o :: ws) := settled_op (by omega)
    rw [run_op (level ▸ settled)]
    exact ih (ps.reverse ++ out) (.op o :: ws) above

end

/-! ## Whole lists of tokens -/

/-- What comes of a list of tokens when the parser has read a sum from it. -/
private theorem matches_sum (ts : List Token) :
    Matches 1 [] [] (Yard.start.run ts) (sum ts).plain :=
  simulates_of_descent (descent_sum ts) [] [] (by simp [Yard.Settled])

/-- A list of tokens that the parser refuses is refused by the conversion, for the same
reason, unless it is empty. -/
theorem ofTokens_of_error {ts : List Token} {x : ParseError} (some_token : ts ≠ [])
    (h : Expr.ofTokens ts = .error x) : ofTokens ts = .error x := by
  rw [ofTokens_eq_run some_token]
  rw [Expr.ofTokens_eq] at h
  have simulated := matches_sum ts
  cases answer : (sum ts).plain with
  | error y =>
    rw [answer] at h simulated
    cases h
    exact simulated
  | ok p =>
    obtain ⟨e, rest⟩ := p
    rw [answer] at h simulated
    obtain ⟨stops, ps, -, eq⟩ := simulated
    rw [eq]
    match rest with
    | [] => cases h
    | .closeParen :: us => cases h; rfl
    | .number _ :: us => cases h; rfl
    | .openParen :: us => cases h; rfl
    | .op o :: us => exact absurd stops (not_stopsBelow_one o us)

/-- The tree of a list of tokens is spelled by the postfix list that the conversion makes of
them. -/
theorem ofTokens_of_expr {ts : List Token} {e : Expr} (h : Expr.ofTokens ts = .ok e) :
    ∃ ps, Spells ps e ∧ ofTokens ts = .ok ps := by
  rw [Expr.ofTokens_eq] at h
  have simulated := matches_sum ts
  cases answer : (sum ts).plain with
  | error y =>
    rw [answer] at h
    cases h
  | ok p =>
    obtain ⟨e', rest⟩ := p
    rw [answer] at h simulated
    obtain ⟨-, ps, spells, eq⟩ := simulated
    match rest with
    | [] =>
      cases h
      have some_token : ts ≠ [] := by
        rintro rfl
        cases eq
      refine ⟨ps, spells, ?_⟩
      rw [ofTokens_eq_run some_token, eq, Yard.run_nil]
      simp [Yard.finish, drain]
    | .closeParen :: us => cases h
    | .number _ :: us => cases h
    | .openParen :: us => cases h
    | .op o :: us => cases h

end ArithDrill.Postfix
