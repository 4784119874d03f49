import ArithDrill.Proofs.Chains
import ArithDrill.Proofs.Grammar

/-!
# Lines and the trees that they are read as

A tree has the numbers and the operators of its line in the same order, whatever parentheses stand
between them.

A chain has no parentheses, so that its tree follows from the precedences of its operators.  Read
from the left, each further operator takes the whole tree so far, or only the right operand of the
root if it binds more tightly than the root.  The invariant that carries the induction tells sums
from products: only a product may be taken whole by `×` and `÷`.

## Main definitions

* `Token.literal?` — the literal of a token.
* `Expr.followedBy` — a tree when an operator and a number follow.
* `Chain.tree` — the tree of a chain.

## Main statements

* `Expr.leaves_of_ofTokens`, `Expr.operators_of_ofTokens` — the order of a line is kept.
* `Chain.Groups.followedBy` — one more operator.
* `Chain.ofTokens_tokens` — a chain is read as its tree.
-/

namespace ArithDrill

open Token ArithDrill.Grammar

/-! ## The order of a line -/

/-- The literal of a token, if it is a number that can be read. -/
def Token.literal? : Token → Option Literal
  | number t => (Literal.read t).toOption
  | _ => none

namespace Grammar

variable {n : Nat} {ts : List Token} {e : Expr}

/-- The literals of a derived tree are those of the tokens, in order. -/
theorem Derives.filterMap_literal? (h : Derives n ts e) : ts.filterMap literal? = e.leaves := by
  induction h with
  | number h => simp [literal?, h, Except.toOption, Expr.leaves]
  | paren _ ih => simpa [literal?, List.filterMap_cons] using ih
  | operand _ _ ih => exact ih
  | chain _ _ _ ihLeft ihRight =>
    simp [literal?, List.filterMap_cons, ihLeft, ihRight, Expr.leaves]

/-- The operators of a derived tree are those of the tokens, in order. -/
theorem Derives.filterMap_operator? (h : Derives n ts e) :
    ts.filterMap operator? = e.operators := by
  induction h with
  | number h => rfl
  | paren _ ih => simpa [operator?, List.filterMap_cons] using ih
  | operand _ _ ih => exact ih
  | chain _ _ _ ihLeft ihRight =>
    simp [operator?, ihLeft, ihRight, Expr.operators]

end Grammar

namespace Expr

variable {ts : List Token} {e : Expr}

/-- The literals of a tree are those of the tokens that it is read from, in order. -/
theorem leaves_of_ofTokens (h : ofTokens ts = .ok e) : e.leaves = ts.filterMap literal? := by
  rw [← (derives_of_ofTokens h).2.filterMap_literal?, closed]
  simp [literal?]

/-- The operators of a tree are those of the tokens that it is read from, in order. -/
theorem operators_of_ofTokens (h : ofTokens ts = .ok e) : e.operators = ts.filterMap operator? := by
  rw [← (derives_of_ofTokens h).2.filterMap_operator?, closed]
  simp [operator?]

/-! ## The tree of a chain -/

/-- The tree of a line without parentheses, when an operator and a number follow.  The operator
takes the whole tree as its left operand, unless it binds more tightly than the root: then it takes
the right operand of the root. -/
def followedBy (e : Expr) (o : Op) (l : Literal) : Expr :=
  match e with
  | leaf m => node o (leaf m) (leaf l)
  | node p a b =>
    if p.precedence < o.precedence then node p a (node o b (leaf l))
    else node o (node p a b) (leaf l)

/-- `+` and `-` take the whole tree. -/
theorem followedBy_of_loose {o : Op} (loose : o.precedence = 1) (e : Expr) (l : Literal) :
    e.followedBy o l = node o e (leaf l) := by
  cases e with
  | leaf m => rfl
  | node p a b =>
    have least : ¬ p.precedence < o.precedence := by
      rcases p.precedence_eq with h | h <;> omega
    rw [followedBy, if_neg least]

end Expr

namespace Chain

/-- The tree of a chain, by the precedences of its operators. -/
def tree (c : Chain) : Expr := c.rest.foldl (fun e p => e.followedBy p.1 p.2) (.leaf c.first)

/-- How tokens without parentheses derive a tree: as a sum, or as a product of which the root is no
sum in parentheses. -/
inductive Groups : List Token → Expr → Prop where
  /-- A sum ends with a product. -/
  | sum {o : Op} {ts us : List Token} {a b : Expr} (level : o.precedence = 1)
    (left : Derives 1 ts a) (right : Derives 2 us b) : Groups (ts ++ .op o :: us) (.node o a b)
  /-- A product has `×` or `÷` at its root, or is a number. -/
  | product {ts : List Token} {e : Expr} (phrase : Derives 2 ts e)
    (root : ∀ o a b, e = .node o a b → o.precedence = 2) : Groups ts e

namespace Groups

variable {ts : List Token} {e : Expr}

theorem derives (h : Groups ts e) : Derives 1 ts e := by
  cases h with
  | sum level left right => exact .chain level left right
  | product phrase _ => exact .operand (by decide) phrase

/-- One more operator and number group by precedence. -/
theorem followedBy (h : Groups ts e) (o : Op) {l : Literal} (den : l.denominator ≠ 0) :
    Groups (ts ++ [.op o, .number l.render]) (e.followedBy o l) := by
  have number : Derives 3 [.number l.render] (.leaf l) := .number (Literal.read_render den)
  rcases o.precedence_eq with loose | tight
  · rw [Expr.followedBy_of_loose loose]
    exact .sum loose h.derives (.operand (by decide) number)
  · cases h with
    | @sum p ts us a b level left right =>
      have below : p.precedence < o.precedence := by omega
      rw [Expr.followedBy, if_pos below, List.append_assoc, List.cons_append]
      exact .sum level left (.chain tight right number)
    | product phrase root =>
      have whole : e.followedBy o l = .node o e (.leaf l) := by
        cases e with
        | leaf m => rfl
        | node p a b =>
          have same := root p a b rfl
          rw [Expr.followedBy, if_neg (by omega)]
      rw [whole]
      refine .product (.chain tight phrase number) fun o' a b root' => ?_
      cases root'
      exact tight

end Groups

variable {c : Chain}

/-- The tokens of a chain group to its tree.  The induction is on the operators from the left. -/
theorem groups_tree (readable : ∀ l ∈ c.numbers, l.denominator ≠ 0) : Groups c.tokens c.tree := by
  obtain ⟨first, rest⟩ := c
  induction rest using List.reverseRecOn with
  | nil =>
    have number : Derives 3 [.number first.render] (.leaf first) :=
      .number (Literal.read_render (readable first (by simp [numbers])))
    exact .product (.operand (by decide) number) (by simp [tree])
  | append_singleton rest p ih =>
    have before := ih fun l hl => readable l (by
      simp only [numbers, List.map_append, List.mem_cons, List.mem_append] at hl ⊢
      tauto)
    have last : p.2.denominator ≠ 0 := readable p.2 (by simp [numbers])
    have next := before.followedBy p.1 last
    simpa [tokens, tree] using next

/-- A chain is read as its tree. -/
theorem ofTokens_tokens (readable : ∀ l ∈ c.numbers, l.denominator ≠ 0) :
    Expr.ofTokens c.tokens = .ok c.tree :=
  (groups_tree readable).derives.ofTokens

/-- `4 - 1 + 2 × 3` is read as `(4 - 1) + (2 × 3)`. -/
example :
    tree ⟨.whole 4, [(.sub, .whole 1), (.add, .whole 2), (.mul, .whole 3)]⟩ =
      .node .add (.node .sub (.leaf (.whole 4)) (.leaf (.whole 1)))
        (.node .mul (.leaf (.whole 2)) (.leaf (.whole 3))) := rfl

/-- The text of a chain has the value of its tree, if any. -/
theorem valueOf?_render_eq_some_iff (readable : ∀ l ∈ c.numbers, l.denominator ≠ 0) {v : Rat} :
    valueOf? c.render = some v ↔ c.tree.eval = .ok v := by
  rw [valueOf?_eq_some_iff, evaluate, c.render_eq, scan_render c.apart_tokens,
    evaluateTokens_eq_some_iff, ofTokens_tokens readable]
  simp

/-- The literals of a chain are those of its tokens. -/
theorem filterMap_literal?_tokens (readable : ∀ l ∈ c.numbers, l.denominator ≠ 0) :
    c.tokens.filterMap literal? = c.numbers := by
  have read (l : Literal) (hl : l ∈ c.numbers) : literal? (number l.render) = some l := by
    simp [literal?, Literal.read_render (readable l hl), Except.toOption]
  have others : (c.rest.flatMap fun p => (literal? (number p.2.render)).toList)
      = c.rest.flatMap fun p => [p.2] :=
    List.flatMap_congr fun p hp => by
      rw [read p.2 (List.mem_cons_of_mem _ (List.mem_map_of_mem hp)), Option.toList_some]
  rw [filterMap_tokens, read c.first List.mem_cons_self, numbers, List.map_eq_flatMap, ← others]
  rfl

end Chain

end ArithDrill
