import ArithDrill.Expr.Parser
import ArithDrill.Proofs.Postorder
import ArithDrill.Proofs.Scanning

/-!
# Written trees read back

The text of a tree has parentheses around every operator, so that each of its operands is a
factor.  The scanner cuts the text at these parentheses and at the operators, and the parser
finds the tree again, whatever follows.  This takes literals that can be read, and only such
literals are in the trees that the parser returns.

## Main definitions

* `Expr.tokens` — the tokens of the text of a tree.
* `Expr.Readable` — all literals of a tree can be read.

## Main statements

* `Expr.scan_render` — the tokens of the text of a tree.
* `Expr.ofText_render` — the text of a tree is read as this tree.
* `Expr.render_injective` — different trees have different texts.
* `Expr.readable_of_ofTokens` — the trees that the parser returns are readable.
* `Expr.text_reads_back` — which trees are read back from their texts.
-/

namespace ArithDrill

namespace Expr

open Token ArithDrill.Parser

/-- The tokens of the text of a tree. -/
def tokens : Expr → List Token
  | leaf l => [.number l.render]
  | node o a b => .openParen :: (a.tokens ++ .op o :: (b.tokens ++ [.closeParen]))

/-! ## Scanning -/

/-- The text of a tree is scanned into its tokens. -/
theorem scanFrom_render (e : Expr) : scanFrom [] e.render = e.tokens := by
  induction e with
  | leaf l => exact Token.scanFrom_render l
  | node o a b iha ihb =>
    rw [render, tokens, scanFrom_openParen, scanFrom_append (isNumberChar_symbol o), iha,
      scanFrom_symbol, scanFrom_append (by decide), ihb]
    rfl

/-- The text of a tree is made of characters of tokens. -/
theorem isTokenChar_of_mem_render {e : Expr} {c : Char} (h : c ∈ e.render) :
    isTokenChar c = true := by
  induction e with
  | leaf l => exact isTokenChar_of_isNumberChar (Literal.isNumberChar_of_mem_render h)
  | node o a b iha ihb =>
    simp only [render, List.mem_cons, List.mem_append, List.not_mem_nil, or_false] at h
    rcases h with rfl | left | rfl | right | rfl
    · decide
    · exact iha left
    · exact isTokenChar_symbol o
    · exact ihb right
    · decide

/-- The tokens of the text of a tree. -/
theorem scan_render (e : Expr) : scan e.render = e.tokens := by
  rw [scan_eq_scanFrom, compact_of_isTokenChar fun _ => isTokenChar_of_mem_render,
    scanFrom_render]

/-! ## Parsing -/

/-- The literals of a tree can all be read. -/
def Readable (e : Expr) : Prop := ∀ l ∈ e.leaves, ∃ t, Literal.read t = .ok l

end Expr

/-- The literals that can be read are those with a denominator. -/
theorem Literal.exists_read_iff {l : Literal} :
    (∃ t, Literal.read t = .ok l) ↔ l.denominator ≠ 0 :=
  ⟨fun ⟨_, h⟩ => denominator_ne_zero_of_read h, fun h => ⟨l.render, read_render h⟩⟩

namespace Expr

open Token ArithDrill.Parser

/-- A factor that no `×` or `÷` follows is a product. -/
theorem plain_product_of_factor {ts rest : List Token} {e : Expr}
    (h : (factor ts).plain = .ok (e, rest)) (stops : StopsBelow 2 rest) :
    (product ts).plain = .ok (e, rest) := by
  rw [plain_product, h]
  exact plain_moreFactors_stop e fun o ho => Nat.ne_of_lt (stops o ho)

/-- A factor that no operator follows is a sum. -/
theorem plain_sum_of_factor {ts rest : List Token} {e : Expr}
    (h : (factor ts).plain = .ok (e, rest)) (stops : StopsBelow 1 rest) :
    (sum ts).plain = .ok (e, rest) := by
  have product := plain_product_of_factor h fun o ho => Nat.lt_succ_of_lt (stops o ho)
  rw [plain_sum, product]
  exact plain_moreTerms_stop e fun o ho => Nat.ne_of_lt (stops o ho)

/-- Two factors around an operator, closed by a parenthesis, are a sum. -/
theorem plain_sum_of_factors {o : Op} {ts us rest : List Token} {a b : Expr}
    (left : (factor ts).plain = .ok (a, .op o :: us))
    (right : (factor us).plain = .ok (b, .closeParen :: rest)) :
    (sum ts).plain = .ok (.node o a b, .closeParen :: rest) := by
  have ends (n : Nat) : StopsBelow n (.closeParen :: rest) := by simp [StopsBelow]
  by_cases tight : o.precedence = 2
  · have product : (product ts).plain = .ok (.node o a b, .closeParen :: rest) := by
      rw [plain_product, left]
      show (moreFactors a (.op o :: us)).plain = _
      rw [plain_moreFactors_op, if_pos tight, right]
      exact plain_moreFactors_stop _ fun o' ho' => Nat.ne_of_lt (ends 2 o' ho')
    rw [plain_sum, product]
    exact plain_moreTerms_stop _ fun o' ho' => Nat.ne_of_lt (ends 1 o' ho')
  · have loose : o.precedence = 1 := o.precedence_eq.resolve_right tight
    have first : (product ts).plain = .ok (a, .op o :: us) :=
      plain_product_of_factor left (by intro o' ho'; cases ho'; omega)
    rw [plain_sum, first]
    show (moreTerms a (.op o :: us)).plain = _
    rw [plain_moreTerms_op, if_pos loose, plain_product_of_factor right (ends 2)]
    exact plain_moreTerms_stop _ fun o' ho' => Nat.ne_of_lt (ends 1 o' ho')

/-- The tokens of a tree are read as a factor, whatever follows. -/
theorem plain_factor_tokens {e : Expr} (h : e.Readable) (rest : List Token) :
    (factor (e.tokens ++ rest)).plain = .ok (e, rest) := by
  induction e generalizing rest with
  | leaf l =>
    have read := Literal.read_render (Literal.exists_read_iff.1 (h l (by simp [leaves])))
    rw [tokens, List.singleton_append, plain_factor_number, read]
  | node o a b iha ihb =>
    have left := iha (fun l hl => h l (by simp [leaves, hl]))
      (.op o :: (b.tokens ++ .closeParen :: rest))
    have right := ihb (fun l hl => h l (by simp [leaves, hl])) (.closeParen :: rest)
    have shape : (node o a b).tokens ++ rest
        = .openParen :: (a.tokens ++ .op o :: (b.tokens ++ .closeParen :: rest)) := by
      simp [tokens]
    rw [shape, plain_factor_openParen, plain_sum_of_factors left right]
    rfl

/-- The text of a tree is read as this tree. -/
theorem ofText_render {e : Expr} (h : e.Readable) : ofText e.render = .ok e := by
  have factor := plain_factor_tokens h []
  rw [List.append_nil] at factor
  rw [ofText, scan_render, ofTokens_eq, plain_sum_of_factor factor (by simp [StopsBelow])]
  rfl

/-- Different trees have different texts. -/
theorem render_injective {e₁ e₂ : Expr} (h₁ : e₁.Readable) (h₂ : e₂.Readable)
    (h : e₁.render = e₂.render) : e₁ = e₂ := by
  have read := ofText_render h₁
  rw [h, ofText_render h₂] at read
  exact (Except.ok.inj read).symm

/-! ## Readable trees -/

theorem readable_leaf {l : Literal} : (leaf l).Readable ↔ ∃ t, Literal.read t = .ok l := by
  simp [Readable, leaves]

theorem readable_node {o : Op} {a b : Expr} :
    (node o a b).Readable ↔ a.Readable ∧ b.Readable := by
  simp only [Readable, leaves, List.mem_append]
  constructor
  · intro h
    exact ⟨fun l hl => h l (.inl hl), fun l hl => h l (.inr hl)⟩
  · rintro ⟨left, right⟩ l (hl | hl)
    · exact left l hl
    · exact right l hl

/-- A tree whose postfix list is spelled by tokens is readable. -/
theorem readable_of_spells {ps : List Token} {e : Expr} (h : Postfix.Spells ps e) :
    e.Readable := by
  induction h with
  | leaf h => exact readable_leaf.2 ⟨_, h⟩
  | node o _ _ ihLeft ihRight => exact readable_node.2 ⟨ihLeft, ihRight⟩

/-- A tree that has been parsed is readable. -/
theorem readable_of_ofTokens {ts : List Token} {e : Expr} (h : ofTokens ts = .ok e) :
    e.Readable := by
  obtain ⟨ps, spells, -⟩ := Postfix.ofTokens_of_expr h
  exact readable_of_spells spells

theorem readable_iff {e : Expr} : e.Readable ↔ ∀ l ∈ e.leaves, l.denominator ≠ 0 := by
  simp only [Readable, Literal.exists_read_iff]

/-- The text of a tree is read as this tree exactly if the tree is readable. -/
theorem ofText_render_iff {e : Expr} : ofText e.render = .ok e ↔ e.Readable :=
  ⟨readable_of_ofTokens, ofText_render⟩

/-- Writing a tree and reading it again gives the tree back exactly if no literal of it has the
denominator zero, with or without an equals sign after it.  Different trees of such literals have
different texts.  Each literal by itself comes back under the same condition. -/
theorem text_reads_back :
    (∀ e : Expr,
      (ofText e.render = .ok e ↔ ∀ l ∈ e.leaves, l.denominator ≠ 0) ∧
      (ofText (e.render ++ " =".toList) = .ok e ↔ ∀ l ∈ e.leaves, l.denominator ≠ 0)) ∧
    (∀ e₁ e₂ : Expr, (∀ l ∈ e₁.leaves, l.denominator ≠ 0) →
      (∀ l ∈ e₂.leaves, l.denominator ≠ 0) → (e₁.render = e₂.render ↔ e₁ = e₂)) ∧
    ∀ l : Literal, Literal.read l.render = .ok l ↔ l.denominator ≠ 0 := by
  refine ⟨fun e => ?_, fun e₁ e₂ h₁ h₂ => ⟨?_, congrArg render⟩, fun l => ?_⟩
  · have with_sign : ofText (e.render ++ " =".toList) = ofText e.render := by
      rw [ofText, ofText, scan_append_equals]
    rw [with_sign, ofText_render_iff, readable_iff]
    exact ⟨Iff.rfl, Iff.rfl⟩
  · exact render_injective (readable_iff.2 h₁) (readable_iff.2 h₂)
  · exact ⟨Literal.denominator_ne_zero_of_read, Literal.read_render⟩

/-- The trees of `(1'1/2 × 2) - 3/4` and `1'1/2 × (2 - 3/4)` are read back from their texts, which
are different because the trees are. -/
theorem texts_of_regrouped :
    let x := leaf (.mixed 1 1 2)
    let y := leaf (.whole 2)
    let z := leaf (.fraction 3 4)
    let e₁ := node .sub (node .mul x y) z
    let e₂ := node .mul x (node .sub y z)
    (∀ l ∈ e₁.leaves, l.denominator ≠ 0) ∧ (∀ l ∈ e₂.leaves, l.denominator ≠ 0) ∧
    e₁.render = "((1'1/2×2)-3/4)".toList ∧ ofText "((1'1/2×2)-3/4) =".toList = .ok e₁ ∧
    e₁.render ≠ e₂.render := by
  intro x y z e₁ e₂
  have h₁ : ∀ l ∈ e₁.leaves, l.denominator ≠ 0 := by decide
  have h₂ : ∀ l ∈ e₂.leaves, l.denominator ≠ 0 := by decide
  have text : e₁.render = "((1'1/2×2)-3/4)".toList := by decide
  have regrouped : e₁ ≠ e₂ := by decide
  obtain ⟨trees, texts, -⟩ := text_reads_back
  have line := (trees e₁).2.2 h₁
  rw [text] at line
  exact ⟨h₁, h₂, text, line, fun same => regrouped ((texts e₁ e₂ h₁ h₂).1 same)⟩

end Expr

end ArithDrill
