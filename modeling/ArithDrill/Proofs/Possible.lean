import ArithDrill.Proofs.Outcomes
import Mathlib.Data.Stream.Init

/-!
# What a draw can give

A computation that draws is asked the other way round than in a postcondition: whether some answers
to its requests give a result of a certain kind.  Every answer that a request allows can come about,
for there are words that lead to it.  A number of a range has such a word as soon as the range has
no more numbers than there are words: the smallest word whose product with the length of the range
reaches the number.  If the product leaves doubt, a zero as the further word settles it without a
carry.  So what is possible along the tree of requests comes about on some source of words, and the
words that decide it are finitely many.

## Main definitions

* `Supplies` — a source has certain words next.
* `Decides` — words that decide what a draw gives, whatever source supplies them.
* `Draw.Sometimes` — a property of some result of a computation.

## Main statements

* `Span.exists_decides` — every number of a range that is not too long comes about.
* `Draw.sometimes_bind`, `Draw.sometimes_replicate` — one draw after another.
* `Draw.exists_decides`, `Draw.exists_stream` — what is possible comes about.
-/

namespace ArithDrill

/-! ## Words that decide -/

/-- A source supplies some words, one after another, and then is in the state `t`. -/
def Supplies {σ : Type} [WordSource σ] (s : σ) : List UInt32 → σ → Prop
  | [], t => s = t
  | w :: ws, t => (WordSource.next s).1 = w ∧ Supplies (WordSource.next s).2 ws t

/-- A source supplies some words and then others. -/
theorem supplies_append {σ : Type} [WordSource σ] {ws vs : List UInt32} {s t : σ} :
    Supplies s (ws ++ vs) t ↔ ∃ between, Supplies s ws between ∧ Supplies between vs t := by
  induction ws generalizing s with
  | nil => simp [Supplies]
  | cons w ws ih => simp [Supplies, ih, and_assoc]

/-- Some words decide what a draw gives: on every source that supplies them it takes these words
and gives `a`. -/
def Decides {α : Type} (ws : List UInt32) (draw : {σ : Type} → [WordSource σ] → σ → α × σ)
    (a : α) : Prop :=
  ∀ {σ : Type} [WordSource σ] {s t : σ}, Supplies s ws t → draw s = (a, t)

/-- Every number below the number of words is a word. -/
theorem Width.exists_decides (w : Width) {x : Nat} (h : x < w.size) :
    ∃ ws, Decides ws w.word x := by
  cases w with
  | short =>
    refine ⟨[UInt32.ofNat x], fun {σ _ s t} supplied => ?_⟩
    obtain ⟨first, rfl⟩ := supplied
    simp only [Width.word, first, UInt32.toNat_ofNat_of_lt' h]
  | long =>
    simp only [Width.size, UInt64.size] at h
    have low : x % UInt32.size < UInt32.size := Nat.mod_lt _ (by decide)
    have high : x / UInt32.size < UInt32.size := by
      simp only [UInt32.size]
      omega
    refine ⟨[UInt32.ofNat (x % UInt32.size), UInt32.ofNat (x / UInt32.size)],
      fun {σ _ s t} supplied => ?_⟩
    obtain ⟨first, second, rfl⟩ := supplied
    simp only [Width.word, first, second, UInt32.toNat_ofNat_of_lt' low,
      UInt32.toNat_ofNat_of_lt' high, Nat.div_add_mod']

/-- The high part of the product of a word and the length of a range can be any number below the
length, with a low part that is below it too. -/
theorem exists_product {k n base : Nat} (below : k < n) (short : n ≤ base) :
    ∃ x < base, x * n / base = k ∧ x * n % base < n := by
  -- the smallest word whose product reaches `k` times the number of words
  have product := Nat.div_add_mod' (k * base + (n - 1)) n
  have remainder := Nat.mod_lt (k * base + (n - 1)) (by omega : 0 < n)
  generalize (k * base + (n - 1)) / n = x at product
  obtain ⟨rest, parts⟩ := Nat.exists_eq_add_of_le (by omega : k * base ≤ x * n)
  have small : rest < n := by omega
  refine ⟨x, ?_, ?_, ?_⟩
  · refine Nat.lt_of_mul_lt_mul_right (a := n) ?_
    calc x * n = k * base + rest := parts
      _ < k * base + base := by omega
      _ = (k + 1) * base := by rw [Nat.add_mul, Nat.one_mul]
      _ ≤ n * base := Nat.mul_le_mul_right base below
      _ = base * n := Nat.mul_comm n base
  · rw [parts, Nat.mul_comm, Nat.mul_add_div (by omega), Nat.div_eq_of_lt (by omega), Nat.add_zero]
  · rw [parts, Nat.mul_comm, Nat.mul_add_mod, Nat.mod_eq_of_lt (by omega)]
    exact small

/-- Every number of a range comes about, if the range has no more numbers than there are words. -/
theorem Span.exists_decides (r : Span) {n : Nat} (lower : r.lo ≤ n) (upper : n ≤ r.hi)
    (short : r.hi - r.lo < r.width.size) : ∃ ws, Decides ws r.sample n := by
  obtain ⟨x, word, high, low⟩ :=
    @exists_product (n - r.lo) (r.hi - r.lo + 1) r.width.size (by omega) short
  have reached : r.lo + (n - r.lo) = n := Nat.add_sub_cancel' lower
  obtain ⟨ws, first⟩ := r.width.exists_decides word
  by_cases doubt : r.width.size - (r.hi - r.lo + 1) < x * (r.hi - r.lo + 1) % r.width.size
  · -- a zero as the further word adds nothing to the low part
    obtain ⟨vs, second⟩ := r.width.exists_decides (x := 0) (by omega)
    refine ⟨ws ++ vs, fun {σ _ s t} supplied => ?_⟩
    obtain ⟨between, now, later⟩ := supplies_append.1 supplied
    simp only [Span.sample, first now, second later, high, if_pos doubt, Nat.zero_mul,
      Nat.zero_div, Nat.add_zero, Nat.div_eq_of_lt (Nat.lt_of_lt_of_le low short), reached]
  · refine ⟨ws, fun {σ _ s t} supplied => ?_⟩
    simp only [Span.sample, first supplied, high, if_neg doubt, reached]

/-- A coin falls on either side, unless its odds are none or all. -/
theorem exists_decides_coin {odds : Nat} {b : Bool}
    (chance : if b then 0 < odds else odds < UInt64.size) :
    ∃ ws, Decides ws (sampleCoin odds) b := by
  cases b with
  | true =>
    obtain ⟨ws, zero⟩ := Width.long.exists_decides (x := 0) (by decide)
    refine ⟨ws, fun {σ _ s t} supplied => ?_⟩
    simpa [sampleCoin, zero supplied] using chance
  | false =>
    obtain ⟨ws, least⟩ := Width.long.exists_decides (x := odds) chance
    refine ⟨ws, fun {σ _ s t} supplied => ?_⟩
    simp [sampleCoin, least supplied]

namespace Draw

variable {α β : Type} {P Q : α → Prop} {R : β → Prop}

/-! ## What is possible -/

/-- Some result of a computation has a property: there are answers to its requests that lead to it,
from ranges with no more numbers than there are words. -/
def Sometimes (P : α → Prop) : Draw α → Prop
  | done a => P a
  | number span next => span.hi - span.lo < span.width.size ∧
      ∃ n, span.lo ≤ n ∧ n ≤ span.hi ∧ (next n).Sometimes P
  | coin odds next => ∃ b, (if b then 0 < odds else odds < UInt64.size) ∧ (next b).Sometimes P

/-- One draw after another: a result of the first that has what the second draw asks for. -/
theorem sometimes_bind {d : Draw α} {f : α → Draw β} (h : d.Sometimes P)
    (next : ∀ a, P a → (f a).Sometimes R) : (d >>= f).Sometimes R := by
  induction d with
  | done a => exact next a h
  | number span rest ih =>
    obtain ⟨short, n, lower, upper, possible⟩ := h
    exact ⟨short, n, lower, upper, ih n possible⟩
  | coin odds rest ih =>
    obtain ⟨b, chance, possible⟩ := h
    exact ⟨b, chance, ih b possible⟩

/-- Every value of a range that is not longer than the long words are many. -/
theorem sometimes_value {lo hi n : Nat} (lower : lo ≤ n) (upper : n ≤ hi)
    (short : hi - lo < UInt64.size) : (value lo hi).Sometimes fun m => m = n :=
  ⟨short, n, lower, upper, rfl⟩

/-- Every count of a range that ends within the long words. -/
theorem sometimes_count {lo hi n : Nat} (lower : lo ≤ n) (upper : n ≤ hi)
    (fits : hi < UInt64.size) : (count lo hi).Sometimes fun m => m = n := by
  refine ⟨?_, n, lower, upper, rfl⟩
  -- short words are used only for an end that they reach
  by_cases small : hi < UInt32.size
  · rw [Span.count, if_pos small]
    exact Nat.lt_of_le_of_lt (Nat.sub_le hi lo) small
  · rw [Span.count, if_neg small]
    exact Nat.lt_of_le_of_lt (Nat.sub_le hi lo) fits

/-- Either side of a coin, unless its odds are none or all. -/
theorem sometimes_toss {odds : Nat} {b : Bool}
    (chance : if b then 0 < odds else odds < UInt64.size) :
    (toss odds).Sometimes fun c => c = b :=
  ⟨b, chance, rfl⟩

/-- Either side of a fair coin. -/
theorem sometimes_flip (b : Bool) : flip.Sometimes fun c => c = b := by
  refine ⟨b, ?_, rfl⟩
  cases b <;> decide

/-- Any list of results each of which is possible for one draw. -/
theorem sometimes_replicate {d : Draw α} {as : List α}
    (each : ∀ a ∈ as, d.Sometimes fun x => x = a) :
    (replicate as.length d).Sometimes fun xs => xs = as := by
  induction as with
  | nil => rfl
  | cons a as ih =>
    have first := each a List.mem_cons_self
    have later := ih fun b hb => each b (List.mem_cons_of_mem a hb)
    refine sometimes_bind first fun x drawn => ?_
    subst x
    refine sometimes_bind later fun xs drawn => ?_
    subst xs
    rfl

/-! ## What comes about -/

/-- What is possible comes about: finitely many words decide on a result with the property. -/
theorem exists_decides {d : Draw α} (h : d.Sometimes P) : ∃ a, P a ∧ ∃ ws, Decides ws d.run a := by
  induction d with
  | done a => exact ⟨a, h, [], fun {σ _ s t} supplied => congrArg (Prod.mk a) supplied⟩
  | number span next ih =>
    obtain ⟨short, n, lower, upper, possible⟩ := h
    obtain ⟨ws, first⟩ := span.exists_decides lower upper short
    obtain ⟨a, ha, vs, second⟩ := ih n possible
    refine ⟨a, ha, ws ++ vs, fun {σ _ s t} supplied => ?_⟩
    obtain ⟨between, now, later⟩ := supplies_append.1 supplied
    simp only [run, first now, second later]
  | coin odds next ih =>
    obtain ⟨b, chance, possible⟩ := h
    obtain ⟨ws, first⟩ := exists_decides_coin chance
    obtain ⟨a, ha, vs, second⟩ := ih b possible
    refine ⟨a, ha, ws ++ vs, fun {σ _ s t} supplied => ?_⟩
    obtain ⟨between, now, later⟩ := supplies_append.1 supplied
    simp only [run, first now, second later]

/-- A run on a source that supplies the words that decide. -/
theorem run_of_decides {d : Draw α} {a : α} {ws : List UInt32} (decided : Decides ws d.run a)
    {σ : Type} [WordSource σ] {s t : σ} (supplied : Supplies s ws t) : d.run s = (a, t) :=
  decided supplied

end Draw

/-! ## Two sources -/

/-- An endless stream of words is a source. -/
instance : WordSource (Stream' UInt32) := ⟨fun s => (s.head, s.tail)⟩

/-- A stream supplies the words that stand at its beginning. -/
theorem supplies_stream (ws : List UInt32) (s : Stream' UInt32) : Supplies (ws ++ₛ s) ws s := by
  induction ws with
  | nil => rfl
  | cons w ws ih => exact ⟨rfl, ih⟩

/-- What is possible comes about on some stream of words. -/
theorem Draw.exists_stream {α : Type} {P : α → Prop} {d : Draw α} (h : d.Sometimes P) :
    ∃ s : Stream' UInt32, P (d.run s).1 := by
  obtain ⟨a, ha, ws, decided⟩ := exists_decides h
  -- after the words that decide, the stream may go on in any way
  have run := run_of_decides decided (supplies_stream ws (Stream'.const 0))
  exact ⟨ws ++ₛ Stream'.const 0, by rw [run]; exact ha⟩

/-- A list of words that starts over at its end supplies all of them. -/
theorem CyclicWords.supplies (ws : List UInt32) : Supplies (ofList ws) ws ⟨ws, []⟩ := by
  suffices left : ∀ vs, Supplies (⟨ws, vs⟩ : CyclicWords) vs ⟨ws, []⟩ from left ws
  intro vs
  induction vs with
  | nil => rfl
  | cons v vs ih => exact ⟨rfl, ih⟩

end ArithDrill
