import ArithDrill.Draw.Basic

/-!
# Draws from a stream of words

Requests are answered from an endless stream of random 32-bit words.  A number of a range of
`n` is the high part of the product of a word and `n`.  When the low part leaves doubt, one
further word decides whether the product carries.

## Main definitions

* `WordSource` — what gives one word after another.
* `Span.sample` — a number of a range.
* `Draw.run` — the result of a computation on a source of words.
* `CyclicWords` — a finite list of words, used again and again.

## Main statements

* `Draw.run_bind` — one run after the other.
* `Span.sample_mem` — a sampled number lies in its range.
-/

namespace ArithDrill

/-- A source of random words: a state that gives a word and the next state. -/
class WordSource (σ : Type) where
  /-- The next word. -/
  next : σ → UInt32 × σ

section

variable {σ : Type} [WordSource σ]

/-- Draws one word of the given width, as a number. -/
def Width.word (w : Width) (s : σ) : Nat × σ :=
  match w with
  | .short =>
    let (x, s) := WordSource.next s
    (x.toNat, s)
  | .long =>
    let (low, s) := WordSource.next s
    let (high, s) := WordSource.next s
    (high.toNat * UInt32.size + low.toNat, s)

/-- A word is below the number of words of its width. -/
theorem Width.word_lt (w : Width) (s : σ) : (w.word s).1 < w.size := by
  cases w with
  | short => exact (WordSource.next s).1.toNat_lt_size
  | long =>
    have low := (WordSource.next s).1.toNat_lt_size
    have high := (WordSource.next (WordSource.next s).2).1.toNat_lt_size
    simp only [UInt32.size] at low high
    simp only [Width.word, Width.size, UInt32.size, UInt64.size]
    omega

/-- Draws a number of a range. -/
def Span.sample (r : Span) (s : σ) : Nat × σ :=
  let n := r.hi - r.lo + 1
  let base := r.width.size
  let (x, s) := r.width.word s
  let high := x * n / base
  let low := x * n % base
  if base - n < low then
    let (y, s) := r.width.word s
    (r.lo + high + (low + y * n / base) / base, s)
  else (r.lo + high, s)

/-- A word times `n`, cut to its high part, is below `n`; a carry from a further word keeps it
there. -/
private theorem high_add_carry_lt {x y n base : Nat} (hx : x < base) (hy : y < base)
    (hn : 0 < n) : x * n / base + (x * n % base + y * n / base) / base < n := by
  have further : y * n / base < n := Nat.div_lt_of_lt_mul (Nat.mul_lt_mul_of_pos_right hy hn)
  have joined : x * n / base + (x * n % base + y * n / base) / base
      = (x * n + y * n / base) / base := by
    rw [← Nat.mul_add_div (by omega), ← Nat.add_assoc, Nat.div_add_mod]
  rw [joined]
  refine Nat.div_lt_of_lt_mul ?_
  calc x * n + y * n / base < x * n + n := by omega
    _ = (x + 1) * n := by rw [Nat.add_mul, Nat.one_mul]
    _ ≤ base * n := Nat.mul_le_mul_right n hx

/-- A sampled number lies in its range, if there is any number in it. -/
theorem Span.sample_mem (r : Span) (h : r.lo ≤ r.hi) (s : σ) :
    r.lo ≤ (r.sample s).1 ∧ (r.sample s).1 ≤ r.hi := by
  have first := r.width.word_lt s
  have second := r.width.word_lt (r.width.word s).2
  have carried := high_add_carry_lt first second (by omega : 0 < r.hi - r.lo + 1)
  unfold sample
  dsimp only
  generalize (r.width.word s).1 * (r.hi - r.lo + 1) = product at carried ⊢
  generalize product / r.width.size = high at carried ⊢
  generalize hc : (_ / r.width.size : Nat) = carry at carried
  split
  · dsimp only
    omega
  · dsimp only
    omega

/-- Tosses a coin: a long word falls below the odds or not. -/
def sampleCoin (odds : Nat) (s : σ) : Bool × σ :=
  let (x, s) := Width.long.word s
  (decide (x < odds), s)

/-- Runs a computation on a source of words; gives the result and the source after it. -/
def Draw.run {α : Type} : Draw α → σ → α × σ
  | done a, s => (a, s)
  | number span next, s =>
    let (x, s) := span.sample s
    (next x).run s
  | coin odds next, s =>
    let (x, s) := sampleCoin odds s
    (next x).run s

@[simp] theorem Draw.run_done {α : Type} (a : α) (s : σ) : (done a).run s = (a, s) := rfl

/-- Running one computation and then another is running them in turn. -/
@[simp] theorem Draw.run_bind {α β : Type} (d : Draw α) (f : α → Draw β) (s : σ) :
    (d >>= f).run s = (f (d.run s).1).run (d.run s).2 := by
  induction d generalizing s with
  | done a => rfl
  | number span next ih => exact ih _ _
  | coin odds next ih => exact ih _ _

end

/-- A list of words that starts over at its end. -/
structure CyclicWords where
  /-- All the words. -/
  all : List UInt32
  /-- The words that are left of the current round. -/
  left : List UInt32

namespace CyclicWords

/-- A list of words, from its beginning. -/
def ofList (ws : List UInt32) : CyclicWords := ⟨ws, ws⟩

/-- The next word; an empty list gives zeros. -/
def next (c : CyclicWords) : UInt32 × CyclicWords :=
  match c.left, c.all with
  | w :: ws, _ => (w, ⟨c.all, ws⟩)
  | [], w :: ws => (w, ⟨c.all, ws⟩)
  | [], [] => (0, c)

instance : WordSource CyclicWords := ⟨next⟩

end CyclicWords

end ArithDrill
