/-!
# Random draws as data

A computation that draws is a tree of requests.  Each request names a range or the odds of a
coin and has one continuation for every answer.  What answers the requests is left open, so
that statements about every run are statements about one tree.

## Main definitions

* `Span` — a range of numbers to draw from, with the width of the random words behind it.
* `Draw` — computations that draw from ranges and toss coins, a monad.
* `Draw.replicate` — the same draw several times.

## Main statements

* `Draw.instLawfulMonad` — the monad laws.
-/

namespace ArithDrill

/-- The width of the words from which a number is drawn. -/
inductive Width where
  /-- One word of 32 bits. -/
  | short
  /-- Two words of 32 bits, the low half first. -/
  | long
  deriving DecidableEq, Repr

/-- The number of words of a width. -/
def Width.size : Width → Nat
  | short => UInt32.size
  | long => UInt64.size

/-- A range of numbers to draw from, both ends included. -/
structure Span where
  /-- The smallest number. -/
  lo : Nat
  /-- The largest number. -/
  hi : Nat
  /-- The width of the words to draw with. -/
  width : Width
  deriving DecidableEq, Repr

namespace Span

/-- The range from `lo` to `hi` for values, which are always drawn with long words. -/
def value (lo hi : Nat) : Span := ⟨lo, hi, .long⟩

/-- The range from `lo` to `hi` for counts and positions, which are drawn with short words
unless the upper end needs more. -/
def count (lo hi : Nat) : Span := ⟨lo, hi, if hi < UInt32.size then .short else .long⟩

end Span

/-- A computation that draws. -/
inductive Draw (α : Type) where
  /-- The result, with nothing more to draw. -/
  | done (a : α)
  /-- A number of a range. -/
  | number (span : Span) (next : Nat → Draw α)
  /-- A coin that falls on `true` for `odds` of `2 ^ 64` equally likely outcomes. -/
  | coin (odds : Nat) (next : Bool → Draw α)

namespace Draw

variable {α β γ : Type}

/-- Continues a computation with its result. -/
protected def bind : Draw α → (α → Draw β) → Draw β
  | done a, f => f a
  | number span next, f => number span fun x => (next x).bind f
  | coin odds next, f => coin odds fun x => (next x).bind f

instance : Monad Draw where
  pure := done
  bind := Draw.bind

@[simp] theorem pure_eq (a : α) : (pure a : Draw α) = done a := rfl

@[simp] theorem done_bind (a : α) (f : α → Draw β) : (done a >>= f) = f a := rfl

theorem bind_done (d : Draw α) : (d >>= done) = d := by
  induction d with
  | done a => rfl
  | number span next ih => exact congrArg (number span) (funext ih)
  | coin odds next ih => exact congrArg (coin odds) (funext ih)

theorem bind_assoc (d : Draw α) (f : α → Draw β) (g : β → Draw γ) :
    (d >>= f >>= g) = d >>= fun a => f a >>= g := by
  induction d with
  | done a => rfl
  | number span next ih => exact congrArg (number span) (funext ih)
  | coin odds next ih => exact congrArg (coin odds) (funext ih)

instance instLawfulMonad : LawfulMonad Draw :=
  LawfulMonad.mk' Draw bind_done (fun _ _ => rfl) bind_assoc

/-- Draws a value from `lo` to `hi`. -/
def value (lo hi : Nat) : Draw Nat := number (.value lo hi) done

/-- Draws a count or a position from `lo` to `hi`. -/
def count (lo hi : Nat) : Draw Nat := number (.count lo hi) done

/-- Tosses a coin. -/
def toss (odds : Nat) : Draw Bool := coin odds done

/-- Tosses a fair coin. -/
def flip : Draw Bool := toss (UInt64.size / 2)

/-- The results of `n` draws, one after another. -/
def replicate : Nat → Draw α → Draw (List α)
  | 0, _ => done []
  | n + 1, d => do
    let a ← d
    let as ← replicate n d
    return a :: as

end Draw

end ArithDrill
