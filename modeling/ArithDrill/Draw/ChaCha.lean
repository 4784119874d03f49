import ArithDrill.Draw.Words

/-!
# The seeded stream of words

The words behind a seed are the key stream of ChaCha with twelve rounds.  The key is spread out
from the seed by eight steps of a linear congruential generator whose output is permuted, the
nonce is zero, and the blocks are counted from zero.

The sixteen words of a block are four rows of four.  A round mixes the four columns at once by
operating on whole rows; rotating the rows against each other turns columns into diagonals.

## Main definitions

* `ChaCha.Key` — the eight words of a key; `ChaCha.Key.ofSeed` spreads out a seed.
* `ChaCha.block` — one block of sixteen words.
* `ChaCha.Stream` — the blocks of a key, word after word.
-/

namespace ArithDrill.ChaCha

/-- Turns a word to the left by `k` bits, for `k` from 1 to 31. -/
def rotateLeft (x k : UInt32) : UInt32 := (x <<< k) ||| (x >>> (32 - k))

/-- Four words side by side. -/
structure Row where
  /-- The word of the first column. -/
  a : UInt32
  /-- The word of the second column. -/
  b : UInt32
  /-- The word of the third column. -/
  c : UInt32
  /-- The word of the fourth column. -/
  d : UInt32
  deriving DecidableEq, Repr

namespace Row

/-- Adds two rows, word by word. -/
def add (x y : Row) : Row := ⟨x.a + y.a, x.b + y.b, x.c + y.c, x.d + y.d⟩

/-- Adds two rows bit by bit, then turns each word to the left by `k` bits. -/
def xorRotate (x y : Row) (k : UInt32) : Row :=
  ⟨rotateLeft (x.a ^^^ y.a) k, rotateLeft (x.b ^^^ y.b) k,
    rotateLeft (x.c ^^^ y.c) k, rotateLeft (x.d ^^^ y.d) k⟩

/-- Moves every word one column to the left, the first one to the end. -/
def shift (x : Row) : Row := ⟨x.b, x.c, x.d, x.a⟩

/-- The words of a row, from left to right. -/
def toList (x : Row) : List UInt32 := [x.a, x.b, x.c, x.d]

end Row

/-- Sixteen words in four rows. -/
structure Block where
  /-- The first row. -/
  w : Row
  /-- The second row. -/
  x : Row
  /-- The third row. -/
  y : Row
  /-- The fourth row. -/
  z : Row
  deriving DecidableEq, Repr

namespace Block

/-- Mixes the four columns. -/
def mix (s : Block) : Block :=
  let w := s.w.add s.x
  let z := s.z.xorRotate w 16
  let y := s.y.add z
  let x := s.x.xorRotate y 12
  let w := w.add x
  let z := z.xorRotate w 8
  let y := y.add z
  let x := x.xorRotate y 7
  ⟨w, x, y, z⟩

/-- Brings the diagonals into the columns. -/
def diagonals (s : Block) : Block := ⟨s.w, s.x.shift, s.y.shift.shift, s.z.shift.shift.shift⟩

/-- Brings the columns back into the diagonals. -/
def columns (s : Block) : Block := ⟨s.w, s.x.shift.shift.shift, s.y.shift.shift, s.z.shift⟩

/-- Two rounds: the columns, then the diagonals. -/
def doubleRound (s : Block) : Block := s.mix.diagonals.mix.columns

/-- Adds two blocks, word by word. -/
def add (s t : Block) : Block := ⟨s.w.add t.w, s.x.add t.x, s.y.add t.y, s.z.add t.z⟩

/-- The words of a block, row after row. -/
def toList (s : Block) : List UInt32 := s.w.toList ++ s.x.toList ++ s.y.toList ++ s.z.toList

end Block

/-- A key of eight words. -/
structure Key where
  /-- The first four words. -/
  first : Row
  /-- The last four words. -/
  last : Row
  deriving DecidableEq, Repr

/-- One step of the generator that spreads out a seed. -/
def advance (s : UInt64) : UInt64 := s * 6364136223846793005 + 11634580027462260723

/-- The output word of a state: high bits folded into lower ones, then turned to the right by
the five topmost bits. -/
def output (s : UInt64) : UInt32 :=
  let x := (((s >>> 18) ^^^ s) >>> 27).toUInt32
  let k := (s >>> 59).toUInt32
  (x >>> k) ||| (x <<< (32 - k))

/-- The key of a seed: the outputs of the eight states after it. -/
def Key.ofSeed (seed : UInt64) : Key :=
  let s1 := advance seed
  let s2 := advance s1
  let s3 := advance s2
  let s4 := advance s3
  let s5 := advance s4
  let s6 := advance s5
  let s7 := advance s6
  let s8 := advance s7
  ⟨⟨output s1, output s2, output s3, output s4⟩, ⟨output s5, output s6, output s7, output s8⟩⟩

/-- The block before any round: four constants, the key, the number of the block in two words
and an empty nonce. -/
def initial (key : Key) (index : UInt64) : Block :=
  ⟨⟨0x61707865, 0x3320646e, 0x79622d32, 0x6b206574⟩, key.first, key.last,
    ⟨index.toUInt32, (index >>> 32).toUInt32, 0, 0⟩⟩

/-- The words of the block with a given number: twelve rounds, added to where they started. -/
def block (key : Key) (index : UInt64) : Block :=
  let start := initial key index
  (Nat.repeat Block.doubleRound 6 start).add start

/-- The stream of the words of a key. -/
structure Stream where
  /-- The key. -/
  key : Key
  /-- The number of the next block. -/
  index : UInt64
  /-- The words that are left of the current block. -/
  left : List UInt32

namespace Stream

/-- The stream of a key, from its beginning. -/
def ofKey (key : Key) : Stream := ⟨key, 0, []⟩

/-- The stream of a seed. -/
def ofSeed (seed : UInt64) : Stream := ofKey (.ofSeed seed)

/-- The next word, from a new block when the current one is used up. -/
def next (s : Stream) : UInt32 × Stream :=
  match s.left with
  | w :: ws => (w, { s with left := ws })
  | [] =>
    let b := block s.key s.index
    (b.w.a, ⟨s.key, s.index + 1, b.toList.tail⟩)

instance : WordSource Stream := ⟨next⟩

end Stream

end ArithDrill.ChaCha
