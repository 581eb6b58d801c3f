/-!
# Keystreams

A source of random words that a seed determines: the ChaCha keystream with twelve rounds. A block of
sixteen words is made from a key of eight words and the number of the block, and the words of the
blocks are handed out in order. The key is made from a seed of sixty-four bits by a linear
congruential generator with permuted output.

The state of a block is a square of four rows. A round works on all four columns at once; between
the two rounds of a pair the lower rows are rotated, so that the second round works on the
diagonals.
-/

namespace LogQuery.Random

/-- Four words side by side. -/
structure Row where
  first : UInt32
  second : UInt32
  third : UInt32
  fourth : UInt32

namespace Row

/-- Applies an operation in each column. -/
def zipWith (f : UInt32 → UInt32 → UInt32) (a b : Row) : Row :=
  ⟨f a.first b.first, f a.second b.second, f a.third b.third, f a.fourth b.fourth⟩

/-- Moves every word one column to the left, the first one to the end. -/
def rotate (a : Row) : Row := ⟨a.second, a.third, a.fourth, a.first⟩

/-- The words in order. -/
def toList (a : Row) : List UInt32 := [a.first, a.second, a.third, a.fourth]

end Row

/-- A word with its bits moved to the left by `n` places, those that fall out coming in at the
right. -/
def rotateLeft (n x : UInt32) : UInt32 := (x <<< n) ||| (x >>> (32 - n))

/-- The state from which a block is made. -/
structure Square where
  a : Row
  b : Row
  c : Row
  d : Row

namespace Square

/-- Adds the second row to the first, and mixes the sum into the fourth row, whose words are then
rotated. -/
def mix (n : UInt32) (a b d : Row) : Row × Row :=
  let a := Row.zipWith (· + ·) a b
  (a, Row.zipWith (fun x y => rotateLeft n (x ^^^ y)) d a)

/-- One round on the four columns. -/
def columnRound (s : Square) : Square :=
  let (a, d) := mix 16 s.a s.b s.d
  let (c, b) := mix 12 s.c d s.b
  let (a, d) := mix 8 a b d
  let (c, b) := mix 7 c d b
  ⟨a, b, c, d⟩

/-- A round on the columns and one on the diagonals. -/
def doubleRound (s : Square) : Square :=
  let s := s.columnRound
  let s := columnRound ⟨s.a, s.b.rotate, s.c.rotate.rotate, s.d.rotate.rotate.rotate⟩
  ⟨s.a, s.b.rotate.rotate.rotate, s.c.rotate.rotate, s.d.rotate⟩

/-- So many double rounds. -/
def rounds : Nat → Square → Square
  | 0, s => s
  | n + 1, s => rounds n s.doubleRound

end Square

/-- A point in a keystream. -/
structure Keystream where
  lowKey : Row
  highKey : Row
  /-- The number of the block to be made next. -/
  nextBlock : UInt64
  /-- The words of the current block that have not been handed out. -/
  pending : List UInt32

namespace Keystream

/-- The square that a block starts from. -/
def start (k : Keystream) : Square where
  a := ⟨0x61707865, 0x3320646E, 0x79622D32, 0x6B206574⟩
  b := k.lowKey
  c := k.highKey
  d := ⟨k.nextBlock.toUInt32, (k.nextBlock >>> 32).toUInt32, 0, 0⟩

/-- The rows of the block to be made next. -/
def block (k : Keystream) : Square :=
  let s := k.start.rounds 6
  let add := Row.zipWith (· + ·)
  ⟨add s.a k.start.a, add s.b k.start.b, add s.c k.start.c, add s.d k.start.d⟩

/-- The next word of the keystream. -/
def nextWord (k : Keystream) : UInt32 × Keystream :=
  match k.pending with
  | word :: rest => (word, { k with pending := rest })
  | [] =>
    let s := k.block
    (s.a.first,
      { k with
        nextBlock := k.nextBlock + 1
        pending := s.a.toList.drop 1 ++ s.b.toList ++ s.c.toList ++ s.d.toList })

/-- One step of the generator that makes keys: the next state and the word drawn from it. -/
def keyStep (state : UInt64) : UInt64 × UInt32 :=
  let state := state * 6364136223846793005 + 11634580027462260723
  let shifted := (((state >>> 18) ^^^ state) >>> 27).toUInt32
  let turn := (state >>> 59).toUInt32
  (state, (shifted >>> turn) ||| (shifted <<< ((32 - turn) % 32)))

/-- Four words of a key. -/
def keyRow (state : UInt64) : UInt64 × Row :=
  let (state, first) := keyStep state
  let (state, second) := keyStep state
  let (state, third) := keyStep state
  let (state, fourth) := keyStep state
  (state, ⟨first, second, third, fourth⟩)

/-- The keystream of a seed, from its beginning. -/
def ofSeed (seed : UInt64) : Keystream :=
  let (state, lowKey) := keyRow seed
  let (_, highKey) := keyRow state
  ⟨lowKey, highKey, 0, []⟩

end Keystream

end LogQuery.Random
