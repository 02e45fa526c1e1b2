import AssetAccess.Digest.Block
import AssetAccess.Identifier.RandomSource
/-!
# Key streams

A random source that stretches a key of 256 bits into blocks of sixteen words.  A block is made from
a matrix of four rows: a fixed one, two with the key, and one with the number of the block.  Twelve
rounds stir the matrix, alternately along its columns and along its diagonals, and the matrix from
before the rounds is added to the result.

Blocks are numbered with 64 bits, so a key gives 2^68 words.  After the last of them a real stream
goes round and gives the first again; the source here gives zeros, so that every number that is
drawn comes to an end.  No program gets that far.
-/

namespace AssetAccess.Identifier

open Digest

/-- A row of the matrix. -/
structure Row where
  x : UInt32
  y : UInt32
  z : UInt32
  w : UInt32
deriving DecidableEq, Repr

namespace Row

/-- The row turned left by one place. -/
def turned (r : Row) : Row := ⟨r.y, r.z, r.w, r.x⟩

/-- The words of a row in order. -/
def toList (r : Row) : List UInt32 := [r.x, r.y, r.z, r.w]

/-- Place by place. -/
def zip (f : UInt32 → UInt32 → UInt32) (r s : Row) : Row :=
  ⟨f r.x s.x, f r.y s.y, f r.z s.z, f r.w s.w⟩

/-- The sum, place by place. -/
def add (r s : Row) : Row := r.zip (· + ·) s

/-- The bits of `r` that differ from those of `s`, each place turned left by `n`. -/
def mixed (r s : Row) (n : UInt32) : Row := r.zip (fun a b => turnLeft (a ^^^ b) n) s

end Row

/-- A matrix of four rows. -/
structure Matrix where
  a : Row
  b : Row
  c : Row
  d : Row
deriving DecidableEq, Repr

namespace Matrix

/-- Half of a round: adds and mixes the rows in turn, with the two turns that belong to it. -/
def halfRound (m : Matrix) (n k : UInt32) : Matrix :=
  let a := m.a.add m.b
  let d := m.d.mixed a n
  let c := m.c.add d
  ⟨a, m.b.mixed c k, c, d⟩

/-- A round along the columns. -/
def round (m : Matrix) : Matrix := (m.halfRound 16 12).halfRound 8 7

/-- The matrix whose columns are the diagonals of `m`. -/
def skewed (m : Matrix) : Matrix :=
  ⟨m.a, m.b.turned, m.c.turned.turned, m.d.turned.turned.turned⟩

/-- The matrix whose diagonals are the columns of `m`. -/
def straightened (m : Matrix) : Matrix :=
  ⟨m.a, m.b.turned.turned.turned, m.c.turned.turned, m.d.turned⟩

/-- A round along the columns and one along the diagonals. -/
def doubleRound (m : Matrix) : Matrix := m.round.skewed.round.straightened

/-- The sum, place by place. -/
def add (m n : Matrix) : Matrix := ⟨m.a.add n.a, m.b.add n.b, m.c.add n.c, m.d.add n.d⟩

/-- The words of a matrix in order. -/
def words (m : Matrix) : List UInt32 := m.a.toList ++ m.b.toList ++ m.c.toList ++ m.d.toList

end Matrix

/-- A key, and the number of words that have been handed out. -/
structure KeyStream where
  low : Row
  high : Row
  taken : Nat := 0

namespace KeyStream

/-- The matrix of a block before the rounds. -/
def matrix (k : KeyStream) (block : Nat) : Matrix where
  a := ⟨0x61707865, 0x3320646e, 0x79622d32, 0x6b206574⟩
  b := k.low
  c := k.high
  d := ⟨UInt32.ofNat block, UInt32.ofNat (block >>> 32), 0, 0⟩

/-- The words of a block. -/
def blockWords (k : KeyStream) (block : Nat) : List UInt32 :=
  let m := k.matrix block
  (m.add (Nat.repeat Matrix.doubleRound 6 m)).words

/-- The number of words that a key gives. -/
def length : Nat := 1 <<< 68

/-- The word at a place of the stream, or zero where a real stream has gone round. -/
def word (k : KeyStream) (i : Nat) : UInt32 :=
  if i < length then (k.blockWords (i / 16)).getD (i % 16) 0 else 0

/-- The next word of 32 bits. -/
def next (k : KeyStream) : UInt32 × KeyStream := (k.word k.taken, { k with taken := k.taken + 1 })

/-- The next word of 64 bits: two words, the lower half first. -/
def nextPair (k : KeyStream) : UInt64 × KeyStream :=
  (k.next.1.toUInt64 ||| (k.next.2.next.1.toUInt64 <<< 32), k.next.2.next.2)

theorem left_next_lt (k : KeyStream) (h : k.next.1 ≠ 0) :
    length - k.next.2.taken < length - k.taken := by
  have : k.taken < length := by
    refine Decidable.byContradiction fun hn => h ?_
    simp [next, word, hn]
  simp only [next]
  omega

instance : RandomSource KeyStream where
  next32 := next
  next64 := nextPair
  patience _ k := length - k.taken
  patience_next32_lt _ k _ h := left_next_lt k (ne_zero_of_isThrownAway h)

/-! ### Seeds -/

/-- The next state of the generator that stretches a seed to a key. -/
def seedStep (state : UInt64) : UInt64 := state * 6364136223846793005 + 11634580027462260723

/-- The word that a state gives: some of its bits, turned right as far as its highest bits say. -/
def seedWord (state : UInt64) : UInt32 :=
  turnRight (((state >>> 18) ^^^ state) >>> 27).toUInt32 (state >>> 59).toUInt32

/-- The first `count` words that come out of a state. -/
def seedWords : Nat → UInt64 → List UInt32
  | 0, _ => []
  | count + 1, state => seedWord (seedStep state) :: seedWords count (seedStep state)

/-- The stream whose key is made from a seed. -/
def ofSeed (seed : UInt64) : KeyStream :=
  let w (i : Nat) : UInt32 := (seedWords 8 seed).getD i 0
  { low := ⟨w 0, w 1, w 2, w 3⟩, high := ⟨w 4, w 5, w 6, w 7⟩ }

end KeyStream

end AssetAccess.Identifier
