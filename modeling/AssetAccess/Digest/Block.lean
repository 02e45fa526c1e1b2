/-!
# Blocks, words and padding

The message digests of this library cut a message into blocks of 64 bytes and the blocks into
words of 32 bits.  They differ in the order of the bytes of a word.
-/

namespace AssetAccess.Digest

/-- The order of the bytes of a number: most or least significant first. -/
inductive ByteOrder where
  | big
  | little
deriving DecidableEq, Repr

/-- The lowest `count` bytes of `n` in the given order. -/
def ByteOrder.bytes (order : ByteOrder) (count n : Nat) : List UInt8 :=
  let little := (List.range count).map fun i => UInt8.ofNat (n >>> (8 * i))
  match order with
  | .little => little
  | .big => little.reverse

/-- The number whose bytes are given in this order. -/
def ByteOrder.value (order : ByteOrder) (l : List UInt8) : Nat :=
  match order with
  | .little => l.foldr (fun b n => b.toNat + 256 * n) 0
  | .big => l.foldl (fun n b => 256 * n + b.toNat) 0

/-- The words of a sequence of bytes; a last incomplete word is left out. -/
def ByteOrder.words (order : ByteOrder) : List UInt8 → List UInt32
  | a :: b :: c :: d :: l => UInt32.ofNat (order.value [a, b, c, d]) :: order.words l
  | _ => []

/-- The bytes of a sequence of words. -/
def ByteOrder.ofWords (order : ByteOrder) (l : List UInt32) : List UInt8 :=
  l.flatMap fun w => order.bytes 4 w.toNat

/-- The number of zero bytes that bring a message of `n` bytes, one marker byte and eight length
bytes to a multiple of the block length. -/
def zeroCount (n : Nat) : Nat := (119 - n % 64) % 64

/-- The message, a marker byte, zeros, and the length of the message in bits. -/
def padded (order : ByteOrder) (message : List UInt8) : List UInt8 :=
  message ++ 0x80 :: (List.replicate (zeroCount message.length) 0
    ++ order.bytes 8 (8 * message.length))

/-- Cuts a list of words into blocks of sixteen; a last incomplete block is left out. -/
def blocks (l : List UInt32) : List (List UInt32) :=
  if (l.drop 15).isEmpty then [] else l.take 16 :: blocks (l.drop 16)
termination_by l.length
decreasing_by
  have : 15 < l.length := by simp_all
  simp only [List.length_drop]
  omega

/-- The blocks of the padded message. -/
def ByteOrder.blocksOf (order : ByteOrder) (message : List UInt8) : List (List UInt32) :=
  blocks (order.words (padded order message))

/-- The bits of `w` turned left by `n` places. -/
def turnLeft (w : UInt32) (n : UInt32) : UInt32 := (w <<< n) ||| (w >>> (32 - n))

/-- The bits of `w` turned right by `n` places. -/
def turnRight (w : UInt32) (n : UInt32) : UInt32 := (w >>> n) ||| (w <<< (32 - n))

end AssetAccess.Digest
