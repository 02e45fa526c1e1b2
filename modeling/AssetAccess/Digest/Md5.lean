import AssetAccess.Digest.Block
/-!
# MD5

The digest of 16 bytes that marks the content of a request body and seeds packed identifiers.  It
guards against accidents only; nothing secret rests on it.
-/

namespace AssetAccess.Md5

open Digest

/-- The chaining value. -/
structure State where
  a : UInt32
  b : UInt32
  c : UInt32
  d : UInt32
deriving DecidableEq, Repr

/-- The value before the first block. -/
def start : State := ⟨0x67452301, 0xefcdab89, 0x98badcfe, 0x10325476⟩

/-- The integer part of the absolute value of the sine of 1, 2, …, 64, scaled by 2^32. -/
def sines : List UInt32 :=
  [0xd76aa478, 0xe8c7b756, 0x242070db, 0xc1bdceee, 0xf57c0faf, 0x4787c62a, 0xa8304613, 0xfd469501,
   0x698098d8, 0x8b44f7af, 0xffff5bb1, 0x895cd7be, 0x6b901122, 0xfd987193, 0xa679438e, 0x49b40821,
   0xf61e2562, 0xc040b340, 0x265e5a51, 0xe9b6c7aa, 0xd62f105d, 0x02441453, 0xd8a1e681, 0xe7d3fbc8,
   0x21e1cde6, 0xc33707d6, 0xf4d50d87, 0x455a14ed, 0xa9e3e905, 0xfcefa3f8, 0x676f02d9, 0x8d2a4c8a,
   0xfffa3942, 0x8771f681, 0x6d9d6122, 0xfde5380c, 0xa4beea44, 0x4bdecfa9, 0xf6bb4b60, 0xbebfbc70,
   0x289b7ec6, 0xeaa127fa, 0xd4ef3085, 0x04881d05, 0xd9d4d039, 0xe6db99e5, 0x1fa27cf8, 0xc4ac5665,
   0xf4292244, 0x432aff97, 0xab9423a7, 0xfc93a039, 0x655b59c3, 0x8f0ccc92, 0xffeff47d, 0x85845dd1,
   0x6fa87e4f, 0xfe2ce6e0, 0xa3014314, 0x4e0811a1, 0xf7537e82, 0xbd3af235, 0x2ad7d2bb, 0xeb86d391]

/-- The mixing function, the place of the message word and the turn of step `i`.  Each quarter of
the 64 steps has a mixing function, an order of the words and a cycle of four turns of its own. -/
def plan (i : Nat) (s : State) : UInt32 × Nat × UInt32 :=
  match i / 16 with
  | 0 => ((s.b &&& s.c) ||| (~~~s.b &&& s.d), i, [7, 12, 17, 22].getD (i % 4) 0)
  | 1 => ((s.d &&& s.b) ||| (~~~s.d &&& s.c), (5 * i + 1) % 16, [5, 9, 14, 20].getD (i % 4) 0)
  | 2 => (s.b ^^^ s.c ^^^ s.d, (3 * i + 5) % 16, [4, 11, 16, 23].getD (i % 4) 0)
  | _ => (s.c ^^^ (s.b ||| ~~~s.d), (7 * i) % 16, [6, 10, 15, 21].getD (i % 4) 0)

/-- Step `i` on a block, with the constant that belongs to it. -/
def step (block : Array UInt32) (s : State) (sine : UInt32) (i : Nat) : State :=
  let (mixed, place, turn) := plan i s
  let sum := mixed + s.a + sine + block.getD place 0
  ⟨s.d, s.b + turnLeft sum turn, s.b, s.c⟩

/-- Sixty-four steps on one block, added word by word to the chaining value. -/
def compress (s : State) (block : List UInt32) : State :=
  let r := sines.zipIdx.foldl (fun s p => step block.toArray s p.1 p.2) s
  ⟨s.a + r.a, s.b + r.b, s.c + r.c, s.d + r.d⟩

/-- The chaining value after the last block of a message. -/
def run (message : List UInt8) : State :=
  (ByteOrder.little.blocksOf message).foldl compress start

/-- The digest of a message. -/
def digest (message : List UInt8) : List UInt8 :=
  let s := run message
  ByteOrder.little.ofWords [s.a, s.b, s.c, s.d]

end AssetAccess.Md5
