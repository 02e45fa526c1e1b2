/-!
# Hexadecimal text

Digests and signatures travel as hexadecimal text.  It is written with small letters, and read with
letters of either case.
-/

namespace AssetAccess.Hex

/-- The digit for a value below 16, with small letters. -/
def digit (n : Nat) : Char := if n < 10 then Char.ofNat (48 + n) else Char.ofNat (87 + n)

/-- The digit for a value below 16, with capital letters. -/
def capitalDigit (n : Nat) : Char := if n < 10 then Char.ofNat (48 + n) else Char.ofNat (55 + n)

/-- The value of a digit, in either case. -/
def value? (c : Char) : Option Nat :=
  let n := c.toNat
  if 48 ≤ n && n ≤ 57 then some (n - 48)
  else if 97 ≤ n && n ≤ 102 then some (n - 87)
  else if 65 ≤ n && n ≤ 70 then some (n - 55)
  else none

/-- Two digits a byte, the high half first. -/
def encodeChars (l : List UInt8) : List Char :=
  l.flatMap fun b => [digit (b.toNat / 16), digit (b.toNat % 16)]

/-- The hexadecimal text of some bytes. -/
def encode (l : List UInt8) : String := String.ofList (encodeChars l)

/-- Reads two digits a byte; an odd number of digits or any other character is refused. -/
def decodeChars? : List Char → Option (List UInt8)
  | [] => some []
  | [_] => none
  | h :: l :: r => do
    let high ← value? h
    let low ← value? l
    let rest ← decodeChars? r
    pure (UInt8.ofNat (16 * high + low) :: rest)

/-- The bytes that a hexadecimal text stands for. -/
def decode? (s : String) : Option (List UInt8) := decodeChars? s.toList

/-! ### Reading back what was written -/

theorem value?_digit {n : Nat} (h : n < 16) : value? (digit n) = some n := by
  have all : ∀ m ∈ List.range 16, value? (digit m) = some m := by decide
  exact all n (List.mem_range.2 h)

theorem value?_capitalDigit {n : Nat} (h : n < 16) : value? (capitalDigit n) = some n := by
  have all : ∀ m ∈ List.range 16, value? (capitalDigit m) = some m := by decide
  exact all n (List.mem_range.2 h)

/-- A byte is made of its two halves. -/
theorem ofNat_halves (b : UInt8) : UInt8.ofNat (16 * (b.toNat / 16) + b.toNat % 16) = b := by
  rw [Nat.div_add_mod, UInt8.ofNat_toNat]

theorem decodeChars?_encodeChars (l : List UInt8) : decodeChars? (encodeChars l) = some l := by
  induction l with
  | nil => rfl
  | cons b l ih =>
    have hb := b.toNat_lt
    have high := value?_digit (show b.toNat / 16 < 16 by omega)
    have low := value?_digit (show b.toNat % 16 < 16 by omega)
    simp only [encodeChars, List.flatMap_cons, List.cons_append, List.nil_append] at ih ⊢
    simp only [decodeChars?, high, low, ih, Option.bind_eq_bind, Option.bind_some,
      Option.pure_def, ofNat_halves]

/-- Written bytes are read back as they are. -/
theorem decode?_encode (l : List UInt8) : decode? (encode l) = some l := by
  simp [decode?, encode, decodeChars?_encodeChars]

theorem length_encodeChars (l : List UInt8) : (encodeChars l).length = 2 * l.length := by
  induction l with
  | nil => rfl
  | cons b l ih =>
    simp only [encodeChars, List.flatMap_cons, List.length_append, List.length_cons,
      List.length_nil] at ih ⊢
    omega

end AssetAccess.Hex
