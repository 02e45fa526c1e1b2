import AssetAccess.Text.Hex
/-!
# Strings in JSON

Between its quotes a JSON string holds characters and escapes.  `scan` checks the form and finds the
end; it lets an escape name half of a surrogate pair, since a value that nobody reads may hold one.
`decode?` gives the text that a string denotes, and refuses such a half.  `quoted` writes a text:
quotes, backslashes and control characters are escaped, and nothing else.
-/

namespace AssetAccess.Json

/-- The character that an escape of one letter denotes. -/
def unescapeLetter? : Char → Option Char
  | '"' => some '"'
  | '\\' => some '\\'
  | '/' => some '/'
  | 'b' => some '\x08'
  | 'f' => some '\x0c'
  | 'n' => some '\n'
  | 'r' => some '\r'
  | 't' => some '\t'
  | _ => none

/-- The number that four hexadecimal digits denote. -/
def unit? (a b c d : Char) : Option Nat := do
  return 4096 * (← Hex.value? a) + 256 * (← Hex.value? b) + 16 * (← Hex.value? c)
    + (← Hex.value? d)

namespace StringText

/-- Splits a text at the first quote that no escape covers, if all before it is well formed. -/
def scan : List Char → Option (List Char × List Char)
  | '"' :: l => some ([], l)
  | '\\' :: 'u' :: a :: b :: c :: d :: l =>
    if (unit? a b c d).isSome then
      (scan l).map fun (raw, rest) => ('\\' :: 'u' :: a :: b :: c :: d :: raw, rest)
    else none
  | '\\' :: c :: l =>
    if (unescapeLetter? c).isSome then (scan l).map fun (raw, rest) => ('\\' :: c :: raw, rest)
    else none
  | c :: l => if c < ' ' || c = '\\' then none else (scan l).map fun (raw, rest) => (c :: raw, rest)
  | [] => none

/-- Whether a number is the first half of a surrogate pair. -/
def isHighHalf (n : Nat) : Bool := 0xD800 ≤ n && n < 0xDC00
/-- Whether a number is the second half of a surrogate pair. -/
def isLowHalf (n : Nat) : Bool := 0xDC00 ≤ n && n < 0xE000

/-- The text that the inside of a string denotes. -/
def decode? : List Char → Option (List Char)
  | [] => some []
  | '\\' :: 'u' :: a :: b :: c :: d :: l => do
    let n ← unit? a b c d
    if isLowHalf n then none
    else if isHighHalf n then
      match l with
      | '\\' :: 'u' :: e :: f :: g :: h :: l => do
        let m ← unit? e f g h
        if isLowHalf m then
          let text ← decode? l
          some (Char.ofNat (0x10000 + 1024 * (n - 0xD800) + (m - 0xDC00)) :: text)
        else none
      | _ => none
    else
      let text ← decode? l
      some (Char.ofNat n :: text)
  | '\\' :: c :: l => do
    let c ← unescapeLetter? c
    let text ← decode? l
    some (c :: text)
  | c :: l => if c = '\\' then none else (decode? l).map (c :: ·)

/-- The escape of a character, if a string cannot hold it as it is. -/
def escape? (c : Char) : Option (List Char) :=
  match c with
  | '"' => some ['\\', '"']
  | '\\' => some ['\\', '\\']
  | '\x08' => some ['\\', 'b']
  | '\x0c' => some ['\\', 'f']
  | '\n' => some ['\\', 'n']
  | '\r' => some ['\\', 'r']
  | '\t' => some ['\\', 't']
  | _ =>
    if c < ' ' then
      some ['\\', 'u', '0', '0', Hex.digit (c.toNat / 16), Hex.digit (c.toNat % 16)]
    else none

/-- The inside of the string that denotes a text. -/
def encode (l : List Char) : List Char := l.flatMap fun c => (escape? c).getD [c]

end StringText

/-- The string that denotes a text. -/
def quoted (s : String) : String := "\"" ++ String.ofList (StringText.encode s.toList) ++ "\""

/-- A compact object whose members are given as keys and JSON texts. -/
def object (members : List (String × String)) : String :=
  "\x7b" ++ ",".intercalate (members.map fun (key, value) => quoted key ++ ":" ++ value) ++ "\x7d"

end AssetAccess.Json
