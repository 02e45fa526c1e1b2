import AssetAccess.Text.Hex
/-!
# Rows of a table

A large table of characters is written in rows of text.  Characters are given by their numbers in
hexadecimal.  A row starts with the number it is about, and its entries follow, each after a blank;
an entry of several numbers has plus signs between them.
-/

namespace AssetAccess.Text

/-- A row of a table: the number it is about, and its entries. -/
structure Row where
  head : Nat
  entries : List (List Nat)
deriving DecidableEq, Repr

namespace Row

/-- The value of hexadecimal digits; the empty list is 0. -/
def number (l : List Char) : Nat := l.foldl (fun n c => 16 * n + (Hex.value? c).getD 0) 0

/-- The row that a text denotes. -/
def ofString (s : String) : Row :=
  match (s.toList.splitOn ' ').map fun word => (word.splitOn '+').map number with
  | [head] :: entries => ⟨head, entries⟩
  | _ => ⟨0, []⟩

/-- The entry for a number in a row that is about its head and the numbers that follow it. -/
def following? (r : Row) (n : Nat) : Option (List Nat) :=
  if r.head ≤ n then r.entries[n - r.head]? else none

example : ofString "FB00 66+66 66+69" = ⟨0xFB00, [[0x66, 0x66], [0x66, 0x69]]⟩ := by decide

end Row

end AssetAccess.Text
