/-!
# White space

The characters with the white space property, of which there are 25.
-/

namespace AssetAccess.Text

/-- A character with the white space property. -/
def isBlank (c : Char) : Bool :=
  let n := c.toNat
  (9 ≤ n && n ≤ 13) || n == 0x20 || n == 0x85 || n == 0xA0 || n == 0x1680
    || (0x2000 ≤ n && n ≤ 0x200A) || n == 0x2028 || n == 0x2029 || n == 0x202F || n == 0x205F
    || n == 0x3000

/-- The text without the white space at its start. -/
def skipBlanks (l : List Char) : List Char := l.dropWhile isBlank

/-- The text without the white space at either end. -/
def trim (l : List Char) : List Char := (skipBlanks (skipBlanks l).reverse).reverse

end AssetAccess.Text
