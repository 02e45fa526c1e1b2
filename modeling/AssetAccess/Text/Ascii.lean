/-!
# ASCII letters and blanks

Header names, host names and token fields are compared without regard to the case of ASCII letters,
and header values lose their ASCII blanks at both ends before they are signed.  Nothing here
touches a character beyond ASCII.
-/

namespace AssetAccess.Text

/-- The text with its ASCII capital letters made small; every other character stays. -/
def lower (s : String) : String := String.ofList (s.toList.map Char.toLower)

/-- Space, tab, line feed, form feed and carriage return. -/
def isBlankByte (b : UInt8) : Bool :=
  b == 0x20 || b == 0x09 || b == 0x0A || b == 0x0C || b == 0x0D

/-- The bytes without the ASCII blanks at either end. -/
def trimBlanks (l : List UInt8) : List UInt8 :=
  ((l.dropWhile isBlankByte).reverse.dropWhile isBlankByte).reverse

/-- Splits at the first occurrence of `sep`: what stands before it, and what follows it if it
occurs at all. -/
def cutFirst (sep : Char) : List Char → List Char × Option (List Char)
  | [] => ([], none)
  | c :: l => if c = sep then ([], some l) else
      let (before, after) := cutFirst sep l
      (c :: before, after)

/-- The pieces of a text between the occurrences of `sep`; a text without `sep` is one piece. -/
def pieces (sep : Char) (s : String) : List String := (s.toList.splitOn sep).map String.ofList

end AssetAccess.Text
