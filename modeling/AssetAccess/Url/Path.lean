import AssetAccess.Text.Ascii
import AssetAccess.Text.Percent
/-!
# Paths

A path is a list of segments, each behind a slash.  In a written path a backslash counts as a slash,
a segment of one dot stands for nothing, and one of two dots takes away the segment before it; each
dot may be percent-encoded.  A segment that looks like the letter of a drive is never taken away.
-/

namespace AssetAccess.Url

/-- Slashes of both kinds. -/
def isSlash (c : Char) : Bool := c == '/' || c == '\\'

/-- The bytes that every part of an address may hold: printable ASCII but for quotation marks and
angle brackets. -/
def isPlain (b : UInt8) : Bool := 0x21 ≤ b && b ≤ 0x7E && b != 0x22 && b != 0x3C && b != 0x3E

namespace Path

/-- The bytes that a path may hold: not a backtick, a brace, or a mark that ends a path. -/
def isKept (b : UInt8) : Bool :=
  isPlain b && b != 0x60 && b != 0x7B && b != 0x7D && b != 0x23 && b != 0x3F

/-- The written form of a segment. -/
def encodeSegment (l : List Char) : List Char :=
  (Percent.encodeBytes isKept (Text.utf8 (String.ofList l))).toList

/-- The segment with each encoded dot as a dot. -/
def decodeDots : List Char → List Char
  | '%' :: '2' :: 'e' :: l | '%' :: '2' :: 'E' :: l => '.' :: decodeDots l
  | c :: l => c :: decodeDots l
  | [] => []

/-- A letter, and a colon or a vertical line. -/
def isDrive : List Char → Bool
  | [letter, mark] => letter.isAlpha && (mark == ':' || mark == '|')
  | _ => false

/-- The segments without the last, unless that is the letter of a drive. -/
def up (done : List (List Char)) : List (List Char) :=
  if (done.getLast?.any isDrive) then done else done.dropLast

/-- Puts written segments behind the segments that are done.  Dots at the end of a path leave an
empty segment there. -/
def resolve (done : List (List Char)) : List (List Char) → List (List Char)
  | [] => done
  | s :: l =>
    if decodeDots s = ['.', '.'] then resolve (if l.isEmpty then up done ++ [[]] else up done) l
    else if decodeDots s = ['.'] then resolve (if l.isEmpty then done ++ [[]] else done) l
    else resolve (done ++ [encodeSegment s]) l

/-- The segments of a written path; a slash at its start makes no difference. -/
def segments (l : List Char) : List (List Char) :=
  let body := match l with
    | c :: r => if isSlash c then r else c :: r
    | [] => []
  resolve [] (body.splitOnP isSlash)

/-- The written form of some segments. -/
def text (segments : List (List Char)) : String :=
  String.ofList (segments.flatMap fun s => '/' :: s)

end Path

end AssetAccess.Url
