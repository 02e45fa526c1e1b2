import AssetAccess.Text.CharClass
import AssetAccess.Text.CombiningClass
import AssetAccess.Text.Composition
import AssetAccess.Text.Direction
import AssetAccess.Text.Folding
import AssetAccess.Text.Joining
import AssetAccess.Url.Punycode
/-!
# Labels of domain names

A label is what stands between two full stops of a domain name.  It is compared in its normal form,
in which every character is folded and composed, and a character that is no part of a written word
is refused.  Beyond that a label starts with no mark, and it holds a joiner only where that makes a
difference to what is written.

In a name that holds letters written from right to left, each label has to run in one direction, so
that its characters are seen in the same order wherever the name stands.
-/

namespace AssetAccess.Url.Label

/-! ### Normal form -/

/-- A character that asks its neighbours to join, or not to. -/
def isJoiner (c : Char) : Bool := c == '\u200c' || c == '\u200d'

/-- Printable characters that no label holds: signs with a full stop in them that do not part
labels, descriptions of ideographs, and stand-ins for what is no character. -/
def refusedRanges : List (Nat × Nat) :=
  [(0x2024, 0x2026), (0x2488, 0x249B), (0x2FF0, 0x2FFF), (0x31EF, 0x31EF), (0x33C2, 0x33C2),
   (0x33C7, 0x33C7), (0x33D8, 0x33D8), (0xFE12, 0xFE12), (0xFE19, 0xFE19), (0xFE30, 0xFE30),
   (0xFE52, 0xFE52), (0xFFFC, 0xFFFD), (0x1F100, 0x1F100)]

/-- Letters, marks and signs that labels hold, though they are too new to count as printable. -/
def furtherRanges : List (Nat × Nat) :=
  [(0x558, 0x558), (0x58B, 0x58C), (0x5C8, 0x5C9), (0x1AEC, 0x1AEC), (0x208F, 0x208F),
   (0x20C2, 0x20C3), (0xA7DD, 0xA7E2), (0xAB6C, 0xAB6C), (0x107BB, 0x107BF), (0x10ECB, 0x10ECF),
   (0x11B0A, 0x11B0A), (0x12550, 0x12686), (0x16D80, 0x16DAF), (0x18E00, 0x191FF),
   (0x1B123, 0x1B123), (0x1D250, 0x1D28F), (0x1F6D9, 0x1F6D9), (0x1FA8B, 0x1FA8D),
   (0x1FACC, 0x1FACC), (0x1FADD, 0x1FADD), (0x1FAEB, 0x1FAEB), (0x1FAF9, 0x1FAFA),
   (0x2B81E, 0x2B81F), (0x3D000, 0x3FC3F)]

/-- Whether a character that counts may be part of a name. -/
def isAdmitted (c : Char) : Bool :=
  isJoiner c || (Text.isPrintable c && !Text.inRanges refusedRanges c.toNat)
    || Text.inRanges furtherRanges c.toNat

/-- The normal form of a text, if every character of it that counts may be part of a name. -/
def normal? (l : List Char) : Option (List Char) :=
  let counting := l.filter (!Text.isIgnored ·)
  if counting.all isAdmitted then some (Text.composed (counting.flatMap Text.folded)) else none

/-! ### What a label holds -/

/-- ASCII characters that no label holds. -/
def isForbidden (c : Char) : Bool :=
  c.toNat ≤ 0x20 || c == '\x7f'
    || ['#', '%', '.', '/', ':', '<', '>', '?', '@', '[', '\\', ']', '^', '|'].contains c

/-- A sign that takes the vowel from the letter before it; its class is 9. -/
def isVirama (c : Char) : Bool := Text.combiningClass c == 9

/-- Whether a joiner makes a difference between what stands before it, the nearest character first,
and what stands behind it.  Either joiner does after a virama.  The one that keeps letters from
joining also does between two letters that would join. -/
def joinerFits (joiner : Char) (before behind : List Char) : Bool :=
  before.head?.any isVirama
    || (joiner == '\u200c' && (before.dropWhile Text.isJoinedOver).head?.any Text.joinsBehind
      && (behind.dropWhile Text.isJoinedOver).head?.any Text.joinsBefore)

/-- Whether every joiner in a text fits, where `before` is what stands before the text, the nearest
character first. -/
def joinersFit (before : List Char) : List Char → Bool
  | [] => true
  | c :: l => (!isJoiner c || joinerFits c before l) && joinersFit (c :: before) l

/-- The greatest number of characters in a label that needs a coded form. -/
def maxLength : Nat := 1000

/-- Whether a text is a label: it is in normal form and holds nothing forbidden, and unless it is
ASCII alone, it starts with no mark, its joiners fit, and it is not too long. -/
def isWellFormed (label : List Char) : Bool :=
  normal? label == some label && !label.any isForbidden
    && (label.all Punycode.isAscii
      || (!label.head?.any Text.isMark && joinersFit [] label && label.length ≤ maxLength))

/-! ### Direction -/

/-- Whether a character makes a name one that runs from right to left in part. -/
def turnsLeft (c : Char) : Bool :=
  match Text.direction c with
  | .leftward | .arabicDigit => true
  | _ => false

/-- Whether a label runs from left to right after its first letter. -/
def runsRight (l : List Text.Direction) : Bool :=
  let body := l.reverse.dropWhile (· == .mark)
  !body.contains .leftward && !body.contains .arabicDigit
    && body.head?.all fun d => d == .rightward || d == .digit

/-- Whether a label runs from right to left after its first letter.  It ends in a letter or a digit,
and its digits are of one kind. -/
def runsLeft (l : List Text.Direction) : Bool :=
  let body := l.reverse.dropWhile (· == .mark)
  !body.contains .rightward && !(body.contains .digit && body.contains .arabicDigit)
    && body.head?.all fun d => d == .leftward || d == .digit || d == .arabicDigit

/-- Whether a label runs in one direction, which its first letter gives.  Marks at the end belong to
the character before them. -/
def runsOneWay (label : List Char) : Bool :=
  match label.map Text.direction with
  | [] => true
  | .rightward :: l => runsRight l
  | .leftward :: l => runsLeft l
  | _ => false

end AssetAccess.Url.Label
