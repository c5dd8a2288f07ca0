import RecordSchema.Text.Ranges

/-!
# Blank characters

White space in Unicode 14.0, and the blanks, which also hold the four information separators.
-/

namespace RecordSchema.Text

/-- The code points of blanks. -/
def blankRanges : Ranges := [
  (0x9, 0xD), (0x1C, 0x20), (0x85, 0x85), (0xA0, 0xA0), (0x1680, 0x1680), (0x2000, 0x200A),
  (0x2028, 0x2029), (0x202F, 0x202F), (0x205F, 0x205F), (0x3000, 0x3000)]

/-- A blank: white space or an information separator. -/
def isBlank (c : Point) : Bool :=
  blankRanges.contains c.toNat

/-- White space: a blank that is not one of the information separators. -/
def isWhiteSpace (c : Point) : Bool :=
  isBlank c && !(0x1C ≤ c.toNat && c.toNat ≤ 0x1F)

/-- White space among the ASCII characters. -/
def isAsciiSpace (c : Point) : Bool :=
  c.toNat = 0x20 || (9 ≤ c.toNat && c.toNat ≤ 13)

/-- Removes what satisfies a condition from both ends. -/
def trimBy {α : Type} (p : α → Bool) (cs : List α) : List α :=
  ((cs.dropWhile p).reverse.dropWhile p).reverse

/-- Removes blanks from both ends. -/
def trim (cs : List Point) : List Point :=
  trimBy isBlank cs

end RecordSchema.Text
