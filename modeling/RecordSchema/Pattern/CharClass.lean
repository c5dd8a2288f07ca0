import RecordSchema.Pattern.Syntax
import RecordSchema.Text.Blank
import RecordSchema.Text.Digit
import RecordSchema.Text.Lowercase
import RecordSchema.Text.Uppercase
import RecordSchema.Text.Word

/-!
# Characters that an item matches

Which characters a literal, a set or a class stands for under the switches in force. When case is
ignored, a character is compared by its lower case, together with the other lower-case characters
that have the same upper case.
-/

namespace RecordSchema.Pattern

/-- The lower-case code points that share their upper case with another one, and those others. -/
def extraCases : List (Nat × List Nat) := [
  (0x69, [0x131]), (0x73, [0x17F]), (0xB5, [0x3BC]), (0x131, [0x69]),
  (0x17F, [0x73]), (0x345, [0x3B9, 0x1FBE]), (0x390, [0x1FD3]), (0x3B0, [0x1FE3]),
  (0x3B2, [0x3D0]), (0x3B5, [0x3F5]), (0x3B8, [0x3D1]), (0x3B9, [0x345, 0x1FBE]),
  (0x3BA, [0x3F0]), (0x3BC, [0xB5]), (0x3C0, [0x3D6]), (0x3C1, [0x3F1]),
  (0x3C2, [0x3C3]), (0x3C3, [0x3C2]), (0x3C6, [0x3D5]), (0x3D0, [0x3B2]),
  (0x3D1, [0x3B8]), (0x3D5, [0x3C6]), (0x3D6, [0x3C0]), (0x3F0, [0x3BA]),
  (0x3F1, [0x3C1]), (0x3F5, [0x3B5]), (0x432, [0x1C80]), (0x434, [0x1C81]),
  (0x43E, [0x1C82]), (0x441, [0x1C83]), (0x442, [0x1C84, 0x1C85]), (0x44A, [0x1C86]),
  (0x463, [0x1C87]), (0x1C80, [0x432]), (0x1C81, [0x434]), (0x1C82, [0x43E]),
  (0x1C83, [0x441]), (0x1C84, [0x442, 0x1C85]), (0x1C85, [0x442, 0x1C84]), (0x1C86, [0x44A]),
  (0x1C87, [0x463]), (0x1C88, [0xA64B]), (0x1E61, [0x1E9B]), (0x1E9B, [0x1E61]),
  (0x1FBE, [0x345, 0x3B9]), (0x1FD3, [0x390]), (0x1FE3, [0x3B0]), (0xA64B, [0x1C88]),
  (0xFB05, [0xFB06]), (0xFB06, [0xFB05])]

/-- A code point of lower case and those that count as the same when case is ignored. -/
def caseClass (n : Nat) : List Nat :=
  n :: (extraCases.lookup n).getD []

/-- The lower case of an ASCII letter; other code points stay. -/
def asciiLower (n : Nat) : Nat :=
  if 65 ≤ n ∧ n ≤ 90 then n + 32 else n

namespace Flags

/-- The code point by which a character is compared when case is ignored. -/
def folded (flags : Flags) (n : Nat) : Nat :=
  if flags.unicode then Text.lowerCode n else asciiLower n

/-- Whether case makes a difference to a code point. -/
def isCased (flags : Flags) (n : Nat) : Bool :=
  if flags.unicode then n != Text.lowerCode n || n != Text.upperCode n
  else (65 ≤ n && n ≤ 90) || (97 ≤ n && n ≤ 122)

/-- The folded code points that count as the same as a folded one. -/
def variants (flags : Flags) (n : Nat) : List Nat :=
  if flags.unicode then caseClass n else [n]

/-- The code points that fold to `n`. -/
def sources (flags : Flags) (n : Nat) : List Nat :=
  if flags.unicode then Text.lowerSources n
  else if 97 ≤ n ∧ n ≤ 122 then [n, n - 32]
  else if 65 ≤ n ∧ n ≤ 90 then []
  else [n]

end Flags

/-- Whether a character belongs to a class. -/
def Category.holds (flags : Flags) (category : Category) (c : Point) : Bool :=
  match category with
  | digit => if flags.unicode then Text.isDigit c else c.satisfies Char.isDigit
  | space => if flags.unicode then Text.isBlank c else Text.isAsciiSpace c
  | word => if flags.unicode then Text.isWord c else Text.isAsciiWord c

/-- The greatest code point of the basic plane. -/
def basicLimit : Nat := 0xFFFF

/-- Whether a literal stands for a character. -/
def literalHolds (flags : Flags) (n : Nat) (c : Point) : Bool :=
  if flags.ignoreCase && flags.isCased n then
    (flags.variants (flags.folded n)).contains (flags.folded c.toNat)
  else c.toNat == n

/-- Whether some code point of a range is cased: the case mappings are searched, not the range. -/
def rangeIsCased (flags : Flags) (first last : Nat) : Bool :=
  if flags.unicode then
    Text.lowerRuns.any (·.meets first last) || (first ≤ 0x130 && 0x130 ≤ last) ||
      Text.upperRuns.any (·.meets first last) ||
      Text.upperExpansions.any fun (n, codes) =>
        first ≤ n && n ≤ last && codes.headD n != n
  else (first ≤ 90 && 65 ≤ last) || (first ≤ 122 && 97 ≤ last)

/-- Whether a member makes a set depend on case. Members beyond the basic plane always do. -/
def SetItem.isCased (flags : Flags) : SetItem → Bool
  | code n => basicLimit < n || flags.isCased n
  | range first last => basicLimit < last || rangeIsCased flags first last
  | category _ _ => false

/-- Whether a member holds a character as it is. -/
def SetItem.holds (flags : Flags) (c : Point) : SetItem → Bool
  | code n => c.toNat == n
  | range first last => first ≤ c.toNat && c.toNat ≤ last
  | category k negated => k.holds flags c != negated

/-- Whether a member holds a folded character. In the basic plane a member stands for everything
that folds as one of its code points does; beyond it a single code point is taken as written, and a
range also by upper case. -/
def SetItem.holdsFolded (flags : Flags) (c : Point) : SetItem → Bool
  | code n =>
    if basicLimit < n then c.toNat == n
    else (flags.variants (flags.folded n)).contains c.toNat
  | range first last =>
    ((flags.variants c.toNat).any fun v =>
      (flags.sources v).any fun n => first ≤ n && n ≤ min last basicLimit) ||
    (basicLimit < last &&
      ((first ≤ c.toNat && c.toNat ≤ last) ||
        (first ≤ Text.upperCode c.toNat && Text.upperCode c.toNat ≤ last)))
  | category k negated => k.holds flags c != negated

/-- Whether a set stands for a character. -/
def setHolds (flags : Flags) (negated : Bool) (items : List SetItem) (c : Point) : Bool :=
  let found :=
    if flags.ignoreCase && items.any (·.isCased flags) then
      items.any (·.holdsFolded flags (Point.ofNat (flags.folded c.toNat)))
    else items.any (·.holds flags c)
  found != negated

end RecordSchema.Pattern
