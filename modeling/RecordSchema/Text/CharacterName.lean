import RecordSchema.Text.NameList
import RecordSchema.Text.Ranges

/-!
# Characters by name

A character is found by its name in Unicode 14.0 in any case. Syllables of Hangul have names that are
made up of their sounds, and ideographs are named by their code points; the names of most of these
are taken in capital letters only.
-/

namespace RecordSchema.Text

/-- The number of hexadecimal digits in capital letters. -/
def capitalHex? (cs : List Char) : Option Nat :=
  if cs.all fun c => c.isDigit || ('A' ≤ c && c ≤ 'F') then
    some (cs.foldl (fun n c => 16 * n + if c.isDigit then c.toNat - 48 else c.toNat - 55) 0)
  else none

/-- What follows in a text after the given start. -/
def after? (start : String) (cs : List Char) : Option (List Char) :=
  if start.toList.isPrefixOf cs then some (cs.drop start.length) else none

/-! ## Names by rule -/

/-- The code points of unified ideographs. -/
def unifiedRanges : Ranges := [
  (0x3400, 0x4DBF), (0x4E00, 0x9FFF), (0x20000, 0x2A6DF), (0x2A700, 0x2B738), (0x2B740, 0x2B81D),
  (0x2B820, 0x2CEA1), (0x2CEB0, 0x2EBE0), (0x30000, 0x3134A)]

/-- The unified ideograph of a name, which ends in four or five digits. -/
def unified? (cs : List Char) : Option Nat := do
  let digits ← after? "CJK UNIFIED IDEOGRAPH-" cs
  let n ← capitalHex? digits
  if (digits.length = 4 ∨ digits.length = 5) ∧ unifiedRanges.contains n then some n else none

/-- The starts of names that end in the code point, and the code points of such names. -/
def series : List (String × Ranges) := [
  ("CJK COMPATIBILITY IDEOGRAPH-", [(0xF900, 0xFA6D), (0xFA70, 0xFAD9), (0x2F800, 0x2FA1D)]),
  ("KHITAN SMALL SCRIPT CHARACTER-", [(0x18B00, 0x18CD5)]),
  ("NUSHU CHARACTER-", [(0x1B170, 0x1B2FB)])]

/-- The character of a name that ends in the code point. -/
def ofSeries? (cs : List Char) : Option Nat :=
  series.findSome? fun (start, ranges) => do
    let digits ← after? start cs
    let n ← capitalHex? digits
    if digits.length = (if n < 0x10000 then 4 else 5) ∧ ranges.contains n then some n else none

/-- The sounds that start a syllable of Hangul, one of them silent. -/
def leadingSounds : List String :=
  ["G", "GG", "N", "D", "DD", "R", "M", "B", "BB", "S", "SS", "", "J", "JJ", "C", "K", "T", "P", "H"]

/-- The vowels of syllables of Hangul. -/
def vowelSounds : List String :=
  ["A", "AE", "YA", "YAE", "EO", "E", "YEO", "YE", "O", "WA", "WAE", "OE", "YO", "U", "WEO", "WE",
    "WI", "YU", "EU", "YI", "I"]

/-- The sounds that end a syllable of Hangul, or nothing. -/
def trailingSounds : List String :=
  ["", "G", "GG", "GS", "N", "NJ", "NH", "D", "L", "LG", "LM", "LB", "LS", "LT", "LP", "LH", "M", "B",
    "BS", "S", "SS", "NG", "J", "C", "K", "T", "P", "H"]

/-- The first syllable of Hangul. -/
def firstSyllable : Nat := 0xAC00

/-- The longest of some sounds that a text starts with: its place among them and what follows it. -/
def sound? (sounds : List String) (cs : List Char) : Option (Nat × List Char) :=
  let found := sounds.zipIdx.filter fun (sound, _) => sound.toList.isPrefixOf cs
  let longest := found.foldl (fun n (sound, _) => max n sound.length) 0
  (found.find? fun (sound, _) => sound.length = longest).map fun (sound, place) =>
    (place, cs.drop sound.length)

/-- The syllable of Hangul of a name. -/
def syllable? (cs : List Char) : Option Nat := do
  let sounds ← after? "HANGUL SYLLABLE " cs
  let (lead, rest) ← sound? leadingSounds sounds
  let (vowel, rest) ← sound? vowelSounds rest
  let (trail, rest) ← sound? trailingSounds rest
  if rest.isEmpty then
    some (firstSyllable + (lead * vowelSounds.length + vowel) * trailingSounds.length + trail)
  else none

/-! ## Names in lists -/

/-- The entries of a list of names. -/
def entries (names : String) : List (List Char) :=
  ((names.toList.filter (· ≠ '\n')).splitOn ';').map (·.dropWhile (· = ' '))

/-- The words of an entry after a name of the given words. -/
def entryWords (last : List (List Char)) (entry : List Char) : List (List Char) :=
  let counts := (entry.takeWhile Char.isDigit).map fun c => c.toNat - 48
  let own := entry.dropWhile Char.isDigit
  last.take (counts.headD 0) ++ (if own.isEmpty then [] else own.splitOn ' ') ++
    last.drop (last.length - counts.tail.headD 0)

/-- The code point of a name among entries, the next of which is for the given code point and comes
after a name of the given words. -/
def findEntry (name : List (List Char)) : Nat → List (List Char) → List (List Char) → Option Nat
  | _, _, [] => none
  | code, last, entry :: rest =>
    match entry with
    | '=' :: digits => findEntry name ((capitalHex? digits).getD code) last rest
    | _ =>
      let words := entryWords last entry
      if words = name then some code else findEntry name (code + 1) words rest

/-- The lists of names. -/
def nameLists : List String :=
  [europeanNames, asianNames, symbolNames, basicNames, ancientNames, laterNames, pictureNames,
    aliasNames]

/-- The character of a name that stands in a list. -/
def listed? (cs : List Char) : Option Nat :=
  nameLists.findSome? fun names => findEntry (cs.splitOn ' ') 0 [] (entries names)

/-- The code point of the character of a name. -/
def namedCharacter? (cs : List Char) : Option Nat :=
  let capitals := cs.map Char.toUpper
  ((unified? cs).or (syllable? cs)).or ((ofSeries? capitals).or (listed? capitals))

end RecordSchema.Text
