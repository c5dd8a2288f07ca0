import RecordSchema.Text.Quoted

/-!
# Quoted text in JSON

Between double quotes every character may be written by an escape. Reading takes all escapes of the
format and refuses bare control characters; writing escapes whatever is not a printable ASCII
character, and code points beyond the basic plane by a pair of units.
-/

namespace RecordSchema.Json

/-- The characters that have an escape of their own, and its letter. -/
def shortEscapes : List (Char × Char) :=
  [('"', '"'), ('\\', '\\'), ('\x08', 'b'), ('\x0c', 'f'), ('\n', 'n'), ('\r', 'r'), ('\t', 't')]

/-- The escape of one 16-bit unit. -/
def writeUnit (n : Nat) : List Char :=
  ['\\', 'u'] ++ Text.hexDigits n 4

/-- The written form of one character between quotes. -/
def writeChar (c : Char) : List Char :=
  match shortEscapes.lookup c with
  | some letter => ['\\', letter]
  | none =>
    if ' ' ≤ c ∧ c ≤ '~' then [c]
    else if c.toNat < 0x10000 then writeUnit c.toNat
    else
      writeUnit (0xD800 + (c.toNat - 0x10000) / 0x400) ++
        writeUnit (0xDC00 + (c.toNat - 0x10000) % 0x400)

/-- The written form of one code point between quotes; half of a pair is a unit by itself. -/
def writePoint : Point → List Char
  | .char c => writeChar c
  | .half bits => writeUnit (Point.half bits).toNat

/-- The written form of a text. -/
def writeText (cs : List Point) : List Char :=
  ['"'] ++ cs.flatMap writePoint ++ ['"']

/-- The value of a hexadecimal digit in either case. -/
def hexValue? (c : Char) : Option Nat :=
  if '0' ≤ c ∧ c ≤ '9' then some (c.toNat - '0'.toNat)
  else if 'a' ≤ c ∧ c ≤ 'f' then some (c.toNat - 'a'.toNat + 10)
  else if 'A' ≤ c ∧ c ≤ 'F' then some (c.toNat - 'A'.toNat + 10)
  else none

/-- The unit of four hexadecimal digits. -/
def readUnit? (a b c d : Char) : Option Nat :=
  match hexValue? a, hexValue? b, hexValue? c, hexValue? d with
  | some a, some b, some c, some d => some (((a * 16 + b) * 16 + c) * 16 + d)
  | _, _, _, _ => none

/-- The character of a letter after a backslash. -/
def shortEscape? (letter : Char) : Option Char :=
  if letter = '/' then some '/'
  else (shortEscapes.find? fun escape => escape.2 = letter).map (·.1)

/-- Reads the code points of a text up to its closing quote, those of escapes unit by unit, and
gives what follows the quote. -/
def readPoints : List Char → Option (List Nat × List Char)
  | [] => none
  | '"' :: rest => some ([], rest)
  | '\\' :: 'u' :: a :: b :: c :: d :: rest =>
    match readUnit? a b c d, readPoints rest with
    | some n, some (ns, rest) => some (n :: ns, rest)
    | _, _ => none
  | '\\' :: letter :: rest =>
    match shortEscape? letter, readPoints rest with
    | some c, some (ns, rest) => some (c.toNat :: ns, rest)
    | _, _ => none
  | c :: rest =>
    if c = '\\' ∨ c < ' ' then none
    else (readPoints rest).map fun (ns, rest) => (c.toNat :: ns, rest)

/-- The code point that two units make up together. -/
def pair? (high low : Nat) : Option Nat :=
  if 0xD800 ≤ high ∧ high < 0xDC00 ∧ 0xDC00 ≤ low ∧ low < 0xE000 then
    some (0x10000 + (high - 0xD800) * 0x400 + (low - 0xDC00))
  else none

/-- The code points of a text that is read, pairs of units put together. A half that has no other
half beside it stays what it is. -/
def joinPairs : List Nat → List Point
  | [] => []
  | [n] => [.ofNat n]
  | high :: low :: rest =>
    match pair? high low with
    | some n => .ofNat n :: joinPairs rest
    | none => .ofNat high :: joinPairs (low :: rest)

/-- Reads a text up to its closing quote, and gives what follows the quote. -/
def readText (cs : List Char) : Option (Text × List Char) :=
  (readPoints cs).map fun (points, rest) => (.ofList (joinPairs points), rest)

end RecordSchema.Json
