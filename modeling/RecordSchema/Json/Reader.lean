import RecordSchema.Json.Quoted
import RecordSchema.Number.Decimal
import RecordSchema.Text.Integer
import RecordSchema.Value.Record

/-!
# Reading JSON documents

A document is one value between spaces. Numbers without a fraction and an exponent are integers of
any size up to `Text.digitLimit` digits, all others are binary64 numbers, and the three names of
what is no finite number are taken too. Of equal keys the first place and the last value count.
-/

namespace RecordSchema.Json

/-- The space that may stand between the parts of a document. -/
def isSpace (c : Char) : Bool :=
  c = ' ' || c = '\t' || c = '\n' || c = '\r'

def skipSpace (cs : List Char) : List Char :=
  cs.dropWhile isSpace

/-- The names of values. Every not-a-number of a document is the shared one. -/
def names : List (List Char × Value) := [
  ("null".toList, .null), ("true".toList, .bool true), ("false".toList, .bool false),
  ("NaN".toList, .float (.nan true)), ("Infinity".toList, .float (.infinite false)),
  ("-Infinity".toList, .float (.infinite true))]

/-- Reads the name of a value. -/
def readName (cs : List Char) : Option (Value × List Char) :=
  (names.find? fun entry => entry.1.isPrefixOf cs).map fun (name, v) =>
    (v, cs.drop name.length)

def digitsAhead (cs : List Char) : List Char :=
  cs.takeWhile Char.isDigit

/-- The value of a row of ASCII digits. -/
def ofAsciiDigits (digits : List Char) : Nat :=
  Decimal.ofDigits (digits.map fun c => c.toNat - '0'.toNat)

/-- Reads the digits in front of the point: zero, or digits that do not start with it. -/
def readWhole (cs : List Char) : Option (List Char × List Char) :=
  match digitsAhead cs with
  | [] => none
  | '0' :: _ => some (['0'], cs.drop 1)
  | digits => some (digits, cs.drop digits.length)

/-- Reads the digits behind the point, if a point and a digit are ahead. -/
def readFraction (cs : List Char) : List Char × List Char :=
  match cs with
  | '.' :: rest =>
    match digitsAhead rest with
    | [] => ([], cs)
    | digits => (digits, rest.drop digits.length)
  | _ => ([], cs)

/-- Reads a sign, if one is ahead, and tells whether it is a minus. -/
def readSign : List Char → Bool × List Char
  | '-' :: rest => (true, rest)
  | '+' :: rest => (false, rest)
  | rest => (false, rest)

/-- Reads an exponent, if a whole one is ahead. -/
def readExponent (cs : List Char) : Option Int × List Char :=
  match cs with
  | mark :: rest =>
    if mark = 'e' ∨ mark = 'E' then
      let (negative, rest) := readSign rest
      match digitsAhead rest with
      | [] => (none, cs)
      | digits =>
        let n : Int := ofAsciiDigits digits
        (some (if negative then -n else n), rest.drop digits.length)
    else (none, cs)
  | [] => (none, cs)

/-- The number of a numeral. An integer with too many digits is none. -/
def number? (negative : Bool) (whole fraction : List Char) (exponent? : Option Int) :
    Option Value :=
  match fraction, exponent? with
  | [], none =>
    if Text.digitLimit < whole.length then none
    else
      let n : Int := ofAsciiDigits whole
      some (.int (if negative then -n else n))
  | _, _ =>
    some (.float (Decimal.toDouble
      ⟨negative, ofAsciiDigits (whole ++ fraction), exponent?.getD 0 - fraction.length⟩))

/-- Reads a number. -/
def readNumber (cs : List Char) : Option (Value × List Char) :=
  let (negative, cs) :=
    match cs with
    | '-' :: rest => (true, rest)
    | _ => (false, cs)
  match readWhole cs with
  | none => none
  | some (whole, rest) =>
    let (fraction, rest) := readFraction rest
    let (exponent?, rest) := readExponent rest
    (number? negative whole fraction exponent?).map (·, rest)

/-- Reads the key of an entry and the colon after it, up to the value. -/
def readKey (cs : List Char) : Option (Text × List Char) :=
  match cs with
  | '"' :: rest =>
    match readText rest with
    | some (key, rest) =>
      match skipSpace rest with
      | ':' :: rest => some (key, skipSpace rest)
      | _ => none
    | none => none
  | _ => none

mutual

/-- Reads the value that a text starts with, and gives what follows it. At most two steps are taken
before a character is passed, so a budget beyond twice the length of the text is never used up. -/
def readValue : Nat → List Char → Option (Value × List Char)
  | 0, _ => none
  | budget + 1, cs =>
    match cs with
    | '"' :: rest => (readText rest).map fun (s, rest) => (.text s, rest)
    | '[' :: rest =>
      match skipSpace rest with
      | ']' :: rest => some (.list [], rest)
      | rest => (readItems budget rest).map fun (items, rest) => (.list items, rest)
    | '\x7b' :: rest =>
      match skipSpace rest with
      | '\x7d' :: rest => some (.record false [], rest)
      | rest =>
        (readEntries budget [] rest).map fun (entries, rest) => (.record false entries, rest)
    | _ =>
      match readName cs with
      | some result => some result
      | none => readNumber cs

/-- Reads items up to the closing bracket. -/
def readItems : Nat → List Char → Option (List Value × List Char)
  | 0, _ => none
  | budget + 1, cs =>
    match readValue budget cs with
    | none => none
    | some (v, rest) =>
      match skipSpace rest with
      | ']' :: rest => some ([v], rest)
      | ',' :: rest =>
        (readItems budget (skipSpace rest)).map fun (items, rest) => (v :: items, rest)
      | _ => none

/-- Reads entries up to the closing brace, after those that were read before. -/
def readEntries : Nat → Record → List Char → Option (Record × List Char)
  | 0, _, _ => none
  | budget + 1, before, cs =>
    match readKey cs with
    | none => none
    | some (key, rest) =>
      match readValue budget rest with
      | none => none
      | some (v, rest) =>
        let entries := Record.set before key v
        match skipSpace rest with
        | '\x7d' :: rest => some (entries, rest)
        | ',' :: rest => readEntries budget entries (skipSpace rest)
        | _ => none

end

/-- Reads a document. -/
def read? (cs : List Char) : Option Value :=
  match readValue (2 * cs.length + 1) (skipSpace cs) with
  | some (v, rest) => if (skipSpace rest).isEmpty then some v else none
  | none => none

end RecordSchema.Json
