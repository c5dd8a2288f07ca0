import RecordSchema.Number.Decimal
import RecordSchema.Text.Blank
import RecordSchema.Text.Digit

/-!
# Integers in text

Two ways to read an integer: the integer that a text starts with, and a text that is an integer as a
whole, with underscores between digits allowed. Both take the decimal digits of every script, and no
integer of more than `digitLimit` digits is ever read.
-/

namespace RecordSchema.Text

/-- The greatest number of digits of an integer that is read. -/
def digitLimit : Nat := 4300

/-- The values of the digits that a text starts with. -/
def leadingDigits : List Point → List Nat
  | [] => []
  | c :: rest =>
    match digitValue? c with
    | some d => d :: leadingDigits rest
    | none => []

/-- A sign and what follows it. -/
def splitSign : List Point → Bool × List Point
  | '-' :: rest => (true, rest)
  | '+' :: rest => (false, rest)
  | rest => (false, rest)

/-- The number of a sign and digits. -/
def signedDigits (negative : Bool) (digits : List Nat) : Int :=
  if negative then -(Decimal.ofDigits digits : Int) else Decimal.ofDigits digits

/-- What a text starts with, blanks aside. -/
inductive LeadingInteger where
  | missing
  | integer (n : Int)
  /-- More digits than are read; how many. -/
  | tooLong (digits : Nat)
  deriving DecidableEq, Repr

/-- The integer that a text starts with: blanks, an optional sign, and every digit that follows. -/
def leadingInteger (cs : List Point) : LeadingInteger :=
  let (negative, rest) := splitSign (cs.dropWhile isBlank)
  match leadingDigits rest with
  | [] => .missing
  | digits =>
    if digitLimit < digits.length then .tooLong digits.length
    else .integer (signedDigits negative digits)

/-- The digits of a whole numeral, each underscore standing between two digits. -/
def groupedDigits? : List Point → Option (List Nat)
  | [] => none
  | [c] => (digitValue? c).map ([·])
  | c :: '_' :: rest =>
    match digitValue? c, groupedDigits? rest with
    | some d, some ds => some (d :: ds)
    | _, _ => none
  | c :: rest =>
    match digitValue? c, groupedDigits? rest with
    | some d, some ds => some (d :: ds)
    | _, _ => none

/-- The integer that a text is as a whole, white space around it aside. -/
def wholeInteger? (cs : List Point) : Option Int :=
  let (negative, rest) := splitSign (trimBy isWhiteSpace cs)
  match groupedDigits? rest with
  | some digits =>
    if digitLimit < digits.length then none else some (signedDigits negative digits)
  | none => none

end RecordSchema.Text
