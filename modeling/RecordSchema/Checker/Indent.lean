import RecordSchema.Issue
import RecordSchema.Number.Notation
import RecordSchema.Text.Blank
import RecordSchema.Text.Integer
import RecordSchema.Value.Basic

/-!
# Indentation

The indentation of a report is a natural number, or nothing for a report on one line. It is read
from whatever stands for an integer without loss: an integer, a boolean, a whole number, a numeral.
`Lenient` names what the rest of the program relies on of that.
-/

namespace RecordSchema.Checker.Indent

/-- The numeral without the zeros in front of it, `last` being the one just passed: the zero before
a point or at the end stays. Underscores between the zeros go with them. -/
def afterZeros (last : Char) : List Char → Option (List Char)
  | [] => some [last]
  | c :: rest =>
    if c = '0' ∨ c = '_' then afterZeros c rest
    else if '1' ≤ c ∧ c ≤ '9' then some (c :: rest)
    else if c = '.' then some (last :: c :: rest)
    else none

/-- A numeral without leading zeros; it must start with a digit or a minus sign. -/
def dropLeadingZeros (cs : List Char) : Option (List Char) :=
  match cs with
  | '0' :: rest => afterZeros '0' rest
  | c :: _ => if c.isDigit ∨ c = '-' then some cs else none
  | [] => none

/-- A numeral without its point when only zeros follow it. -/
def dropZeroFraction (cs : List Char) : List Char :=
  match cs.dropWhile (· ≠ '.') with
  | _ :: zeros => if zeros.all (· == '0') then cs.takeWhile (· ≠ '.') else cs
  | [] => cs

/-- Whether two underscores stand side by side. -/
def hasDoubleUnderscore : List Char → Bool
  | '_' :: '_' :: _ => true
  | _ :: rest => hasDoubleUnderscore rest
  | [] => false

/-- A numeral without its underscores when each of them stands inside and alone. -/
def dropUnderscores (cs : List Char) : List Char :=
  if cs.head? = some '_' ∨ cs.getLast? = some '_' ∨ hasDoubleUnderscore cs then cs
  else cs.filter (· ≠ '_')

/-- The integer of ASCII digits with an optional minus sign and no leading zero. -/
def plainInteger? (cs : List Char) : Option Int :=
  let (negative, digits) :=
    match cs with
    | '-' :: rest => (true, rest)
    | _ => (false, cs)
  if digits.isEmpty ∨ !digits.all Char.isDigit ∨ (digits.head? = some '0' ∧ digits.length ≠ 1) then
    none
  else some (Text.signedDigits negative (digits.map fun c => c.toNat - '0'.toNat))

/-- Removes a plus sign, which no minus sign may follow. -/
def dropPlus : List Char → Option (List Char)
  | '+' :: '-' :: _ => none
  | '+' :: rest => some rest
  | rest => some rest

/-- The numeral of a text without everything that does not change its value. -/
def cleaned? (cs : List Char) : Option (List Char) := do
  let cs ← dropPlus (Text.trimBy (Text.isWhiteSpace ·) cs)
  let cs ← dropLeadingZeros cs
  return dropUnderscores (dropZeroFraction cs)

/-- The integer that a text stands for. -/
def ofText (cs : List Char) : Except IssueKind Int :=
  match cleaned? cs with
  | none => .error .unreadableInteger
  | some cs =>
    if Text.digitLimit < cs.length then .error .integerTooLong
    else
      match plainInteger? cs with
      | some n => .ok n
      | none => .error .unreadableInteger

/-- The integer that a binary64 number is, if it has less than 64 bits. -/
def ofDouble (x : Double) : Except IssueKind Int :=
  match x.truncate? with
  | none => .error .notFinite
  | some n =>
    if !x.isWhole then .error .fractionalInteger
    else if twoPow 63 ≤ n.natAbs then .error .integerTooLong
    else .ok n

/-- The integer that a value stands for. -/
def integerOf : Value → Except IssueKind Int
  | .int n => .ok n
  | .bool b => .ok (if b then 1 else 0)
  | .float x => ofDouble x
  | .text s =>
    match s.string? with
    | some s => ofText s.toList
    | none => .error .notUnicode
  | _ => .error .notInteger

/-- What is relied on of reading an integer where values are taken leniently: an integer and a boolean
are taken as they count, a binary64 number only as the integer that it is, a numeral in decimal as its
integer, and nothing but these and other texts is taken. -/
structure Lenient (read : Value → Except IssueKind Int) : Prop where
  int : ∀ n, read (.int n) = .ok n
  bool : ∀ b, read (.bool b) = .ok (if b then 1 else 0)
  float : ∀ x n, read (.float x) = .ok n → x.isWhole = true ∧ x.truncate? = some n
  numeral : ∀ n, (Decimal.writeInt n).length ≤ Text.digitLimit →
    read (.text (Decimal.writeInt n)) = .ok n
  taken : ∀ v n, read v = .ok n → (∃ x, v.number? = some x) ∨ ∃ s, v = .text s

/-- The indentation that a value stands for. -/
def ofValue (v : Value) : Except IssueKind (Option Nat) :=
  match v with
  | .null => .ok none
  | _ =>
    match integerOf v with
    | .ok n => if n < 0 then .error .tooSmall else .ok (some n.toNat)
    | .error kind => .error kind

/-- An indentation as a value. -/
def toValue (indent? : Option Nat) : Value :=
  match indent? with
  | some n => .int n
  | none => .null

end RecordSchema.Checker.Indent
