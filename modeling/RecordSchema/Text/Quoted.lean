import RecordSchema.Text.Printable

/-!
# Quoted text

Text is quoted between single quotes, or between double ones when it holds a single quote and no
double quote. The quote itself and the backslash are escaped, and what is not printable is written
by its code point.
-/

namespace RecordSchema.Text

/-- One hexadecimal digit. -/
def hexDigit (n : Nat) : Char :=
  Nat.digitChar (n % 16)

/-- The last `width` hexadecimal digits of a number. -/
def hexDigits (n : Nat) : Nat → List Char
  | 0 => []
  | width + 1 => hexDigits (n / 16) width ++ [hexDigit n]

/-- The quote that suits a text. -/
def quoteFor (cs : List Point) : Char :=
  if cs.contains (.char '\'') && !cs.contains (.char '"') then '"' else '\''

/-- A code point by its number. -/
def escapeCode (n : Nat) : List Char :=
  if n < 0x100 then ['\\', 'x'] ++ hexDigits n 2
  else if n < 0x10000 then ['\\', 'u'] ++ hexDigits n 4
  else ['\\', 'U'] ++ hexDigits n 8

/-- The written form of one code point between quotes. Halves of pairs are not printable. -/
def quotePoint (quote : Char) : Point → List Char
  | .char c =>
    if c = quote ∨ c = '\\' then ['\\', c]
    else if c = '\n' then ['\\', 'n']
    else if c = '\r' then ['\\', 'r']
    else if c = '\t' then ['\\', 't']
    else if isPrintable c then [c]
    else escapeCode c.toNat
  | .half bits => escapeCode (Point.half bits).toNat

/-- The quoted form of a text. -/
def quote (cs : List Point) : List Char :=
  let q := quoteFor cs
  [q] ++ cs.flatMap (quotePoint q) ++ [q]

/-- The quoted form of a text. -/
def quoted (s : Text) : String :=
  String.ofList (quote s.toList)

end RecordSchema.Text
