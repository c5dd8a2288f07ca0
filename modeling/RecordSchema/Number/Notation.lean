import RecordSchema.Number.Shortest

/-!
# Writing numbers

How integers and binary64 numbers are written: integers in decimal, other numbers by their shortest
digits, positional for exponents from -4 to 15 and with an exponent of at least two digits
otherwise.
-/

namespace RecordSchema

/-- The decimal text of a natural number. -/
def Decimal.writeNat (n : Nat) : String :=
  String.ofList (Decimal.digitsOf n)

/-- The decimal text of an integer, with a sign when it is negative. -/
def Decimal.writeInt (n : Int) : String :=
  (if n < 0 then "-" else "") ++ Decimal.writeNat n.natAbs

namespace Double

/-- The choices of a written form for numbers. -/
structure Layout where
  /-- Leading exponents from `least` to `greatest` are written positionally. -/
  least : Int
  greatest : Int
  /-- The fewest digits of a written exponent. -/
  exponentWidth : Nat
  notANumber : String
  infinity : String

/-- The written form of values in messages: `2.5`, `1e-05`, `1e+16`, `nan`, `inf`. -/
def messageLayout : Layout :=
  ⟨-4, 15, 2, "nan", "inf"⟩

/-- The written form of values in documents, which differs only in its names. -/
def documentLayout : Layout :=
  ⟨-4, 15, 2, "NaN", "Infinity"⟩

/-- Digits with zeros in front, up to a width. -/
def padded (width : Nat) (digits : List Char) : List Char :=
  List.replicate (width - digits.length) '0' ++ digits

/-- The positional form of digits whose leading one has the given exponent: always with a point
and a digit on both sides of it. -/
def positional (digits : List Char) (leading : Int) : List Char :=
  if leading < 0 then
    ['0', '.'] ++ List.replicate ((-leading).toNat - 1) '0' ++ digits
  else
    let whole := leading.toNat + 1
    let front := digits.take whole
    let back := digits.drop whole
    front ++ List.replicate (whole - digits.length) '0' ++ ['.'] ++
      (if back.isEmpty then ['0'] else back)

/-- The form with an exponent: one digit, a point only when more follow, and a signed exponent. -/
def scientific (exponentWidth : Nat) (digits : List Char) (leading : Int) : List Char :=
  let fraction :=
    match digits with
    | d :: [] => [d]
    | d :: rest => d :: '.' :: rest
    | [] => []
  let sign := if leading < 0 then '-' else '+'
  fraction ++ ['e', sign] ++ padded exponentWidth (Decimal.digitsOf leading.natAbs)

/-- Trailing zeros carry no information about the digits. -/
def dropTrailingZeros (digits : List Char) : List Char :=
  (digits.reverse.dropWhile (· == '0')).reverse

/-- The written form of a positive finite number. -/
def writeMagnitude (layout : Layout) (exponent : Fin 2047) (fraction : Fin fractionCount) :
    List Char :=
  let (n, power) := shortest exponent fraction
  let digits := Decimal.digitsOf n
  let leading := power + digits.length - 1
  let digits := dropTrailingZeros digits
  if layout.least ≤ leading ∧ leading ≤ layout.greatest then positional digits leading
  else scientific layout.exponentWidth digits leading

/-- The text of a number in a given layout. -/
def write (layout : Layout) : Double → String
  | nan _ => layout.notANumber
  | infinite negative => (if negative then "-" else "") ++ layout.infinity
  | finite negative exponent fraction =>
    (if negative then "-" else "") ++
      (if magnitude exponent fraction = 0 then "0.0"
       else String.ofList (writeMagnitude layout exponent fraction))

end Double

end RecordSchema
