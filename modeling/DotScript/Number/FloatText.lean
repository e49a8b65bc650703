import DotScript.Number.Double

/-!
# Doubles as text

A double is written with at most 15 significant digits: the exact number is rounded to 15 digits, a
half going to the even neighbour, and zeros at the end of the fraction are dropped.  Numbers from
`10 ^ 15` on and below `10 ^ -4` are written with an exponent of at least two digits.

A double is read from an optional sign and either the name of an infinity or of not-a-number, in
any case, or digits with an optional point and an optional exponent.  The result is the nearest
double.  Exponents are read up to a limit far beyond those of doubles.
-/

namespace DotScript
namespace FloatText

/-- The number of significant digits that are written. -/
def precision : Nat := 15

/-- The nearest integer to `numerator / denominator`, a half going to the even neighbour. -/
def divideToEven (numerator denominator : Nat) : Nat :=
  let quotient := numerator / denominator
  let rest := numerator % denominator
  if 2 * rest > denominator || (2 * rest == denominator && quotient % 2 == 1) then quotient + 1
  else quotient

/-- The number of decimal digits of a natural number. -/
def digitCount (n : Nat) : Nat :=
  (Nat.toDigits 10 n).length

/-- A quotient of natural numbers times a power of ten, as numerator and denominator. -/
def scaleTen (numerator denominator : Nat) (exponent : Int) : Nat × Nat :=
  if exponent < 0 then (numerator, denominator * Nat.pow 10 (-exponent).toNat)
  else (numerator * Nat.pow 10 exponent.toNat, denominator)

/-- The exponent of the leading decimal digit of a positive quotient. -/
def leadingExponent (numerator denominator : Nat) : Int :=
  let guess : Int := (digitCount numerator : Int) - digitCount denominator
  let (n, d) := scaleTen numerator denominator (-guess)
  if n < d then guess - 1 else guess

/-- The significant digits of a positive quotient as one natural number, and the exponent of the
first of them. -/
def significant (numerator denominator : Nat) : Nat × Int :=
  let exponent := leadingExponent numerator denominator
  let (n, d) := scaleTen numerator denominator ((precision : Int) - 1 - exponent)
  let digits := divideToEven n d
  if digits < Nat.pow 10 precision then (digits, exponent) else (digits / 10, exponent + 1)

/-- Digits without the zeros at their end. -/
def dropZeros (digits : List Char) : List Char :=
  (digits.reverse.dropWhile (· == '0')).reverse

/-- Whole digits and, unless nothing remains of them, a point and the fraction digits without the
zeros at their end. -/
def withFraction (whole fraction : List Char) : List Char :=
  match dropZeros fraction with
  | [] => whole
  | fraction => whole ++ '.' :: fraction

/-- A natural number with at least two digits. -/
def twoDigits (n : Nat) : List Char :=
  if n < 10 then '0' :: Nat.toDigits 10 n else Nat.toDigits 10 n

/-- One digit, the fraction and the exponent. -/
def scientific (digits : List Char) (exponent : Int) : List Char :=
  withFraction (digits.take 1) (digits.drop 1) ++
    'e' :: (if exponent < 0 then '-' else '+') :: twoDigits exponent.natAbs

/-- All digits at their places. -/
def positional (digits : List Char) (exponent : Int) : List Char :=
  if exponent < 0 then withFraction ['0'] (List.replicate (exponent.natAbs - 1) '0' ++ digits)
  else withFraction (digits.take (exponent.toNat + 1)) (digits.drop (exponent.toNat + 1))

/-- The text of a positive quotient. -/
def writeQuotient (numerator denominator : Nat) : List Char :=
  let (digits, exponent) := significant numerator denominator
  if exponent < -4 || (precision : Int) ≤ exponent then
    scientific (Nat.toDigits 10 digits) exponent
  else
    positional (Nat.toDigits 10 digits) exponent

/-- The text of the number a double stands for. -/
def writeDouble : Double → String
  | .nan => "nan"
  | .infinite negative => if negative then "-inf" else "inf"
  | .finite negative mantissa exponent =>
    if mantissa == 0 then "0"
    else
      let digits :=
        if exponent < 0 then writeQuotient mantissa (Nat.pow 2 (-exponent).toNat)
        else writeQuotient (mantissa * Nat.pow 2 exponent.toNat) 1
      String.ofList (if negative then '-' :: digits else digits)

/-- Writes a double. -/
def write (x : Float) : String :=
  writeDouble (Double.ofFloat x)

/-- The natural number that decimal digits denote. -/
def digitsValue (digits : List Char) : Nat :=
  digits.foldl (fun value c => 10 * value + (c.toNat - '0'.toNat)) 0

/-- The double nearest to `digits * 10 ^ exponent`.  Exponents far outside the range of doubles are
answered without computing the power. -/
def ofDecimal (digits : Nat) (exponent : Int) : Float :=
  let leading := (digitCount digits : Int) + exponent
  if digits == 0 || leading < -400 then 0.0
  else if 400 < leading then 1.0 / 0.0
  else Float.ofScientific digits (exponent < 0) exponent.natAbs

/-- An exponent that has reached this value takes no more digits. -/
def exponentLimit : Nat := Nat.pow 2 16

/-- An exponent with one more digit, which is passed over if the exponent takes no more digits. -/
def addExponentDigit (exponent : Nat) (c : Char) : Nat :=
  if exponent < exponentLimit then 10 * exponent + (c.toNat - '0'.toNat) else exponent

/-- Reads what follows the mark of an exponent. -/
def readExponent : List Char → Option Int
  | '-' :: digits => (readExponentDigits digits).map fun n => -(n : Int)
  | '+' :: digits => (readExponentDigits digits).map fun n => (n : Int)
  | digits => (readExponentDigits digits).map fun n => (n : Int)
where
  /-- Reads the digits of an exponent, of which there is at least one. -/
  readExponentDigits (digits : List Char) : Option Nat :=
    if digits.isEmpty || !digits.all Char.isDigit then none
    else some (digits.foldl addExponentDigit 0)

/-- Reads the exponent that may end a number. -/
def readScale : List Char → Option Int
  | [] => some 0
  | c :: rest => if c == 'e' || c == 'E' then readExponent rest else none

/-- Splits off the fraction digits after an optional point. -/
def splitFraction : List Char → List Char × List Char
  | '.' :: rest => (rest.takeWhile Char.isDigit, rest.dropWhile Char.isDigit)
  | rest => ([], rest)

/-- Reads digits with an optional point and an optional exponent. -/
def readDigits (text : List Char) : Option Float :=
  let whole := text.takeWhile Char.isDigit
  let (fraction, rest) := splitFraction (text.dropWhile Char.isDigit)
  if whole.isEmpty && fraction.isEmpty then none
  else
    (readScale rest).map fun exponent =>
      ofDecimal (digitsValue (whole ++ fraction)) (exponent - fraction.length)

/-- Reads a double without a sign. -/
def readMagnitude (text : List Char) : Option Float :=
  let name := String.ofList (text.map Char.toLower)
  if name == "inf" || name == "infinity" then some (1.0 / 0.0)
  else if name == "nan" then some (0.0 / 0.0)
  else readDigits text

/-- Reads a double from characters. -/
def readChars : List Char → Option Float
  | '-' :: rest => (readMagnitude rest).map fun x => -x
  | '+' :: rest => readMagnitude rest
  | text => readMagnitude text

/-- Reads a double. -/
def read (text : String) : Option Float :=
  readChars text.toList

end FloatText
end DotScript
