/-!
# What a double denotes

A double is decoded into its sign and the exact number `mantissa * 2 ^ exponent`.  Conversions to
integers and the remainder are computed on that exact number, so they involve no rounding of their
own.
-/

namespace DotScript

/-- The number a double stands for. -/
inductive Double
  /-- Not a number. -/
  | nan
  /-- An infinity of either sign. -/
  | infinite (negative : Bool)
  /-- The number `± mantissa * 2 ^ exponent`; zeros keep their sign. -/
  | finite (negative : Bool) (mantissa : Nat) (exponent : Int)
deriving DecidableEq, Repr

/-- How a number between two integers becomes an integer. -/
inductive Rounding
  /-- The integer towards zero. -/
  | towardZero
  /-- The integer below. -/
  | down
  /-- The integer above. -/
  | up
  /-- The nearest integer, a half going away from zero. -/
  | nearest
deriving DecidableEq, Repr

namespace Double

/-- Decodes the 64 bits of a double. -/
def ofBits (bits : Nat) : Double :=
  let negative := bits / Nat.pow 2 63 % 2 == 1
  let biased : Nat := bits / Nat.pow 2 52 % Nat.pow 2 11
  let fraction : Nat := bits % Nat.pow 2 52
  if biased == 2047 then
    if fraction == 0 then .infinite negative else .nan
  else if biased == 0 then
    .finite negative fraction (-1074)
  else
    .finite negative (Nat.pow 2 52 + fraction) ((biased : Int) - 1075)

/-- The number a double stands for. -/
def ofFloat (x : Float) : Double :=
  ofBits x.toBits.toNat

/-- The bits of a finite number whose mantissa has at most 53 digits and whose exponent is at least
`-1074`: the mantissa is shifted up until it is normal or the exponent is least. -/
def finiteBits (mantissa : Nat) (exponent : Int) : Nat :=
  let shift := min (52 - mantissa.log2) (exponent + 1074).toNat
  let mantissa := mantissa * Nat.pow 2 shift
  let exponent := exponent - shift
  if mantissa < Nat.pow 2 52 then mantissa
  else (exponent + 1075).toNat * Nat.pow 2 52 + (mantissa - Nat.pow 2 52)

/-- The double for a number that doubles can represent. -/
def toFloat : Double → Float
  | .nan => 0.0 / 0.0
  | .infinite negative => if negative then -1.0 / 0.0 else 1.0 / 0.0
  | .finite negative mantissa exponent =>
    let sign := if negative then Nat.pow 2 63 else 0
    Float.ofBits (UInt64.ofNat (sign + finiteBits mantissa exponent))

/-- The magnitude `mantissa / 2 ^ places` rounded to a natural number. -/
def roundMagnitude (rounding : Rounding) (negative : Bool) (mantissa places : Nat) : Nat :=
  let whole := mantissa / Nat.pow 2 places
  let exact := mantissa % Nat.pow 2 places == 0
  match rounding with
  | .towardZero => whole
  | .down => if negative && !exact then whole + 1 else whole
  | .up => if !negative && !exact then whole + 1 else whole
  | .nearest => (2 * mantissa + Nat.pow 2 places) / Nat.pow 2 (places + 1)

/-- The integer next to a finite number; there is none for the others. -/
def round? (rounding : Rounding) : Double → Option Int
  | .finite negative mantissa exponent =>
    let magnitude : Nat :=
      if exponent < 0 then roundMagnitude rounding negative mantissa (-exponent).toNat
      else mantissa * Nat.pow 2 exponent.toNat
    some (if negative then -(magnitude : Int) else magnitude)
  | _ => none

/-- The exact remainder of a division whose quotient is rounded towards zero.  It has the sign of
the dividend. -/
def remainder : Double → Double → Double
  | .finite negative m p, .finite _ n q =>
    if n == 0 then .nan
    else
      let least := min p q
      let dividend := m * Nat.pow 2 (p - least).toNat
      let divisor := n * Nat.pow 2 (q - least).toNat
      .finite negative (dividend % divisor) least
  | .finite negative m p, .infinite _ => .finite negative m p
  | _, _ => .nan

end Double

/-- The order of two doubles: none if one of them is not a number; both zeros are equal. -/
def floatOrder? (x y : Float) : Option Ordering :=
  if x < y then some .lt else if x == y then some .eq else if y < x then some .gt else none

/-- The integer next to a double. -/
def roundFloat? (rounding : Rounding) (x : Float) : Option Int :=
  (Double.ofFloat x).round? rounding

/-- The exact remainder of two doubles, with the sign of the dividend. -/
def floatRemainder (x y : Float) : Float :=
  ((Double.ofFloat x).remainder (Double.ofFloat y)).toFloat

end DotScript
