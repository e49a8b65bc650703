/-!
# Integers as text

An integer is read from an optional sign, a digit, and then digits and underscores.  Integers have
no bound; some operations ask whether one fits into a machine word.
-/

namespace DotScript
namespace IntegerText

/-- Why a text is not an integer. -/
inductive Failure
  /-- Nothing follows the optional sign. -/
  | empty
  /-- A character is no digit, or an underscore comes first. -/
  | invalid
deriving DecidableEq, Repr

/-- What is reported for a text that is not an integer. -/
def Failure.message : Failure → String
  | .empty => "cannot parse integer from empty string"
  | .invalid => "invalid digit found in string"

/-- The value of a decimal digit. -/
def digit (c : Char) : Nat :=
  c.toNat - '0'.toNat

/-- Reads digits and underscores after a number whose digits so far denote `value`. -/
def digitsFrom (value : Nat) : List Char → Except Failure Nat
  | [] => .ok value
  | c :: rest =>
    if c.isDigit then digitsFrom (10 * value + digit c) rest
    else if c = '_' then digitsFrom value rest
    else .error .invalid

/-- Reads a number without a sign. -/
def readMagnitude : List Char → Except Failure Nat
  | [] => .error .empty
  | c :: rest => if c.isDigit then digitsFrom (digit c) rest else .error .invalid

/-- Reads an integer from characters. -/
def readChars : List Char → Except Failure Int
  | '-' :: rest => (readMagnitude rest).map fun n : Nat => -(n : Int)
  | '+' :: rest => (readMagnitude rest).map fun n : Nat => (n : Int)
  | chars => (readMagnitude chars).map fun n : Nat => (n : Int)

/-- Reads an integer. -/
def read (text : String) : Except Failure Int :=
  readChars text.toList

/-- Writes an integer in decimal, with a minus sign in front if it is negative. -/
def write : Int → String
  | .ofNat n => n.repr
  | .negSucc n => "-" ++ (n + 1).repr

end IntegerText

/-- Whether an integer fits into a signed word of 64 bits. -/
def fitsWord (n : Int) : Bool :=
  -(Nat.pow 2 63 : Int) ≤ n && n < (Nat.pow 2 63 : Int)

/-- A power of an integer, computed on the magnitude. -/
def integerPower (base : Int) (exponent : Nat) : Int :=
  let magnitude : Nat := Nat.pow base.natAbs exponent
  if base < 0 && exponent % 2 == 1 then -(magnitude : Int) else magnitude

end DotScript
