import DotScript.Number.IntegerText

/-!
# Integers in words

An integer is kept in a machine word as long as it fits into one, so every number has one form only.
Operations on words are done on words and give way to numbers without a bound where they overflow.
-/

namespace DotScript

/-- An integer. -/
inductive Integer
  /-- An integer in a machine word. -/
  | word (value : Int64)
  /-- An integer that no machine word holds. -/
  | wide (value : Int) (beyond : fitsWord value = false)
deriving DecidableEq

namespace Integer

/-- The number that an integer stands for. -/
def toInt : Integer → Int
  | .word value => value.toInt
  | .wide value _ => value

/-- The integer for a number: a word if the number fits into one. -/
def ofInt (value : Int) : Integer :=
  if fits : fitsWord value then .word (Int64.ofInt value)
  else .wide value (Bool.eq_false_iff.2 fits)

instance (value : Nat) : OfNat Integer value := ⟨ofInt value⟩

instance : Inhabited Integer := ⟨0⟩

/-- The word of an integer that is kept in one. -/
def word? : Integer → Option Int64
  | .word value => some value
  | .wide _ _ => none

/-- Whether an integer is zero. -/
def isZero : Integer → Bool
  | .word value => value == 0
  | .wide value _ => value == 0

/-- Whether an integer is below zero. -/
def isNegative : Integer → Bool
  | .word value => value < 0
  | .wide value _ => value < 0

/-- A result on words, unless the exact number overflows. -/
def checked (exact : Int) (result : Int64) : Option Int64 :=
  if fitsWord exact then some result else none

/-- The sum of two words, unless it overflows. -/
def addWords (a b : Int64) : Option Int64 :=
  checked (a.toInt + b.toInt) (a + b)

/-- The difference of two words, unless it overflows. -/
def subWords (a b : Int64) : Option Int64 :=
  checked (a.toInt - b.toInt) (a - b)

/-- The product of two words, unless it overflows. -/
def mulWords (a b : Int64) : Option Int64 :=
  checked (a.toInt * b.toInt) (a * b)

/-- The product of a word and a power of another one, by squaring, unless a product on the way
overflows. -/
def mulPower (product base : Int64) (exponent : Nat) : Option Int64 :=
  if exponent = 0 then some product
  else if exponent = 1 then mulWords product base
  else
    (if exponent % 2 = 1 then mulWords product base else some product).bind fun product =>
      (mulWords base base).bind fun square => mulPower product square (exponent / 2)
termination_by exponent

/-- Does an operation on words, or else on the numbers. -/
def compute (onWords : Int64 → Int64 → Option Int64) (exact : Int → Int → Int)
    (left right : Integer) : Integer :=
  match left, right with
  | .word a, .word b =>
    match onWords a b with
    | some result => .word result
    | none => ofInt (exact a.toInt b.toInt)
  | left, right => ofInt (exact left.toInt right.toInt)

/-- The sum. -/
def add : Integer → Integer → Integer :=
  compute addWords (· + ·)

/-- The difference. -/
def sub : Integer → Integer → Integer :=
  compute subWords (· - ·)

/-- The product. -/
def mul : Integer → Integer → Integer :=
  compute mulWords (· * ·)

/-- The quotient, rounded towards zero; the divisor must not be zero. -/
def quotient : Integer → Integer → Integer :=
  compute (fun a b => checked (a.toInt.tdiv b.toInt) (a / b)) Int.tdiv

/-- What the division leaves, with the sign of the dividend; the divisor must not be zero. -/
def remainder : Integer → Integer → Integer :=
  compute (fun a b => checked (a.toInt.tdiv b.toInt) (a % b)) Int.tmod

/-- The number with the other sign.  No word holds that of the least word. -/
def neg : Integer → Integer
  | .word value =>
    if fits : fitsWord (-value.toInt) then .word (-value)
    else .wide (-value.toInt) (Bool.eq_false_iff.2 fits)
  | .wide value _ => ofInt (-value)

instance : Neg Integer := ⟨neg⟩

/-- The magnitude. -/
def abs (integer : Integer) : Integer :=
  if integer.isNegative then integer.neg else integer

/-- A power. -/
def pow (base : Integer) (exponent : Nat) : Integer :=
  match base.word?.bind fun word => mulPower 1 word exponent with
  | some result => .word result
  | none => ofInt (integerPower base.toInt exponent)

/-- The order of two integers. -/
def order : Integer → Integer → Ordering
  | .word a, .word b => compare a b
  | left, right => compare left.toInt right.toInt

/-- One, on the way up or down. -/
def unit (up : Bool) : Integer :=
  if up then 1 else -1

/-- Whether an integer is not past the last one on the way up or down. -/
def notPast (integer : Integer) (up : Bool) (last : Integer) : Bool :=
  (if up then integer.order last else last.order integer).isLE

/-- The nearest double. -/
def toFloat (integer : Integer) : Float :=
  Float.ofInt integer.toInt

/-- A word with one more digit, which goes away from zero on the given side. -/
def appendDigit (negative : Bool) (value : Int64) (c : Char) : Option Int64 := do
  let tens ← mulWords value 10
  let unit := Int64.ofNat (IntegerText.digit c)
  if negative then subWords tens unit else addWords tens unit

/-- Reads digits into a word after those that denote `value`, which is on the given side of zero.
Fails at any other character and where the number overflows. -/
def wordFrom (negative : Bool) (value : Int64) : List Char → Option Int64
  | [] => some value
  | c :: rest =>
    if c.isDigit then (appendDigit negative value c).bind fun next => wordFrom negative next rest
    else none

/-- Reads a word from characters, of which at least one has to be a digit. -/
def readWord : List Char → Option Int64
  | '-' :: c :: rest => wordFrom true 0 (c :: rest)
  | '+' :: c :: rest => wordFrom false 0 (c :: rest)
  | c :: rest => wordFrom false 0 (c :: rest)
  | [] => none

/-- Reads an integer: a word if that can be done, and a number without a bound otherwise. -/
def read (text : String) : Except IntegerText.Failure Integer :=
  match readWord text.toList with
  | some value => .ok (.word value)
  | none => (IntegerText.read text).map ofInt

/-- Writes an integer in decimal. -/
def write (integer : Integer) : String :=
  IntegerText.write integer.toInt

theorem fitsWord_toInt (value : Int64) : fitsWord value.toInt = true := by
  have low := value.le_toInt
  have high := value.toInt_lt
  simp only [fitsWord, Bool.and_eq_true, decide_eq_true_eq]
  exact ⟨low, high⟩

theorem fitsWord_iff {value : Int} :
    fitsWord value = true ↔ -9223372036854775808 ≤ value ∧ value < 9223372036854775808 := by
  simp only [fitsWord, Bool.and_eq_true, decide_eq_true_eq]
  rfl

/-- A number is found again in the integer for it. -/
@[simp]
theorem toInt_ofInt (value : Int) : (ofInt value).toInt = value := by
  unfold ofInt
  split
  next fits =>
    obtain ⟨low, high⟩ := fitsWord_iff.1 fits
    exact Int64.toInt_ofInt_of_le low high
  next => rfl

/-- An integer is the one for its number. -/
@[simp]
theorem ofInt_toInt (integer : Integer) : ofInt integer.toInt = integer := by
  cases integer with
  | word value => simp [ofInt, toInt, fitsWord_toInt]
  | wide value beyond => simp [ofInt, toInt, beyond]

/-! ## Exactness -/

/-- A number that fits into a word is not wrapped around. -/
theorem bmod_of_fitsWord {value : Int} (fits : fitsWord value = true) :
    value.bmod (Nat.pow 2 64) = value := by
  obtain ⟨low, high⟩ := fitsWord_iff.1 fits
  change value.bmod 18446744073709551616 = value
  exact Int.bmod_eq_of_le (by omega) (by omega)

theorem eq_of_checked {exact : Int} {word result : Int64} (done : checked exact word = some result) :
    result = word ∧ fitsWord exact = true := by
  unfold checked at done
  split at done
  next fits => exact ⟨(Option.some.inj done).symm, fits⟩
  next => cases done

/-- A result on words that does not overflow is the exact one. -/
theorem toInt_of_checked {exact : Int} {word result : Int64}
    (wraps : word.toInt = exact.bmod (Nat.pow 2 64)) (done : checked exact word = some result) :
    result.toInt = exact := by
  obtain ⟨rfl, fits⟩ := eq_of_checked done
  rw [wraps, bmod_of_fitsWord fits]

theorem toInt_of_addWords {a b result : Int64} (done : addWords a b = some result) :
    result.toInt = a.toInt + b.toInt :=
  toInt_of_checked (Int64.toInt_add a b) done

theorem toInt_of_subWords {a b result : Int64} (done : subWords a b = some result) :
    result.toInt = a.toInt - b.toInt :=
  toInt_of_checked (Int64.toInt_sub a b) done

theorem toInt_of_mulWords {a b result : Int64} (done : mulWords a b = some result) :
    result.toInt = a.toInt * b.toInt :=
  toInt_of_checked (Int64.toInt_mul a b) done

/-- An operation is exact if it is exact on the words that it does not give up on. -/
theorem toInt_compute {onWords : Int64 → Int64 → Option Int64} {exact : Int → Int → Int}
    (agree : ∀ {a b result}, onWords a b = some result → result.toInt = exact a.toInt b.toInt)
    (left right : Integer) :
    (compute onWords exact left right).toInt = exact left.toInt right.toInt := by
  unfold compute
  split
  next a b =>
    split
    next done => exact agree done
    next => exact toInt_ofInt _
  next => exact toInt_ofInt _

@[simp]
theorem toInt_add (left right : Integer) : (left.add right).toInt = left.toInt + right.toInt :=
  toInt_compute toInt_of_addWords left right

@[simp]
theorem toInt_sub (left right : Integer) : (left.sub right).toInt = left.toInt - right.toInt :=
  toInt_compute toInt_of_subWords left right

@[simp]
theorem toInt_mul (left right : Integer) : (left.mul right).toInt = left.toInt * right.toInt :=
  toInt_compute toInt_of_mulWords left right

@[simp]
theorem toInt_quotient (left right : Integer) :
    (left.quotient right).toInt = left.toInt.tdiv right.toInt :=
  toInt_compute (fun {a b} => toInt_of_checked (Int64.toInt_div a b)) left right

/-- The rest on words never overflows, but it is given up on together with the quotient. -/
@[simp]
theorem toInt_remainder (left right : Integer) :
    (left.remainder right).toInt = left.toInt.tmod right.toInt := by
  refine toInt_compute (fun {a b result} done => ?_) left right
  obtain ⟨rfl, -⟩ := eq_of_checked done
  exact Int64.toInt_mod a b

theorem isZero_iff (integer : Integer) : integer.isZero = true ↔ integer.toInt = 0 := by
  cases integer with
  | word value => simp [isZero, toInt, ← Int64.toInt_inj]
  | wide value beyond => simp [isZero, toInt]

theorem isNegative_iff (integer : Integer) : integer.isNegative = true ↔ integer.toInt < 0 := by
  cases integer with
  | word value => simp [isNegative, toInt, Int64.lt_iff_toInt_lt]
  | wide value beyond => simp [isNegative, toInt]

/-- A change of sign is exact. -/
@[simp]
theorem toInt_neg (integer : Integer) : integer.neg.toInt = -integer.toInt := by
  cases integer with
  | wide value beyond => exact toInt_ofInt (-value)
  | word value =>
    rw [neg]
    split
    next fits => exact (Int64.toInt_neg value).trans (bmod_of_fitsWord fits)
    next => rfl

@[simp]
theorem toInt_abs (integer : Integer) : integer.abs.toInt = integer.toInt.natAbs := by
  unfold abs
  split
  next negative =>
    rw [isNegative_iff] at negative
    rw [toInt_neg]
    omega
  next other =>
    rw [isNegative_iff] at other
    omega

/-- Integers are ordered as their numbers are. -/
theorem order_eq (left right : Integer) : left.order right = compare left.toInt right.toInt := by
  unfold order
  split
  next a b =>
    simp only [toInt, compare, compareOfLessAndEq, Int64.lt_iff_toInt_lt, Int64.toInt_inj]
  next => rfl

@[simp]
theorem toInt_unit (up : Bool) : (unit up).toInt = if up then 1 else -1 := by
  cases up with
  | true => exact toInt_ofInt 1
  | false => exact (toInt_neg 1).trans (congrArg (- ·) (toInt_ofInt 1))

theorem notPast_iff (integer : Integer) (up : Bool) (last : Integer) :
    integer.notPast up last = true ↔
      if up then integer.toInt ≤ last.toInt else last.toInt ≤ integer.toInt := by
  unfold notPast
  split <;> rw [order_eq, Int.isLE_compare]

end Integer
end DotScript
