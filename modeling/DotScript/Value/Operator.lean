import DotScript.Fault.Basic
import DotScript.Value.Comparison
import DotScript.Value.Text

/-!
# Operators on values

Sums also join strings and lists, and products also repeat them.  A quotient of integers is an
integer if the division leaves no rest, and a double otherwise; the rest of a division has the sign
of the dividend.
-/

namespace DotScript
namespace Value

/-- The fault of operands that an operator does not work on. -/
def unsupported (op : BinaryOp) (left right : Value) : Fault :=
  .mistyped (.operands op left.kind right.kind)

/-- Arithmetic on doubles. -/
def floatArithmetic (op : BinaryOp) (a b : Float) : Float :=
  match op with
  | .add => a + b
  | .sub => a - b
  | .mul => a * b
  | .div => a / b
  | .mod => floatRemainder a b
  | _ => a.pow b

/-- A quotient of integers: exact if it is an integer, else the nearest double. -/
def integerQuotient (a b : Integer) : Number :=
  if (a.remainder b).isZero then .int (a.quotient b) else .float (a.toFloat / b.toFloat)

/-- A power of integers: a double for a negative exponent, else exact. -/
def integerPow (a b : Integer) : Except Fault Number :=
  if b.isNegative then .ok (.float (a.toFloat.pow b.toFloat))
  else if b.toInt < Nat.pow 2 32 then .ok (.int (a.pow b.toInt.toNat))
  else .error (.running (.exponent b.toInt))

/-- Arithmetic on integers. -/
def integerArithmetic (op : BinaryOp) (a b : Integer) : Except Fault Number :=
  match op with
  | .add => .ok (.int (a.add b))
  | .sub => .ok (.int (a.sub b))
  | .mul => .ok (.int (a.mul b))
  | .div => .ok (integerQuotient a b)
  | .mod => .ok (.int (a.remainder b))
  | .pow => integerPow a b
  | op => .error (.running (.notArithmetic op))

/-- The fault of a zero on the right side of an operator, if it minds. -/
def zeroFault? : BinaryOp → Option ZeroFault
  | .div => some .division
  | .mod => some .modulo
  | _ => Option.none

/-- Arithmetic on numbers. -/
def numberArithmetic (op : BinaryOp) (a b : Number) : Except Fault Number :=
  match a, b with
  | .int a, .int b => integerArithmetic op a b
  | a, b => .ok (.float (floatArithmetic op a.toFloat b.toFloat))

/-- Arithmetic on values, which have to be numbers. -/
def arithmetic (op : BinaryOp) (left right : Value) : Except Fault Value :=
  match left.number?, right.number? with
  | some a, some b =>
    match zeroFault? op, b.isZero with
    | some fault, true => .error (.zeroDivision fault)
    | _, _ => (numberArithmetic op a b).map Number.toValue
  | _, _ => .error (unsupported op left right)

/-- The sum of two values. -/
def add : Value → Value → Except Fault Value
  | .string a, .string b => .ok (.string (a ++ b))
  | .string a, right =>
    if right.number?.isSome then .ok (.string (a ++ right.display))
    else .error (unsupported .add (.string a) right)
  | left, .string b =>
    if left.number?.isSome then .ok (.string (left.display ++ b))
    else .error (unsupported .add left (.string b))
  | .list a, .list b => .ok (.list (a ++ b))
  | left, right => arithmetic .add left right

/-- The items a number of times in a row. -/
def repeated {α : Type} (items : List α) (times : Nat) : List α :=
  if items.isEmpty then [] else (List.replicate times items).flatten

/-- How often a list or a string of some length is to be repeated.  Negative counts, counts beyond a
machine word and results that would be too long are refused, in this order. -/
def repetitions (left right : Value) (ofList : Bool) (length : Nat) (count : Integer) :
    Except Fault Nat :=
  if count.isNegative then .error (.mistyped (.negativeRepetition ofList))
  else if count.word?.isNone then .error (.running (.repetitionCount left.kind right.kind))
  else if maxRepetition < length * count.toInt.toNat then .error (.running (.repetitionLength ofList))
  else .ok count.toInt.toNat

/-- The product of two values. -/
def multiply : Value → Value → Except Fault Value
  | .string text, .int count =>
    (repetitions (.string text) (.int count) false text.utf8ByteSize count).map fun times =>
      ofChars (repeated text.toList times)
  | .int count, .string text =>
    (repetitions (.int count) (.string text) false text.utf8ByteSize count).map fun times =>
      ofChars (repeated text.toList times)
  | .list items, .int count =>
    (repetitions (.list items) (.int count) true items.length count).map fun times =>
      .list (repeated items times)
  | left, right => arithmetic .mul left right

/-- A comparison by order. -/
def ordered (op : BinaryOp) (holds : Ordering → Bool) (left right : Value) : Except Fault Value :=
  match left.compare? right with
  | some order => .ok (flag (holds order))
  | Option.none => .error (unsupported op left right)

/-- Applies a binary operator. -/
def binary (op : BinaryOp) (left right : Value) : Except Fault Value :=
  match op with
  | .add => add left right
  | .mul => multiply left right
  | .sub | .div | .mod | .pow => arithmetic op left right
  | .equal => .ok (flag (left.looseEq right))
  | .notEqual => .ok (flag (!left.looseEq right))
  | .identical => .ok (flag (left.identical right))
  | .notIdentical => .ok (flag (!left.identical right))
  | .less => ordered op Ordering.isLT left right
  | .lessEqual => ordered op Ordering.isLE left right
  | .greater => ordered op Ordering.isGT left right
  | .greaterEqual => ordered op Ordering.isGE left right
  | .and => .ok (flag (left.truthy && right.truthy))
  | .or => .ok (flag (left.truthy || right.truthy))

/-- Applies a unary operator. -/
def unary (op : UnaryOp) (operand : Value) : Except Fault Value :=
  match op with
  | .negate =>
    match operand.number? with
    | some (.int value) => .ok (.int value.neg)
    | some (.float value) => .ok (.float (-value))
    | Option.none => .error (.mistyped (.negated operand.kind))
  | .not => .ok (flag (!operand.truthy))

end Value
end DotScript
