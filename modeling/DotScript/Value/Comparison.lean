import DotScript.Number.Double
import DotScript.Value.Basic

/-!
# Comparing values

Values as numbers, which of them are equal, and which of them are ordered.
-/

namespace DotScript

/-! ## Values as numbers

Integers, doubles and truth values take part in arithmetic.  Two integers are compared exactly; as
soon as a double is involved, both sides are compared as doubles. -/

/-- A number. -/
inductive Number
  | int (value : Integer)
  | float (value : Float)

namespace Number

/-- The nearest double. -/
def toFloat : Number → Float
  | .int value => value.toFloat
  | .float value => value

/-- Whether a number is zero. -/
def isZero : Number → Bool
  | .int value => value.isZero
  | .float value => value == 0.0

/-- The order of two numbers, if they are ordered. -/
def compare? : Number → Number → Option Ordering
  | .int a, .int b => some (a.order b)
  | a, b => floatOrder? a.toFloat b.toFloat

/-- A number as a value. -/
def toValue : Number → Value
  | .int value => .int value
  | .float value => .float value

end Number

/-- A value as a number; truth values count as one and zero. -/
def Value.number? : Value → Option Number
  | .bool value => some (.int (if value then 1 else 0))
  | .int value => some (.int value)
  | .float value => some (.float value)
  | _ => Option.none

/-! ## Equality of values

Numbers are equal if they compare as equal, whatever their kinds.  Lists are equal item by item, and
sets if they have the same number of items and each item of the first is in the second.  Functions
are equal if they come from the same declarations.  Values of other different kinds are not equal. -/

namespace Value

/-- Equality of values that are not both lists, sets, strings, functions or none. -/
def numericEq (left right : Value) : Bool :=
  match left.number?, right.number? with
  | some a, some b => a.compare? b == some .eq
  | _, _ => false

mutual

/-- Whether two values are equal. -/
def looseEq : Value → Value → Bool
  | .none, .none => true
  | .string a, .string b => a == b
  | .list a, .list b => looseEqItems a b
  | .set a, .set b => a.length == b.length && includedIn a b
  | .function a, .function b => a.sameDeclarations b
  | a, b => numericEq a b

/-- Whether two lists have equal items at equal places. -/
def looseEqItems : List Value → List Value → Bool
  | [], [] => true
  | a :: as, b :: bs => looseEq a b && looseEqItems as bs
  | _, _ => false

/-- Whether each item of a list equals some item of another one. -/
def includedIn : List Value → List Value → Bool
  | [], _ => true
  | a :: as, bs => bs.any (fun b => looseEq a b) && includedIn as bs

end

/-- Whether two values are equal and of the same kind. -/
def identical (left right : Value) : Bool :=
  left.kind == right.kind && looseEq left right

/-- Whether a value equals one of the items. -/
def memberOf (value : Value) (items : List Value) : Bool :=
  items.any (·.looseEq value)

/-- The items without those that equal an earlier one. -/
def distinct (items : List Value) : List Value :=
  items.foldl (fun kept item => if memberOf item kept then kept else kept ++ [item]) []

/-- The set of some items. -/
def ofSet (items : List Value) : Value :=
  .set (distinct items)

/-! ## Order of values

Numbers are ordered by size, strings by their characters, and lists by the first place at which they
differ.  No other values are ordered. -/

/-- The order of values that are not both lists or strings. -/
def numericOrder? (left right : Value) : Option Ordering :=
  match left.number?, right.number? with
  | some a, some b => a.compare? b
  | _, _ => Option.none

mutual

/-- The order of two values, if they are ordered. -/
def compare? : Value → Value → Option Ordering
  | .string a, .string b => some (compare a b)
  | .list a, .list b => compareItems? a b
  | a, b => numericOrder? a b

/-- The order of two lists: that of the first items that are not equal, else that of the lengths. -/
def compareItems? : List Value → List Value → Option Ordering
  | [], [] => some .eq
  | [], _ :: _ => some .lt
  | _ :: _, [] => some .gt
  | a :: as, b :: bs =>
    match compare? a b with
    | some .eq => compareItems? as bs
    | order => order

end

end Value

end DotScript
