import DotScript.Fault.Basic
import DotScript.Number.FloatText
import DotScript.Text.Pieces
import DotScript.Value.Comparison
import DotScript.Value.Text

/-!
# Arguments and conversions

What built-ins and methods ask of their arguments, and the conversions of values between kinds.
-/

namespace DotScript

/-! ## Arguments of a certain kind

Built-ins and methods ask for arguments of certain kinds and name themselves when they complain. -/

namespace Value

/-- The fault of an argument of the wrong kind. -/
def misfit (function wanted : String) (value : Value) : Fault :=
  .mistyped (.argument function wanted value.kind)

/-- A string. -/
def expectString (function : String) : Value → Except Fault String
  | .string text => .ok text
  | value => .error (misfit function "a string" value)

/-- A number. -/
def expectNumber (function : String) (value : Value) : Except Fault Number :=
  match value.number? with
  | some number => .ok number
  | Option.none => .error (misfit function "a number" value)

/-- The items of a list or a set. -/
def expectItems (function : String) : Value → Except Fault (List Value)
  | .list items | .set items => .ok items
  | value => .error (misfit function "a list" value)

/-- The items of a list or a set, or the characters of a string. -/
def expectElements (function : String) (value : Value) : Except Fault (List Value) :=
  match value.elements? with
  | some items => .ok items
  | Option.none => .error (misfit function "a list, set or string" value)

/-! ## Conversions between kinds -/

/-- A string without white space at its ends. -/
def trimmed (text : String) : String :=
  String.ofList (Text.trim text.toList)

/-- The integer that a string denotes; a string that denotes a double is rounded towards zero. -/
def integerOfText? (text : String) : Option Integer :=
  match Integer.read text with
  | .ok value => some value
  | .error _ => (FloatText.read text).bind fun number => (roundFloat? .towardZero number).map .ofInt

/-- A value as an integer. -/
def toInt (value : Value) : Except Fault Value :=
  match value with
  | .int _ => .ok value
  | .bool holds => .ok (flag holds)
  | .float number =>
    match roundFloat? .towardZero number with
    | some integer => .ok (.int (.ofInt integer))
    | Option.none => .error (.mistyped (.notConvertible value.display "int"))
  | .string text =>
    match integerOfText? (trimmed text) with
    | some integer => .ok (.int integer)
    | Option.none => .error (.mistyped (.invalidLiteral "int" value.repr))
  | _ => .error (.mistyped (.notConvertible value.kind.name "int"))

/-- A value as a double. -/
def toFloat (value : Value) : Except Fault Value :=
  match value with
  | .string text =>
    match FloatText.read (trimmed text) with
    | some number => .ok (.float number)
    | Option.none => .error (.mistyped (.invalidLiteral "float" value.repr))
  | _ =>
    match value.number? with
    | some number => .ok (.float number.toFloat)
    | Option.none => .error (.mistyped (.notConvertible value.kind.name "float"))

/-- Whether a value is of the kind with the given name. -/
def isInstance (value kind : Value) : Except Fault Value := do
  return flag (value.kind.name == (← expectString "isinstance" kind))

/-- The magnitude of a number. -/
def absolute (value : Value) : Except Fault Value := do
  match ← expectNumber "abs" value with
  | .int number => return .int number.abs
  | .float number => return .float number.abs

/-- A number as the integer next to it. -/
def rounded (function : String) (rounding : Rounding) (value : Value) : Except Fault Value := do
  match ← expectNumber function value with
  | .int number => return .int number
  | .float number =>
    match roundFloat? rounding number with
    | some integer => return .int (.ofInt integer)
    | Option.none => .error (.mistyped (.notRoundable function value.display))

end Value

end DotScript
