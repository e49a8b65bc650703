import DotScript.Builtin.Collections
import DotScript.Text.LetterCase
import DotScript.Text.Pieces

/-!
# Methods of strings

Places in strings are counted in characters.
-/

namespace DotScript

/-- A method of strings. -/
inductive StringMethod
  | upper | lower | strip | capitalize | title | reverse
  | isDigit | isAlpha
  | split | find | count | contains | startsWith | endsWith | replace | slice
deriving DecidableEq, Repr

namespace StringMethod

/-- Every method once. -/
def all : List StringMethod :=
  [.upper, .lower, .strip, .capitalize, .title, .reverse, .isDigit, .isAlpha, .split, .find, .count,
   .contains, .startsWith, .endsWith, .replace, .slice]

/-- The name of a method in programs. -/
def name : StringMethod → String
  | .upper => "upper"
  | .lower => "lower"
  | .strip => "strip"
  | .capitalize => "capitalize"
  | .title => "title"
  | .reverse => "reverse"
  | .isDigit => "isdigit"
  | .isAlpha => "isalpha"
  | .split => "split"
  | .find => "find"
  | .count => "count"
  | .contains => "contains"
  | .startsWith => "startswith"
  | .endsWith => "endswith"
  | .replace => "replace"
  | .slice => "slice"

/-- How many arguments a method takes. -/
def arity : StringMethod → Arity
  | .split => .between 0 1
  | .find | .count | .contains | .startsWith | .endsWith => .exactly 1
  | .replace | .slice => .exactly 2
  | _ => .exactly 0

/-- The method with the given name. -/
def ofName? (name : String) : Option StringMethod :=
  all.find? (·.name == name)

/-- The fault of a call with a wrong number of arguments. -/
def miscounted (method : StringMethod) (received : Nat) : Fault :=
  .miscounted (.method method.name .string method.arity received)

/-- The list of some texts. -/
def texts (pieces : List (List Char)) : Value :=
  .list (pieces.map Value.ofChars)

/-- The pieces of a text between the occurrences of a separator, which must not be empty. -/
def splitAt (text : List Char) (separator : String) : Except Fault Value :=
  if separator.isEmpty then .error (.running .emptySeparator)
  else .ok (texts (Text.pieces separator.toList text))

/-- The place of the first occurrence of a text, or minus one. -/
def findIn (text needle : List Char) : Int :=
  match Text.position? needle text with
  | some index => index
  | none => -1

/-- A bound of a slice: a negative one counts from the end, and all are cut to the text. -/
def clampBound (length : Nat) (bound : Int) : Nat :=
  if bound < 0 then (bound + length).toNat else min bound.toNat length

/-- The bound of a slice that a value stands for. -/
def sliceBound (length : Nat) (value : Value) : Except Fault Nat := do
  match ← value.expectNumber "slice" with
  | .int bound => return clampBound length bound.toInt
  | .float _ => .error (.mistyped (.sliceBound value.display))

/-- The characters from one place up to another one. -/
def sliceOf (text : List Char) (first last : Nat) : List Char :=
  (text.take last).drop first

/-- Calls a method on a text. -/
def call (method : StringMethod) (text : List Char) (args : List Value) : Except Fault Value :=
  match method, args with
  | .upper, [] => .ok (.ofChars (Text.toUpperCase text))
  | .lower, [] => .ok (.ofChars (Text.toLowerCase text))
  | .strip, [] => .ok (.ofChars (Text.trim text))
  | .capitalize, [] => .ok (.ofChars (Text.capitalize text))
  | .title, [] => .ok (.ofChars (Text.title text))
  | .reverse, [] => .ok (.ofChars text.reverse)
  | .isDigit, [] => .ok (.bool (!text.isEmpty && text.all Char.isDigit))
  | .isAlpha, [] => .ok (.bool (!text.isEmpty && text.all Text.isAlphabetic))
  | .split, [] => .ok (texts (Text.words text))
  | .split, [separator] => do splitAt text (← separator.expectString "split")
  | .find, [needle] => do
    return .int (.ofInt (findIn text (← needle.expectString "find").toList))
  | .count, [needle] => do
    return .int (.ofInt (Text.occurrences (← needle.expectString "count").toList text))
  | .contains, [needle] => do
    return .bool (Text.position? (← needle.expectString "contains").toList text).isSome
  | .startsWith, [start] => do
    return .bool ((← start.expectString "startswith").toList.isPrefixOf text)
  | .endsWith, [ending] => do
    return .bool ((← ending.expectString "endswith").toList.isSuffixOf text)
  | .replace, [needle, replacement] => do
    let needle ← needle.expectString "replace"
    let replacement ← replacement.expectString "replace"
    return .ofChars (Text.replace needle.toList replacement.toList text)
  | .slice, [first, last] => do
    let first ← sliceBound text.length first
    let last ← sliceBound text.length last
    return .ofChars (sliceOf text first last)
  | method, args => .error (method.miscounted args.length)

end StringMethod
end DotScript
