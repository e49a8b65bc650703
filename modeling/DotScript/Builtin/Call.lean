import DotScript.Builtin.Basic
import DotScript.Builtin.Collections
import DotScript.Builtin.Conversions
import DotScript.Host.Basic

/-!
# Calling built-ins

`compute` answers the calls that need nothing but their arguments, `call` those that print, read,
write and sort as well.  A call with a wrong number of arguments fails whatever the arguments are.
-/

namespace DotScript
namespace Builtin

/-- The fault of a call with a wrong number of arguments. -/
def miscounted (builtin : Builtin) (received : Nat) : Fault :=
  .miscounted (.builtin builtin.name builtin.arity received)

/-- A call with one argument. -/
def unary (builtin : Builtin) (args : List Value) (answer : Value → Except Fault Value) :
    Except Fault Value :=
  match args with
  | [value] => answer value
  | _ => .error (builtin.miscounted args.length)

/-- A call with two arguments. -/
def binary (builtin : Builtin) (args : List Value) (answer : Value → Value → Except Fault Value) :
    Except Fault Value :=
  match args with
  | [left, right] => answer left right
  | _ => .error (builtin.miscounted args.length)

/-- A call with one argument or none. -/
def optional (builtin : Builtin) (args : List Value) (absent : Value)
    (answer : Value → Except Fault Value) : Except Fault Value :=
  match args with
  | [] => .ok absent
  | [value] => answer value
  | _ => .error (builtin.miscounted args.length)

/-- A call with two arguments, the second of which may be left out. -/
def withDefault (builtin : Builtin) (args : List Value) (absent : Value)
    (answer : Value → Value → Except Fault Value) : Except Fault Value :=
  match args with
  | [left] => answer left absent
  | [left, right] => answer left right
  | _ => .error (builtin.miscounted args.length)

/-- A call with one argument at least. -/
def variadic (builtin : Builtin) (args : List Value) (answer : List Value → Except Fault Value) :
    Except Fault Value :=
  if args.isEmpty then .error (builtin.miscounted 0) else answer args

/-- The answer of a built-in that needs nothing but its arguments. -/
def compute (builtin : Builtin) (args : List Value) : Except Fault Value :=
  match builtin with
  | .len => builtin.unary args Value.length
  | .list => builtin.optional args (.list []) Value.toList
  | .set => builtin.optional args (.set []) Value.toSet
  | .append => builtin.binary args Value.append
  | .pop => builtin.unary args Value.pop
  | .sum => builtin.withDefault args (.int 0) Value.sum
  | .reversed => builtin.unary args Value.reversed
  | .all => builtin.unary args Value.allTruthy
  | .any => builtin.unary args Value.anyTruthy
  | .rangeList => builtin.binary args Value.rangeList
  | .enumerate => builtin.unary args Value.enumerate
  | .zip => builtin.binary args Value.zip
  | .min => builtin.variadic args (Value.extremeOf "min" .lt)
  | .max => builtin.variadic args (Value.extremeOf "max" .gt)
  | .str => builtin.unary args fun value => .ok (.string value.display)
  | .int => builtin.unary args Value.toInt
  | .float => builtin.unary args Value.toFloat
  | .bool => builtin.unary args fun value => .ok (.bool value.truthy)
  | .type => builtin.unary args fun value => .ok (.string value.kind.name)
  | .repr => builtin.unary args fun value => .ok (.string value.repr)
  | .isInstance => builtin.binary args Value.isInstance
  | .abs => builtin.unary args Value.absolute
  | .ceil => builtin.unary args (Value.rounded "ceil" .up)
  | .floor => builtin.unary args (Value.rounded "floor" .down)
  | .round => builtin.unary args (Value.rounded "round" .nearest)
  | .pow => builtin.binary args (Value.binary .pow)
  | .real function =>
    builtin.unary args fun value =>
      (value.expectNumber function.name).map fun number => .float (function.apply number.toFloat)
  | _ => .error (builtin.miscounted args.length)

/-- Prints values with blanks between them, and ends the line. -/
def printLine (values : List Value) : HostM Value := do
  HostM.print (" ".intercalate (values.map Value.display) ++ "\n")
  return .none

/-- Prints a value as it would be written in a program, and ends the line. -/
def printRepr (value : Value) : HostM Value := do
  HostM.print (value.repr ++ "\n")
  return .none

/-- Reads a line of input; at the end of the input the line is empty. -/
def readInput : HostM Value := do
  return .string ((← HostM.readLine).getD "")

/-- Prints a question and reads a line of input. -/
def ask (question : Value) : HostM Value := do
  HostM.print question.display
  readInput

/-- The text of the file at a path, for the built-in of the given name. -/
def fileText (function : String) (path : Value) : HostM String := do
  let path ← HostM.ofExcept (path.expectString function)
  match (← get).disk.readText path with
  | .ok text => return text
  | .error error => HostM.fault (.hosting (.file function path error))

/-- Whether a mode of writing keeps what the file holds. -/
def appends (mode : Option Value) : Except Fault Bool := do
  match mode with
  | none => return false
  | some mode =>
    let mode ← mode.expectString "write"
    if mode = "w" then return false
    else if mode = "a" then return true
    else .error (.running (.writeMode mode))

/-- Writes a value to the file at a path. -/
def writeFile (path data : Value) (mode : Option Value) : HostM Value := do
  let path ← HostM.ofExcept (path.expectString "write")
  let append ← HostM.ofExcept (appends mode)
  match (← get).disk.write path data.display append with
  | .ok disk =>
    HostM.keepDisk disk
    return .none
  | .error error => HostM.fault (.hosting (.file "write" path error))

/-- The items of a list or a set in ascending or descending order. -/
def sortedItems (collection : Value) (descending : Bool) : HostM Value := do
  let items ← HostM.ofExcept (collection.expectItems "sorted")
  let ascending ← HostM.sort "sorted" items
  return .list (if descending then ascending.reverse else ascending)

/-- Calls a built-in. -/
def call (builtin : Builtin) (args : List Value) : HostM Value :=
  match builtin, args with
  | .print, values => printLine values
  | .pprint, [value] => printRepr value
  | .input, [] => readInput
  | .input, [question] => ask question
  | .read, [path] => do return .string (← fileText "read" path)
  | .readLine, [path] => do
    let text ← fileText "readLine" path
    return .list ((Text.lines text.toList).map Value.ofChars)
  | .write, [path, data] => writeFile path data none
  | .write, [path, data, mode] => writeFile path data (some mode)
  | .sorted, [items] => sortedItems items false
  | .sorted, [items, descending] => sortedItems items descending.truthy
  | builtin, args => HostM.ofExcept (builtin.compute args)

end Builtin
end DotScript
