import DotScript.Builtin.Collections
import DotScript.Host.Basic
import DotScript.Method.Strings

/-!
# Methods

The methods of lists and sets, those that all values have, and the call of a method by its name.
-/

namespace DotScript

/-! ## Methods of lists and sets -/

/-- A method of lists. -/
inductive ListMethod
  | sort | reverse | contains | count | index
deriving DecidableEq, Repr

namespace ListMethod

/-- Every method once. -/
def all : List ListMethod :=
  [.sort, .reverse, .contains, .count, .index]

/-- The name of a method in programs. -/
def name : ListMethod → String
  | .sort => "sort"
  | .reverse => "reverse"
  | .contains => "contains"
  | .count => "count"
  | .index => "index"

/-- How many arguments a method takes. -/
def arity : ListMethod → Arity
  | .sort | .reverse => .exactly 0
  | .contains | .count | .index => .exactly 1

/-- The method with the given name. -/
def ofName? (name : String) : Option ListMethod :=
  all.find? (·.name == name)

/-- The fault of a call with a wrong number of arguments. -/
def miscounted (method : ListMethod) (received : Nat) : Fault :=
  .miscounted (.method method.name .list method.arity received)

/-- The place of the first item that equals a value, or minus one. -/
def indexOf (items : List Value) (value : Value) : Int :=
  match items.findIdx? (·.looseEq value) with
  | some place => place
  | none => -1

/-- Calls a method on the items of a list, unless it sorts them. -/
def call (method : ListMethod) (items : List Value) (args : List Value) : Except Fault Value :=
  match method, args with
  | .reverse, [] => .ok (.list items.reverse)
  | .contains, [value] => .ok (.bool (value.memberOf items))
  | .count, [value] => .ok (.int (.ofInt (items.countP (·.looseEq value))))
  | .index, [value] => .ok (.int (.ofInt (indexOf items value)))
  | method, args => .error (method.miscounted args.length)

end ListMethod

/-- A method of sets. -/
inductive SetMethod
  | add | remove | contains
deriving DecidableEq, Repr

namespace SetMethod

/-- Every method once. -/
def all : List SetMethod :=
  [.add, .remove, .contains]

/-- The name of a method in programs. -/
def name : SetMethod → String
  | .add => "add"
  | .remove => "remove"
  | .contains => "contains"

/-- The method with the given name. -/
def ofName? (name : String) : Option SetMethod :=
  all.find? (·.name == name)

/-- The fault of a call with a wrong number of arguments. -/
def miscounted (method : SetMethod) (received : Nat) : Fault :=
  .miscounted (.method method.name .set (.exactly 1) received)

/-- The set without the items that equal a value, of which there has to be one. -/
def without (items : List Value) (value : Value) : Except Fault Value :=
  if value.memberOf items then .ok (Value.ofSet (items.filter fun item => !item.looseEq value))
  else .error (.running (.notMember value.repr))

/-- Calls a method on the items of a set. -/
def call (method : SetMethod) (items : List Value) (args : List Value) : Except Fault Value :=
  match method, args with
  | .add, [value] => .ok (Value.ofSet (items ++ [value]))
  | .remove, [value] => without items value
  | .contains, [value] => .ok (.bool (value.memberOf items))
  | method, args => .error (method.miscounted args.length)

end SetMethod

/-! ## Calling methods

The methods of a value are those of its kind and a few that all values have.  `callMethod` answers the
calls that need nothing but the receiver and the arguments, `invoke` those that sort as well. -/

/-- A method of all values. -/
inductive CommonMethod
  | type | str | len
deriving DecidableEq, Repr

namespace CommonMethod

/-- The method with the given name. -/
def ofName? (name : String) : Option CommonMethod :=
  if name = "type" then some .type
  else if name = "str" then some .str
  else if name = "len" then some .len
  else none

/-- Calls a method that takes no arguments. -/
def call (method : CommonMethod) (receiver : Value) : Except Fault Value :=
  match method with
  | .type => .ok (.string receiver.kind.name)
  | .str => .ok (.string receiver.display)
  | .len => receiver.length

end CommonMethod

namespace Value

/-- Calls a method that all values have. -/
def callCommon (receiver : Value) (name : String) (args : List Value) : Except Fault Value :=
  match CommonMethod.ofName? name with
  | some method =>
    if args.isEmpty then method.call receiver
    else .error (.miscounted (.method name receiver.kind (.exactly 0) args.length))
  | Option.none => .error (.mistyped (.unknownMethod name receiver.kind))

/-- Calls a method of a string. -/
def callString (text : String) (name : String) (args : List Value) : Except Fault Value :=
  match StringMethod.ofName? name with
  | some method => method.call text.toList args
  | Option.none => callCommon (.string text) name args

/-- Calls a method of a list. -/
def callList (items : List Value) (name : String) (args : List Value) : Except Fault Value :=
  match ListMethod.ofName? name with
  | some method => method.call items args
  | Option.none => callCommon (.list items) name args

/-- Calls a method of a set. -/
def callSet (items : List Value) (name : String) (args : List Value) : Except Fault Value :=
  match SetMethod.ofName? name with
  | some method => method.call items args
  | Option.none => callCommon (.set items) name args

/-- Calls a method by its name, unless it sorts. -/
def callMethod (receiver : Value) (name : String) (args : List Value) : Except Fault Value :=
  match receiver with
  | .string text => callString text name args
  | .list items => callList items name args
  | .set items => callSet items name args
  | value => callCommon value name args

/-- The items that a call of a method is to sort. -/
def toSort? (receiver : Value) (name : String) (args : List Value) : Option (List Value) :=
  match receiver, args with
  | .list items, [] => if ListMethod.ofName? name = some .sort then some items else Option.none
  | _, _ => Option.none

/-- Calls a method by its name. -/
def invoke (receiver : Value) (name : String) (args : List Value) : HostM Value :=
  match receiver.toSort? name args with
  | some items => do return .list (← HostM.sort ListMethod.sort.name items)
  | Option.none => HostM.ofExcept (receiver.callMethod name args)

end Value

end DotScript
