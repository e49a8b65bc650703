import DotScript.Number.Integer
import DotScript.Tree.Basic

/-!
# Values

What programs compute with, and the kinds by which they and complaints tell values apart.
-/

namespace DotScript

/-! ## Kinds of values -/

namespace Value

/-- The kinds of values a program works with. -/
inductive Kind
  | none | bool | int | float | string | list | set | function
deriving DecidableEq, Repr

/-- The name of a kind, as programs and complaints give it. -/
def Kind.name : Kind → String
  | .none => "none"
  | .bool => "bool"
  | .int => "int"
  | .float => "float"
  | .string => "string"
  | .list => "list"
  | .set => "set"
  | .function => "function"

end Value

/-! ## Values

Values never change.  Lists and sets hold their items in order, and a set holds no item twice.  A
function value is the collection of all functions declared under one name, one for each number of
parameters. -/

/-- The number of a scope frame. -/
abbrev FrameId := Nat

/-- A declared function together with the frame it was declared in. -/
structure Closure where
  /-- What was declared. -/
  declaration : Declaration
  /-- The frame in which the body finds the names that are not its own. -/
  home : FrameId

/-- All functions under one name. -/
structure FunctionSet where
  /-- The name of the functions. -/
  name : String
  /-- The functions, in the order in which their numbers of parameters first appeared. -/
  overloads : List Closure

namespace FunctionSet

/-- The function set with one function. -/
def single (closure : Closure) : FunctionSet where
  name := closure.declaration.name
  overloads := [closure]

/-- Replaces the function with as many parameters as `closure`; if there is none, adds `closure` at
the end. -/
def insertOverload (closure : Closure) : List Closure → List Closure
  | [] => [closure]
  | other :: rest =>
    if other.declaration.arity == closure.declaration.arity then closure :: rest
    else other :: insertOverload closure rest

/-- The function for a number of arguments. -/
def resolve (functions : FunctionSet) (arity : Nat) : Option Closure :=
  functions.overloads.find? (·.declaration.arity == arity)

/-- Adds a function in place of the one with as many parameters.  A forward declaration never takes
the place of another one. -/
def insert (functions : FunctionSet) (closure : Closure) : FunctionSet :=
  if closure.declaration.body.isNone &&
      (functions.resolve closure.declaration.arity).isSome then functions
  else { functions with overloads := insertOverload closure functions.overloads }

/-- Whether two function sets come from the same declarations, in order. -/
def sameDeclarations (left right : FunctionSet) : Bool :=
  left.overloads.map (·.declaration.label) == right.overloads.map (·.declaration.label)

end FunctionSet

/-- A value. -/
inductive Value
  | none
  | bool (value : Bool)
  | int (value : Integer)
  | float (value : Float)
  | string (value : String)
  | list (items : List Value)
  /-- The items are pairwise different; see `Value.ofSet`. -/
  | set (items : List Value)
  | function (functions : FunctionSet)
deriving Inhabited

namespace Value

/-- The kind of a value. -/
def kind : Value → Kind
  | .none => .none
  | .bool _ => .bool
  | .int _ => .int
  | .float _ => .float
  | .string _ => .string
  | .list _ => .list
  | .set _ => .set
  | .function _ => .function

/-- Whether a value is none. -/
def isNone : Value → Bool
  | .none => true
  | _ => false

/-- Whether a value counts as true. -/
def truthy : Value → Bool
  | .none => false
  | .bool value => value
  | .int value => !value.isZero
  | .float value => value != 0.0
  | .string value => !value.isEmpty
  | .list items | .set items => !items.isEmpty
  | .function _ => true

/-- The result of comparisons and logical operators: one or zero. -/
def flag (holds : Bool) : Value :=
  .int (if holds then 1 else 0)

/-- A string of characters. -/
def ofChars (chars : List Char) : Value :=
  .string (String.ofList chars)

/-- The items of a list or a set, or the characters of a string. -/
def elements? : Value → Option (List Value)
  | .list items | .set items => some items
  | .string value => some (value.toList.map fun c => ofChars [c])
  | _ => Option.none

end Value

end DotScript
