import DotScript.Builtin.Call
import DotScript.Method.Call
import DotScript.Run.Machine

/-!
# Evaluating expressions

Evaluation follows the expression.  Where an expression calls a function, the body is handed to a
runner that is given from outside, so that calls within calls need no recursion here.
-/

namespace DotScript

/-- What a statement leads to. -/
inductive Flow
  /-- The next statement. -/
  | next
  /-- The next statement; an expression statement had this value. -/
  | value (result : Value)
  /-- The end of the running function, with this value. -/
  | give (result : Value)

/-- The value that a call has when its body ends. -/
def Flow.callResult : Flow → Value
  | .give result => result
  | _ => .none

/-- Runs the bodies of functions. -/
abbrev BodyRunner := List Stmt → Run Flow

/-- The value of a literal. -/
def Literal.value : Literal → Except Fault Value
  | .int digits =>
    match Integer.read digits with
    | .ok number => .ok (.int number)
    | .error _ => .error (.malformed (.malformedInteger digits))
  | .float number => .ok (.float number)
  | .bool holds => .ok (.bool holds)
  | .string text => .ok (.string text)
  | .none => .ok .none

/-- The fault of a call with a number of arguments that no function of a set takes. -/
def FunctionSet.mismatch (functions : FunctionSet) (received : Nat) : Fault :=
  match functions.overloads with
  | [only] => .miscounted (.function functions.name only.declaration.arity received)
  | overloads =>
    .miscounted (.overloads functions.name (overloads.map (·.declaration.arity)) received)

namespace Run

/-- Calls a function. -/
def callClosure (run : BodyRunner) (closure : Closure) (args : List Value) (span : Span) :
    Run Value := do
  match closure.declaration.body with
  | none => fault span (.running (.undefinedBody closure.declaration.name))
  | some body =>
    if maxCallDepth ≤ (← get).depth then
      fault span (.running (.callDepth closure.declaration.name))
    else
      return (← inCall closure args (run body)).callResult

/-- Calls the function of a set that takes as many arguments as there are. -/
def callFunction (run : BodyRunner) (functions : FunctionSet) (args : List Value) (span : Span) :
    Run Value :=
  match functions.resolve args.length with
  | some closure => callClosure run closure args span
  | none => fault span (functions.mismatch args.length)

/-- Calls the function that a name is bound to. -/
def callBound (run : BodyRunner) (name : String) (args : List Value) (span : Span) :
    Run Value := do
  match (← get).lookup name with
  | some (.function functions) => callFunction run functions args span
  | some value => fault span (.mistyped (.notFunction name value.kind))
  | none => fault span (.undefined (.function name))

/-- Calls a built-in, or else the function that a name is bound to. -/
def callNamed (run : BodyRunner) (name : String) (args : List Value) (span : Span) : Run Value :=
  match Builtin.ofName? name with
  | some builtin => ofHost span (builtin.call args)
  | none => callBound run name args span

/-- The name of the function that calls another function on every item. -/
def mapName : String := "map"

/-- Halts because `map` is called with a wrong number of arguments. -/
def mapMiscounted {α : Type} (received : Nat) (span : Span) : Run α :=
  fault span (.miscounted (.builtin mapName (.exactly 2) received))

/-- Calls a function value, or the function with the name that a string holds, on one item. -/
def applyTo (run : BodyRunner) (function item : Value) (span : Span) : Run Value :=
  match function with
  | .function functions => callFunction run functions [item] span
  | .string name =>
    if name = mapName then mapMiscounted 1 span else callNamed run name [item] span
  | value => fault span (.mistyped (.argument mapName "a function" value.kind))

/-- Calls a function on one item after the other. -/
def applyToAll (run : BodyRunner) (function : Value) (span : Span) (results : List Value) :
    List Value → Run (List Value)
  | [] => return results.reverse
  | item :: rest => do
    let result ← applyTo run function item span
    applyToAll run function span (result :: results) rest

/-- Calls a function on every element of a value. -/
def mapCall (run : BodyRunner) (args : List Value) (span : Span) : Run Value := do
  match args with
  | [function, collection] =>
    match collection.elements? with
    | some items => return .list (← applyToAll run function span [] items)
    | none => fault span (.mistyped (.argument mapName "a list" collection.kind))
  | _ => mapMiscounted args.length span

/-- Calls by name: built-ins come before bound functions. -/
def call (run : BodyRunner) (name : String) (args : List Value) (span : Span) : Run Value :=
  if name = mapName then mapCall run args span else callNamed run name args span

mutual

/-- The value of an expression. -/
def evaluate (run : BodyRunner) : Expr → Run Value
  | .literal value span => ofExcept span value.value
  | .variable name span => readName name span
  | .binary .and left right _ => do
    if (← evaluate run left).truthy then return .flag (← evaluate run right).truthy
    else return .flag false
  | .binary .or left right _ => do
    if (← evaluate run left).truthy then return .flag true
    else return .flag (← evaluate run right).truthy
  | .binary op left right span => do
    let left ← evaluate run left
    let right ← evaluate run right
    ofExcept span (left.binary op right)
  | .unary op operand span => do
    let operand ← evaluate run operand
    ofExcept span (operand.unary op)
  | .call name args span => do
    let args ← evaluateAll run args
    call run name args span
  | .method receiver name args span => do
    let receiver ← evaluate run receiver
    let args ← evaluateAll run args
    ofHost span (receiver.invoke name args)
  | .list items _ => do return .list (← evaluateAll run items)
  | .set items _ => do return .ofSet (← evaluateAll run items)

/-- The values of expressions, from left to right. -/
def evaluateAll (run : BodyRunner) : List Expr → Run (List Value)
  | [] => return []
  | expr :: rest => do
    let value ← evaluate run expr
    let values ← evaluateAll run rest
    return value :: values

end

end Run
end DotScript
