import DotScript.Host.Basic
import DotScript.Scope.Frames

/-!
# The machine

The state of a running program, and computations on it.  A computation that halts keeps what it did
before.
-/

namespace DotScript

/-- The state of a running program. -/
structure Machine where
  /-- All scope frames. -/
  scopes : Scopes
  /-- The frame of the code that is running. -/
  current : FrameId
  /-- The number of function calls in progress. -/
  depth : Nat
  /-- The label for the next declaration that is loaded. -/
  nextLabel : Nat
  /-- The world outside the variables. -/
  host : Host

namespace Machine

/-- A machine that has not run anything. -/
def start (host : Host) : Machine where
  scopes := Scopes.empty.install Scopes.globalId
  current := Scopes.globalId
  depth := 0
  nextLabel := 0
  host

/-- Forgets everything that was run; the world stays as it is.  There is one frame again, which is
the current one and has the constants, no call is in progress, and declarations are counted anew. -/
def reset (machine : Machine) : Machine :=
  { machine with
    scopes := Scopes.empty.install Scopes.globalId
    current := Scopes.globalId
    depth := 0
    nextLabel := 0 }

/-- What is left is a machine that has not run anything, in the same world. -/
theorem reset_eq_start (machine : Machine) : machine.reset = start machine.host := rfl

/-- Declares a name in the current frame. -/
def define (name : String) (value : Value) : Machine → Machine
  | { scopes, current, depth, nextLabel, host } =>
    { scopes := scopes.define current name value, current, depth, nextLabel, host }

/-- The value of a name, read from the current frame. -/
def lookup (machine : Machine) (name : String) : Option Value :=
  machine.scopes.lookup machine.current name

/-- Makes a frame for a call, with the arguments under the names of the parameters, and goes on in
it. -/
def enter (closure : Closure) (args : List Value) : Machine → Machine
  | { scopes, depth, nextLabel, host, .. } =>
    let locals := Bindings.ofList (closure.declaration.params.zip args)
    let (frame, scopes) := scopes.enter closure.home locals
    { scopes, current := frame, depth := depth + 1, nextLabel, host }

/-- Goes back from a call to the frame of the caller. -/
def leave (caller : FrameId) (machine : Machine) : Machine :=
  { machine with current := caller, depth := machine.depth - 1 }

/-- Takes what was printed. -/
def takeOutput : Machine → String × Machine
  | { scopes, current, depth, nextLabel, host := { output, input, disk, echo, sorter } } =>
    (output,
      { scopes, current, depth, nextLabel, host := { output := "", input, disk, echo, sorter } })

end Machine

/-- A computation on the machine. -/
abbrev Run := ExceptT Halt (StateM Machine)

namespace Run

/-- Halts with a fault at some place. -/
def fault {α : Type} (span : Span) (cause : Fault) : Run α :=
  throw (.ofFault span cause)

/-- The result of an operation on values at some place. -/
def ofExcept {α : Type} (span : Span) : Except Fault α → Run α
  | .ok value => pure value
  | .error cause => fault span cause

/-- Lets an operation work on the world of the machine. -/
def onHost {α : Type} (operation : HostM α) : Machine → Except Failure α × Machine
  | { scopes, current, depth, nextLabel, host } =>
    let (result, host) := operation.run.run host
    (result, { scopes, current, depth, nextLabel, host })

/-- The result of an operation on the world at some place. -/
def ofHost {α : Type} (span : Span) (operation : HostM α) : Run α :=
  ExceptT.mk do
    match ← modifyGet (onHost operation) with
    | .ok value => return .ok value
    | .error failure => return .error (.ofFailure span failure)

/-- Prints a text. -/
def print (text : String) : Run Unit :=
  modify fun machine => (onHost (HostM.print text) machine).2

/-- The value of a variable at some place. -/
def readName (name : String) (span : Span) : Run Value := do
  let machine ← get
  match machine.scopes.get machine.current name with
  | .ok value => return value
  | .error cause => fault span (.undefined cause)

/-- Declares a name in the current frame. -/
def define (name : String) (value : Value) : Run Unit :=
  modify (Machine.define name value)

/-- Changes a name that is declared in the current frame. -/
def assign (name : String) (value : Value) (span : Span) : Run Unit := do
  let machine ← get
  match machine.scopes.assignFault? machine.current name with
  | none => define name value
  | some cause => fault span (.undefined cause)

/-- The result of a computation, or the diagnostic it halted with. -/
def attempt {α : Type} (computation : Run α) : Run (Except Diagnostic α) :=
  ExceptT.mk do
    match ← computation.run with
    | .ok value => return .ok (.ok value)
    | .error (.failed diagnostic) => return .ok (.error diagnostic)
    | .error halt => return .error halt

/-- Prints what a program is at fault with. -/
def report (diagnostic : Diagnostic) : Run Unit :=
  print ("Error: " ++ diagnostic.text ++ "\n")

/-- Runs the body of a call in a frame of its own.  The frame of the caller is current again
afterwards, also if the body halts. -/
def inCall {α : Type} (closure : Closure) (args : List Value) (body : Run α) : Run α :=
  ExceptT.mk do
    let caller := (← get).current
    modify (Machine.enter closure args)
    let result ← body.run
    modify (Machine.leave caller)
    return result

end Run
end DotScript
