import DotScript.Parser.Program
import DotScript.Run.Evaluate
import DotScript.Tree.Basic

/-!
# Executing statements

Execution follows the statement.  Counting loops and loops over items are bounded by what they count
or run through.  A loop under a condition and a loop that counts in doubles take a limit on their
turns, which is given from outside, and halt when it is used up.
-/

namespace DotScript
namespace Run

/-- Repeats a body as long as a condition holds and the body does not give. -/
def repeatWhile (condition : Run Value) (body : Run Flow) : Nat → Run Flow
  | 0 => throw (.unfinished .condition)
  | turns + 1 => do
    if (← condition).truthy then
      match ← body with
      | .give result => return .give result
      | _ => repeatWhile condition body turns
    else
      return .next

/-- Runs a body with a name bound to one item after the other, until the body gives. -/
def forEach (name : String) (body : Run Flow) : List Value → Run Flow
  | [] => return .next
  | item :: rest => do
    define name item
    match ← body with
    | .give result => return .give result
    | _ => forEach name body rest

/-- Runs a body with a name bound to integers, `step` apart, that are not past `last`, until the body
gives.  No integer is reached by a step of zero. -/
def countIntegers (name : String) (body : Run Flow) (last step term : Integer) : Run Flow :=
  if !step.isZero && term.notPast (!step.isNegative) last then do
    define name (.int term)
    match ← body with
    | .give result => return .give result
    | _ => countIntegers name body last step (term.add step)
  else
    return .next
termination_by
  (if step.isNegative then term.toInt + 1 - last.toInt else last.toInt + 1 - term.toInt).toNat
decreasing_by
  rename_i inside
  rw [Bool.and_eq_true, Bool.not_eq_true', Bool.eq_false_iff, ne_eq, Integer.isZero_iff,
    Integer.notPast_iff] at inside
  obtain ⟨moves, inside⟩ := inside
  have downward := step.isNegative_iff
  cases down : step.isNegative with
  | true =>
      rw [down] at inside downward
      simp only [Bool.not_true, Bool.false_eq_true, if_false, true_iff, if_true] at inside downward ⊢
      rw [Integer.toInt_add]
      omega
  | false =>
      rw [down] at inside downward
      simp only [Bool.not_false, if_true, Bool.false_eq_true, false_iff, if_false]
        at inside downward ⊢
      rw [Integer.toInt_add]
      omega

/-- How far past its last term a loop may count in doubles. -/
def rangeTolerance : Float := 1e-9

/-- Whether a double is not past the last term of a loop. -/
def inFloatRange (last step term : Float) : Bool :=
  (step > 0.0 && term ≤ last + rangeTolerance) || (step < 0.0 && term ≥ last - rangeTolerance)

/-- Runs a body with a name bound to doubles, `step` apart, that are not past `last`, until the body
gives. -/
def countFloats (name : String) (body : Run Flow) (last step : Float) : Nat → Float → Run Flow
  | 0, _ => throw (.unfinished .floatRange)
  | turns + 1, term => do
    if inFloatRange last step term then
      define name (.float term)
      match ← body with
      | .give result => return .give result
      | _ => countFloats name body last step turns (term + step)
    else
      return .next

/-- The step of a loop over integers that does not state one: towards its last term. -/
def defaultStep (first last : Int) : Int :=
  if first ≤ last then 1 else -1

/-- The step of a loop over doubles that does not state one: towards its last term. -/
def defaultFloatStep (first last : Float) : Float :=
  if last ≥ first then 1.0 else -1.0

/-- Runs a body for the terms of a range. -/
def countRange (turns : Nat) (name : String) (body : Run Flow) (first last : Number)
    (step : Option Number) : Run Flow :=
  match first, last, step with
  | .int first, .int last, none =>
    countIntegers name body last (.ofInt (defaultStep first.toInt last.toInt)) first
  | .int first, .int last, some (.int step) => countIntegers name body last step first
  | first, last, step =>
    let first := first.toFloat
    let last := last.toFloat
    let step := (step.map Number.toFloat).getD (defaultFloatStep first last)
    countFloats name body last step turns first

/-- A bound of a range, which has to be a number. -/
def rangeBound (run : BodyRunner) (bound : Expr) : Run Number := do
  let value ← evaluate run bound
  match value.number? with
  | some number => return number
  | none => fault bound.span (.mistyped (.rangeBound value.kind))

/-- The step of a range, which must not be zero. -/
def rangeStep (run : BodyRunner) (step : Option Expr) (span : Span) : Run (Option Number) := do
  match step with
  | none => return none
  | some step =>
    let number ← rangeBound run step
    if number.isZero then fault span (.running .zeroStep) else return some number

/-- The value of an expression that may be left out. -/
def evaluateOptional (run : BodyRunner) : Option Expr → Run Value
  | none => return .none
  | some expr => evaluate run expr

/-- Declares variables one after the other. -/
def declareAll (run : BodyRunner) : List (String × Option Expr) → Run Unit
  | [] => return ()
  | (name, initial) :: rest => do
    let value ← evaluateOptional run initial
    define name value
    declareAll run rest

/-- Changes a variable to a value, or to what an operator makes of the old value and it. -/
def assignValue (name : String) (op : Option BinaryOp) (value : Value) (span : Span) :
    Run Unit := do
  match op with
  | none => assign name value span
  | some op =>
    let old ← readName name span
    let value ← ofExcept span (old.binary op value)
    assign name value span

/-- The function value under a name after one more declaration. -/
def addOverload (existing : Option Value) (closure : Closure) : FunctionSet :=
  match existing with
  | some (.function functions) => functions.insert closure
  | _ => .single closure

/-- Declares a function in the current frame. -/
def declareFunction (declaration : Declaration) : Run Unit := do
  let machine ← get
  let closure : Closure := { declaration, home := machine.current }
  let functions := addOverload (machine.lookup declaration.name) closure
  define declaration.name (.function functions)

/-- Prints the value of an expression statement if that is asked for; none is never printed. -/
def echo (value : Value) : Run Unit := do
  if (← get).host.echo && !value.isNone then print (value.display ++ "\n")

mutual

/-- Executes a statement. -/
def execute (turns : Nat) (run : BodyRunner) : Stmt → Run Flow
  | .var bindings _ => do
    declareAll run bindings
    return .next
  | .letBe name value _ => do
    define name (← evaluate run value)
    return .next
  | .assign name op value span => do
    assignValue name op (← evaluate run value) span
    return .next
  | .choose arms _ => executeArms turns run arms
  | .whileLoop condition body _ =>
    repeatWhile (evaluate run condition) (executeBlock turns run body) turns
  | .forRange name first last step body span => do
    let first ← rangeBound run first
    let last ← rangeBound run last
    let step ← rangeStep run step span
    countRange turns name (executeBlock turns run body) first last step
  | .forIn name items body _ => do
    let value ← evaluate run items
    match value.elements? with
    | some elements => forEach name (executeBlock turns run body) elements
    | none => fault items.span (.mistyped (.notIterable value.kind))
  | .define label name params body _ => do
    declareFunction { label, name, params, body }
    return .next
  | .expression value _ => do
    let value ← evaluate run value
    echo value
    return .value value
  | .give value _ => do return .give (← evaluateOptional run value)
  | .pass _ => return .next

/-- Executes the statements of a block until one gives. -/
def executeBlock (turns : Nat) (run : BodyRunner) : List Stmt → Run Flow
  | [] => return .next
  | stmt :: rest => do
    match ← execute turns run stmt with
    | .give result => return .give result
    | _ => executeBlock turns run rest

/-- Executes the first block whose condition holds. -/
def executeArms (turns : Nat) (run : BodyRunner) : Arms → Run Flow
  | .arm condition body others => do
    if (← evaluate run condition).truthy then executeBlock turns run body
    else executeArms turns run others
  | .otherwise body => executeBlock turns run body
  | .nothing => return .next

end

/-- Runs the bodies of functions with at most `levels` calls within one another. -/
def bodyRunner (turns : Nat) : Nat → BodyRunner
  | 0 => fun _ => throw (.unfinished .calls)
  | levels + 1 => fun body => executeBlock turns (bodyRunner turns levels) body

/-- Executes a statement that is not part of another one. -/
def executeTop (turns : Nat) (stmt : Stmt) : Run Flow :=
  execute turns (bodyRunner turns maxCallDepth) stmt

/-- More turns than any loop takes in the lifetime of a machine. -/
def ampleTurns : Nat := Nat.pow 2 62

/-- Parses a source text and gives its declarations labels of their own. -/
def load (source : String) : Run Program := do
  match Program.parse source with
  | .error diagnostic => throw (.failed diagnostic)
  | .ok program =>
    let (program, next) := program.number (← get).nextLabel
    modify fun machine => { machine with nextLabel := next }
    return program

/-- Executes statements and gives the value of the last expression statement among them. -/
def runProgram (turns : Nat) (last : Value) : Program → Run Value
  | [] => return last
  | stmt :: rest => do
    match ← executeTop turns stmt with
    | .next => runProgram turns last rest
    | .value result => runProgram turns result rest
    | .give _ => fault stmt.span (.running .giveOutside)

/-- Runs a source text and gives the value of its last expression statement. -/
def evalSource (turns : Nat) (source : String) : Run Value := do
  runProgram turns .none (← load source)

end Run
end DotScript
