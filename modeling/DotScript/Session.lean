import DotScript.Run.Execute

/-!
# Scripts and sessions

The two ways to run programs statement by statement: a script prints what fails and goes on, a session
answers one cell after the other.
-/

namespace DotScript

/-! ## Scripts

A script goes on after a statement that fails: the failure is printed and the next statement
runs.  A script that does not parse runs nothing. -/

namespace Script

/-- What happened while a script ran. -/
structure Summary where
  /-- The number of statements that were executed. -/
  executed : Nat
  /-- The number of those that failed. -/
  failed : Nat
  /-- Whether the script did not parse. -/
  syntaxError : Bool
deriving DecidableEq, Repr

/-- Whether nothing failed. -/
def Summary.succeeded (summary : Summary) : Bool :=
  summary.failed == 0 && !summary.syntaxError

/-- Executes a statement, which must not give. -/
def executeStatement (turns : Nat) (stmt : Stmt) : Run Unit := do
  match ← Run.executeTop turns stmt with
  | .give _ => Run.fault stmt.span (.running .giveOutside)
  | _ => return ()

/-- Executes statements one after the other, whether they fail or not. -/
def runStatements (turns : Nat) (summary : Summary) : Program → Run Summary
  | [] => return summary
  | stmt :: rest => do
    let executed := summary.executed + 1
    match ← Run.attempt (executeStatement turns stmt) with
    | .ok () => runStatements turns { summary with executed } rest
    | .error diagnostic =>
      Run.report diagnostic
      runStatements turns { summary with executed, failed := summary.failed + 1 } rest

/-- Runs a script. -/
def run (turns : Nat) (source : String) : Run Summary := do
  match ← Run.attempt (Run.load source) with
  | .ok program => runStatements turns { executed := 0, failed := 0, syntaxError := false } program
  | .error diagnostic =>
    Run.report diagnostic
    return { executed := 0, failed := 0, syntaxError := true }

end Script

/-! ## Sessions

A session runs one cell of code after the other on the same machine.  The first statement that fails
ends its cell; what was bound before stays bound.  The counter counts the cells that succeeded. -/

/-- A session. -/
structure Session where
  /-- The machine that the cells run on. -/
  machine : Machine
  /-- The number of cells that succeeded. -/
  count : Nat

/-- The answer to a cell. -/
structure Reply where
  /-- Whether the cell came to its end. -/
  succeeded : Bool
  /-- What the cell printed. -/
  stdout : String
  /-- Why the cell failed. -/
  stderr : String
  /-- The text of the value of the cell; empty if there is none. -/
  result : String
  /-- The number of cells that have succeeded so far. -/
  count : Nat
deriving DecidableEq, Repr

namespace Session

/-- A session that has not run anything. -/
def start (input : Input) (disk : Disk) (sorter : Sorter) : Session where
  machine := .start (.start input disk false sorter)
  count := 0

/-- A value that is not none. -/
def proper? (value : Value) : Option Value :=
  if value.isNone then none else some value

/-- Executes the statements of a cell.  The value of a cell is what it gives, or else the value of
its last expression statement. -/
def runCell (turns : Nat) (last : Option Value) : Program → Run (Option Value)
  | [] => return last
  | stmt :: rest => do
    match ← Run.executeTop turns stmt with
    | .next => runCell turns last rest
    | .value result => runCell turns (proper? result) rest
    | .give result => return proper? result

/-- Runs the source of a cell. -/
def runSource (turns : Nat) (code : String) : Run (Option Value) := do
  runCell turns none (← Run.load code)

/-- The reply to a cell that came to an outcome and left a machine, and the session after it. -/
def reply (session : Session) (outcome : Except Halt (Option Value)) (machine : Machine) :
    Reply × Session :=
  let (stdout, machine) := machine.takeOutput
  match outcome with
  | .ok value =>
    let count := session.count + 1
    let result := (value.map Value.display).getD ""
    ({ succeeded := true, stdout, stderr := "", result, count }, { machine, count })
  | .error halt =>
    let count := session.count
    ({ succeeded := false, stdout, stderr := halt.text, result := "", count }, { machine, count })

/-- Executes a cell. -/
def execute (turns : Nat) (code : String) (session : Session) : Reply × Session :=
  let (outcome, machine) := (runSource turns code).run.run session.machine
  session.reply outcome machine

/-- Forgets all cells. -/
def reset (session : Session) : Session where
  machine := session.machine.reset.takeOutput.2
  count := 0

/-- The bound names that start so, in ascending order. -/
def complete (session : Session) (start : String) : List String :=
  let names := session.machine.scopes.names Scopes.globalId
  (names.filter (start.toList.isPrefixOf ·.toList)).mergeSort fun left right => decide (left ≤ right)

end Session

end DotScript
