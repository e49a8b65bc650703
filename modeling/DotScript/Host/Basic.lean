import DotScript.Fault.Diagnostic
import DotScript.Host.Disk
import DotScript.Host.Input
import DotScript.Value.Sort

/-!
# The world of a program

What a running program reaches outside its own variables: the text it has printed, its input, its
files and the sorter it is run with.  An operation on the world may fail, and what it did before stays
done.
-/

namespace DotScript

/-- The world of a program. -/
structure Host where
  /-- Everything printed since the output was last taken. -/
  output : String
  /-- Where input comes from. -/
  input : Input
  /-- The files. -/
  disk : Disk
  /-- Whether the values of expression statements are printed. -/
  echo : Bool
  /-- What sorts long lists. -/
  sorter : Sorter

/-- A world without output. -/
def Host.start (input : Input) (disk : Disk) (echo : Bool) (sorter : Sorter) : Host :=
  { output := "", input, disk, echo, sorter }

/-- An operation on the world. -/
abbrev HostM := ExceptT Failure (StateM Host)

namespace HostM

/-- Fails with a fault. -/
def fault {α : Type} (cause : Fault) : HostM α :=
  throw (.fault cause)

/-- The result of an operation that does not touch the world. -/
def ofExcept {α : Type} : Except Fault α → HostM α
  | .ok value => pure value
  | .error cause => fault cause

/-- Prints a text. -/
def print (text : String) : HostM Unit :=
  modify fun host => { host with output := host.output ++ text }

/-- Keeps changed files. -/
def keepDisk (disk : Disk) : HostM Unit :=
  modify fun host => { host with disk }

/-- Sorts items, for the function of the given name. -/
def sort (function : String) (items : List Value) : HostM (List Value) := do
  match Value.sort (← get).sorter function items with
  | .ok sorted => return sorted
  | .error failure => throw failure

/-- Sorting leaves the world alone. -/
theorem sort_run (function : String) (items : List Value) (host : Host) :
    (sort function items).run.run host = (Value.sort host.sorter function items, host) := by
  have run : (sort function items).run.run host =
      (match Value.sort host.sorter function items with
      | .ok sorted => pure sorted
      | .error failure => throw failure : HostM (List Value)).run.run host := rfl
  rw [run]
  cases Value.sort host.sorter function items <;> rfl

/-- Reads a line of input without its end; there is nothing to read at the end of the input. -/
def readLine : HostM (Option String) := do
  let host ← get
  match host.input with
  | .closed => fault (.hosting .noInput)
  | .lines [] => return none
  | .lines (line :: rest) =>
    set { host with input := .lines rest }
    return some line
  | .stream bytes =>
    let (line, rest) := streamLine bytes
    set { host with input := .stream rest }
    match line with
    | .ok line => return line.map dropLineEnds
    | .error error => throw (.system error)

/-- A line of a stream is taken even if it is no text. -/
theorem readLine_run_stream (output : String) (bytes : List UInt8) (disk : Disk) (echo : Bool)
    (sorter : Sorter) :
    readLine.run.run ⟨output, .stream bytes, disk, echo, sorter⟩ =
      (((streamLine bytes).1.map (Option.map dropLineEnds)).mapError .system,
        ⟨output, .stream (streamLine bytes).2, disk, echo, sorter⟩) := by
  have run : readLine.run.run ⟨output, .stream bytes, disk, echo, sorter⟩ =
      (match (streamLine bytes).1 with
      | .ok line => pure (line.map dropLineEnds)
      | .error error => throw (.system error) : HostM (Option String)).run.run
        ⟨output, .stream (streamLine bytes).2, disk, echo, sorter⟩ := rfl
  rw [run]
  cases (streamLine bytes).1 <;> rfl

end HostM
end DotScript
