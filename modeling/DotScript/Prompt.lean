import DotScript.Run.Execute
import DotScript.Text.Pieces

/-!
# The prompt

Lines are run as they come.  A line that leaves a block open waits for more lines, until the block
is closed or an empty line comes.  Some words are commands when nothing is waiting.  The lines and
the input of the program come from one stream.
-/

namespace DotScript

/-- A prompt. -/
structure Prompt where
  /-- The machine that the lines run on. -/
  machine : Machine
  /-- The lines that wait for more. -/
  pending : String

namespace Prompt

/-- The characters that clear the screen. -/
def clearScreen : String := "\x1b[2J\x1b[H"

/-- What a line leads to. -/
inductive Step
  /-- More lines. -/
  | more (prompt : Prompt)
  /-- The end. -/
  | done (machine : Machine)
  /-- The end, for a reason outside the program. -/
  | halted (halt : Halt) (machine : Machine)

/-- Prints a text. -/
def print (text : String) (machine : Machine) : Machine :=
  ((Run.print text).run.run machine).2

/-- Runs a source text; faults of the program are printed. -/
def evalLine (turns : Nat) (source : String) : Run Unit := do
  match ← Run.attempt (Run.evalSource turns source) with
  | .ok _ => return ()
  | .error diagnostic => Run.report diagnostic

/-- Runs what is waiting. -/
def runPending (turns : Nat) (source : String) (machine : Machine) : Step :=
  match (evalLine turns source).run.run machine with
  | (.ok (), machine) => .more { machine, pending := "" }
  | (.error halt, machine) => .halted halt machine

/-- Takes a line of code. -/
def feedCode (turns : Nat) (line : String) (blank : Bool) (prompt : Prompt) : Step :=
  let pending := if prompt.pending.isEmpty then line else prompt.pending ++ "\n" ++ line
  if !blank && Program.awaitsMore pending then .more { prompt with pending }
  else runPending turns pending prompt.machine

/-- Takes a line. -/
def feed (turns : Nat) (line : String) (prompt : Prompt) : Step :=
  let trimmed := String.ofList (Text.trim line.toList)
  if prompt.pending.isEmpty then
    if trimmed = "" then .more prompt
    else if trimmed = "exit" then .done prompt.machine
    else if trimmed = "clear" then
      .more { prompt with machine := print clearScreen prompt.machine }
    else if trimmed = "wipe" then
      .more { prompt with machine := (print clearScreen prompt.machine).reset }
    else feedCode turns line false prompt
  else feedCode turns line trimmed.isEmpty prompt

/-- The next line of the stream and the machine without it. -/
def takeLine (machine : Machine) : Except SystemError (Option String) × Machine :=
  match machine.host.input with
  | .stream bytes =>
    let (line, rest) := streamLine bytes
    (line.map (·.map dropLineEnd),
      { machine with host := { machine.host with input := .stream rest } })
  | _ => (.ok none, machine)

/-- Takes lines until the end, at most `limit` of them. -/
def loop (turns : Nat) : Nat → Prompt → Option Halt × Machine
  | 0, prompt => (none, prompt.machine)
  | limit + 1, prompt =>
    match takeLine prompt.machine with
    | (.error error, machine) => (some (.system error), machine)
    | (.ok none, machine) => (none, machine)
    | (.ok (some line), machine) =>
      match feed turns line { prompt with machine } with
      | .more prompt => loop turns limit prompt
      | .done machine => (none, machine)
      | .halted halt machine => (some halt, machine)

/-- The number of bytes that are left to read, which bounds the number of lines. -/
def remaining (machine : Machine) : Nat :=
  match machine.host.input with
  | .stream bytes => bytes.length
  | _ => 0

/-- Runs the prompt on the stream of a machine; also gives the reason if it ended for one outside
the program. -/
def run (turns : Nat) (machine : Machine) : Option Halt × Machine :=
  loop turns (remaining machine + 1) { machine, pending := "" }

end Prompt
end DotScript
