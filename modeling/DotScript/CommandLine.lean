import DotScript.CommandLine.Help
import DotScript.Kernel.Serve
import DotScript.Prompt
import DotScript.Session

/-!
# The command line

Without arguments the prompt runs, and with a file name the script in the file.  If the first
argument is a verb, the others are for the verb.
-/

namespace DotScript
namespace CommandLine

/-- What the program is asked to do. -/
inductive Command
  /-- Run the script in a file; `-` stands for the input. -/
  | script (path : String)
  | prompt
  | eval (source : String)
  | kernel
  | version
  /-- Explain a verb, or else the whole program. -/
  | help (topic : Option Verb)
deriving DecidableEq, Repr

/-- Whether an argument is an option: it starts with a dash and is not the dash alone. -/
def isOption (arg : String) : Bool :=
  match arg.toList with
  | '-' :: _ :: _ => true
  | _ => false

/-- Whether an option asks for help. -/
def asksHelp (arg : String) : Bool :=
  arg == "--help" || ['-', 'h'].isPrefixOf arg.toList

/-- Whether an option asks for the version. -/
def asksVersion (arg : String) : Bool :=
  arg == "--version" || ['-', 'V'].isPrefixOf arg.toList

/-- The command to run the script in a file, which has to have a name. -/
def scriptNamed (path : String) : Option Command :=
  if path = "" then none else some (.script path)

/-- The arguments of a verb that takes one value, which `accept` turns into a command; `command` is
the one so far.  After `--` no argument is an option. -/
def oneValue (verb : Verb) (accept : String → Option Command) (command : Option Command)
    (literal : Bool) : List String → Option Command
  | [] => command
  | arg :: rest =>
    if !literal && arg == "--" then oneValue verb accept command true rest
    else if !literal && isOption arg then if asksHelp arg then some (.help (some verb)) else none
    else
      match command, accept arg with
      | none, some accepted => oneValue verb accept (some accepted) literal rest
      | _, _ => none

/-- The arguments of a verb that takes no value. -/
def noValue (verb : Verb) (command : Command) : List String → Option Command
  | [] => some command
  | arg :: rest =>
    if arg == "--" then if rest.isEmpty then some command else none
    else if isOption arg && asksHelp arg then some (.help (some verb))
    else none

/-- The arguments of the verb for help: at most one verb. -/
def helpArguments : List String → Option Command
  | [] => some (.help none)
  | [name] => (Verb.ofName? name).map fun verb => .help (some verb)
  | _ => none

/-- The command that a verb and the arguments after it make. -/
def Verb.command? (verb : Verb) (rest : List String) : Option Command :=
  match verb with
  | .run => oneValue .run scriptNamed none false rest
  | .repl => noValue .repl .prompt rest
  | .eval => oneValue .eval (fun source => some (.eval source)) none false rest
  | .kernel => noValue .kernel .kernel rest
  | .help => helpArguments rest

/-- The arguments without a verb: at most one file name. -/
def fileArguments (path : Option String) (literal : Bool) : List String → Option Command
  | [] => some ((path.map Command.script).getD .prompt)
  | arg :: rest =>
    if !literal && arg == "--" then fileArguments path true rest
    else if !literal && isOption arg then
      if asksHelp arg then some (.help none) else if asksVersion arg then some .version else none
    else if path.isSome || arg = "" then none
    else fileArguments (some arg) literal rest

/-- What the arguments ask for; nothing if they make no sense. -/
def parse (args : List String) : Option Command :=
  match args with
  | [] => some .prompt
  | first :: rest =>
    match Verb.ofName? first with
    | some verb => verb.command? rest
    | none => fileArguments none false args

/-- What is left when the program ends. -/
structure Outcome where
  /-- Everything printed. -/
  output : String
  /-- What is printed beside the output about a failure outside the program. -/
  errors : List String
  /-- The exit code. -/
  code : Nat
  /-- The files. -/
  disk : Disk

/-- The name and version of the program. -/
def versionText : String := programName ++ " 0.3.0\n"

/-- What the program is built with. -/
structure Library where
  /-- What sorts long lists. -/
  sorter : Sorter
  /-- How the kernel reads and writes its lines. -/
  codec : Kernel.Codec

/-- The exit code of a program that breaks off. -/
def brokenCode : Nat := 101

/-- The end after a halt.  A program that is left unfinished says nothing about it in its output. -/
def halted (output : String) (halt : Halt) (disk : Disk) : Outcome :=
  match halt with
  | .unfinished _ => { output, errors := [], code := brokenCode, disk }
  | halt => { output, errors := ["Error: " ++ halt.text], code := 1, disk }

/-- Runs a script on a new machine. -/
def runScript (library : Library) (turns : Nat) (source : String) (input : List UInt8)
    (disk : Disk) : Outcome :=
  let machine := Machine.start (.start (.stream input) disk true library.sorter)
  match (Script.run turns source).run.run machine with
  | (.ok summary, machine) =>
    { output := machine.host.output, errors := [], code := if summary.succeeded then 0 else 1,
      disk := machine.host.disk }
  | (.error halt, machine) => halted machine.host.output halt machine.host.disk

/-- Runs the script in a file, or in the input. -/
def runFile (library : Library) (turns : Nat) (path : String) (input : List UInt8)
    (disk : Disk) : Outcome :=
  let (source, input) :=
    if path = "-" then (textOfBytes input, []) else (disk.readText path, input)
  match source with
  | .ok source => runScript library turns source input disk
  | .error error => halted "" (.system error) disk

/-- Runs the prompt. -/
def runPrompt (library : Library) (turns : Nat) (input : List UInt8) (disk : Disk) : Outcome :=
  match Prompt.run turns (.start (.start (.stream input) disk true library.sorter)) with
  | (none, machine) =>
    { output := machine.host.output, errors := [], code := 0, disk := machine.host.disk }
  | (some halt, machine) => halted machine.host.output halt machine.host.disk

/-- Serves the kernel on the input. -/
def runKernel (library : Library) (turns : Nat) (input : List UInt8) (disk : Disk) : Outcome :=
  let transcript := Kernel.serve library.codec turns disk library.sorter input
  let disk := transcript.session.machine.host.disk
  let output := String.join
    (transcript.responses.map fun response => response.line library.codec ++ "\n")
  match transcript.ending with
  | .closed | .stopped => { output, errors := [], code := 0, disk }
  | .unreadable error => halted output (.system error) disk
  | .lost cause => halted output (.unfinished cause) disk

/-- Does what the program is asked to do. -/
def Command.run (library : Library) (turns : Nat) (input : List UInt8) (disk : Disk) :
    Command → Outcome
  | .script path => runFile library turns path input disk
  | .prompt => runPrompt library turns input disk
  | .eval source => runScript library turns source input disk
  | .kernel => runKernel library turns input disk
  | .version => { output := versionText, errors := [], code := 0, disk }
  | .help topic => { output := (Page.about topic).text, errors := [], code := 0, disk }

/-- Runs the program with some arguments.  Arguments that make no sense end it with code 2. -/
def run (library : Library) (turns : Nat) (args : List String) (input : List UInt8) (disk : Disk) :
    Outcome :=
  match parse args with
  | some command => command.run library turns input disk
  | none => { output := "", errors := [], code := 2, disk }

end CommandLine
end DotScript
