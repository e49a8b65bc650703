/-!
# Help pages

The verbs that name what the program is asked to do, and the pages that explain them.  A page says
what it is about and how to ask for it, and then lists things in sections; in a section the
explanations stand below one another.
-/

namespace DotScript
namespace CommandLine

/-- The words that may come first among the arguments. -/
inductive Verb
  | run | repl | eval | kernel | help
deriving DecidableEq, Repr

namespace Verb

/-- Every verb once, in the order in which they are explained. -/
def all : List Verb :=
  [.run, .repl, .eval, .kernel, .help]

/-- How a verb is written. -/
def name : Verb → String
  | .run => "run"
  | .repl => "repl"
  | .eval => "eval"
  | .kernel => "kernel"
  | .help => "help"

/-- The verb that is written so. -/
def ofName? (name : String) : Option Verb :=
  all.find? (·.name == name)

/-- What a verb is for. -/
def summary : Verb → String
  | .run => "Run a ScriptIt script file (`-` reads stdin)"
  | .repl => "Start an interactive REPL session"
  | .eval => "Evaluate a snippet of ScriptIt code"
  | .kernel => "Serve the JSON line protocol on stdin/stdout"
  | .help => "Print this message or the help of the given subcommand(s)"

/-- The argument that a verb takes and what is said about it. -/
def argument? : Verb → Option (String × String)
  | .run => some ("<SCRIPT>", "")
  | .eval => some ("<SOURCE>", "")
  | .help => some ("[COMMAND]...", "Print help for the subcommand(s)")
  | .repl | .kernel => none

end Verb

/-- Things and what is said about them, under a title. -/
structure Section where
  /-- The title of the section. -/
  title : String
  /-- The things and what is said about them. -/
  rows : List (String × String)
deriving DecidableEq, Repr

namespace Section

/-- The length of the longest thing. -/
def width (list : Section) : Nat :=
  list.rows.foldl (fun width (label, _) => max width label.length) 0

/-- A row whose explanation starts after `width` characters and two blanks. -/
def rowText (width : Nat) (label text : String) : String :=
  "  " ++ label ++ String.ofList (List.replicate (width - label.length + 2) ' ') ++ text

/-- The lines of a section. -/
def text (list : Section) : String :=
  "\n".intercalate
    ((list.title ++ ":") :: list.rows.map fun (label, text) => rowText list.width label text)

end Section

/-- A page of help. -/
structure Page where
  /-- What the page is about. -/
  summary : String
  /-- The ways to write the arguments, without the name of the program. -/
  usage : List String
  /-- What is listed; a section without rows is left out. -/
  sections : List Section
deriving DecidableEq, Repr

/-- The name of the program. -/
def programName : String := "scriptit"

namespace Page

/-- The lines on the ways to write the arguments. -/
def usageText (page : Page) : String :=
  "Usage: " ++ "\n       ".intercalate (page.usage.map fun usage => programName ++ " " ++ usage)

/-- The text of a page, with an empty line between its parts. -/
def text (page : Page) : String :=
  let listed := page.sections.filter fun list => !list.rows.isEmpty
  "\n\n".intercalate (page.summary :: page.usageText :: listed.map Section.text) ++ "\n"

/-- The page on a verb.  The verb for help itself takes no options. -/
def ofVerb (verb : Verb) : Page where
  summary := verb.summary
  usage := [" ".intercalate (verb.name :: verb.argument?.toList.map (·.1))]
  sections :=
    [{ title := "Arguments", rows := verb.argument?.toList },
     { title := "Options", rows := if verb = .help then [] else [("-h, --help", "Print help")] }]

/-- The page on the whole program. -/
def overview : Page where
  summary := "ScriptIt language interpreter"
  usage := ["[SCRIPT]", "<COMMAND>"]
  sections :=
    [{ title := "Commands", rows := Verb.all.map fun verb => (verb.name, verb.summary) },
     { title := "Arguments", rows := [("[SCRIPT]", "Script to run; starts the REPL when omitted")] },
     { title := "Options",
       rows := [("-h, --help", "Print help"), ("-V, --version", "Print version")] }]

/-- The page on a verb, or else on the whole program. -/
def about (topic : Option Verb) : Page :=
  (topic.map ofVerb).getD overview

end Page
end CommandLine
end DotScript
