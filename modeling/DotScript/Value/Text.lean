import DotScript.Number.FloatText
import DotScript.Value.Basic

/-!
# Values as text

A value has two texts: the one that is printed, and the one that shows it as it would be written in
a program.  They differ for strings only, which the second puts in quotes; inside lists and sets
strings are always quoted.
-/

namespace DotScript
namespace Value

/-- How a character of a string is written between quotes. -/
def escape (c : Char) : List Char :=
  if c = '"' then ['\\', '"']
  else if c = '\\' then ['\\', '\\']
  else if c = '\n' then ['\\', 'n']
  else if c = '\t' then ['\\', 't']
  else [c]

/-- A string in quotes. -/
def quote (text : String) : String :=
  String.ofList ('"' :: text.toList.flatMap escape ++ ['"'])

/-- Texts with commas between them. -/
def commaSeparated : List String → String
  | [] => ""
  | first :: rest => rest.foldl (fun text item => text ++ ", " ++ item) first

mutual

/-- The text of a value, with quotes around a string or without. -/
def render (quoted : Bool) : Value → String
  | .none => "None"
  | .bool value => if value then "True" else "False"
  | .int value => value.write
  | .float value => FloatText.write value
  | .string value => if quoted then quote value else value
  | .list items => "[" ++ commaSeparated (renderItems items) ++ "]"
  | .set items => "\x7b" ++ commaSeparated (renderItems items) ++ "\x7d"
  | .function functions => "<fn " ++ functions.name ++ ">"

/-- The texts of the items of a list or a set. -/
def renderItems : List Value → List String
  | [] => []
  | item :: rest => render true item :: renderItems rest

end

/-- The text of a value as it is printed. -/
def display (value : Value) : String :=
  value.render false

/-- The text of a value as it would be written in a program. -/
def repr (value : Value) : String :=
  value.render true

end Value
end DotScript
