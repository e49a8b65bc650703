import DotScript.Fault.Diagnostic
import DotScript.Source.Token

/-!
# Reading a token list

A parser moves a cursor over a token list and either produces a result or complains.  The cursor
never moves past the token that ends the list.  Loops are driven by `whileSome`: every turn but the
last takes a token, so the tokens that are left bound the number of turns.
-/

namespace DotScript

/-- A place in a token list. -/
structure Cursor where
  /-- The token just before the cursor. -/
  previous : Option Token
  /-- The tokens after the cursor, without the one that ends the list. -/
  rest : List Token
  /-- The token that ends the list. -/
  finish : Token

namespace Cursor

/-- The next token. -/
def peek (cursor : Cursor) : Token :=
  cursor.rest.headD cursor.finish

/-- The token after the next one. -/
def peekNext (cursor : Cursor) : Token :=
  cursor.rest.tail.headD cursor.finish

/-- Whether no token is left. -/
def atEnd (cursor : Cursor) : Bool :=
  cursor.rest.isEmpty

end Cursor

/-- A parser: moves the cursor and produces a result, or complains. -/
abbrev Parser := StateT Cursor (Except Diagnostic)

namespace Parser

/-- Complains about a token. -/
def complain {α : Type} (token : Token) (fault : SyntaxFault) : Parser α :=
  throw { fault := .malformed fault, span := token.span }

/-- The complaint about a token in place of what the grammar asks for.  Tokens that belong to no
program are named as such. -/
def unexpected (wanted : Wanted) (token : Token) : SyntaxFault :=
  match token.kind with
  | .unterminatedString => .unterminatedString
  | .unknown => .strayCharacter token.text
  | _ => .expected wanted token.describe

/-- Complains that the next token is not what the grammar asks for. -/
def refuse {α : Type} (wanted : Wanted) : Parser α := do
  let token := (← get).peek
  complain token (unexpected wanted token)

/-- The next token, which is not taken. -/
def peek : Parser Token := do
  return (← get).peek

/-- The kind of the next token. -/
def peekKind : Parser Token.Kind := do
  return (← get).peek.kind

/-- The kind of the token after the next one. -/
def peekNextKind : Parser Token.Kind := do
  return (← get).peekNext.kind

/-- Takes the next token.  At the end of the list the cursor stays where it is. -/
def advance : Parser Token := do
  let cursor ← get
  match cursor.rest with
  | [] => return cursor.finish
  | token :: rest =>
    set { cursor with previous := some token, rest }
    return token

/-- Takes the next token if it is of the given kind, and tells whether it was. -/
def accept (kind : Token.Kind) : Parser Bool := do
  if (← peekKind) = kind then
    let _ ← advance
    return true
  else
    return false

/-- Takes the next token, which has to be of the given kind. -/
def expect (kind : Token.Kind) (wanted : Wanted) : Parser Token := do
  if (← peekKind) = kind then advance else refuse wanted

/-- Takes a keyword. -/
def expectKeyword (word : Keyword) : Parser Token :=
  expect (.keyword word) (.keyword word)

/-- Takes a name. -/
def expectName (role : String) : Parser Token :=
  expect .identifier (.name role)

/-- Takes one turn of a loop: goes on with `next` if `step` answers with something. -/
def turn {α : Type} (step : α → Parser (Option α)) (next : α → Parser α) (state : α) :
    Parser α := do
  match ← step state with
  | none => pure state
  | some state => next state

/-- Repeats `step` from `state` on until it answers with nothing, at most once for each of the given
tokens and once more. -/
def repeatAlong {α : Type} (step : α → Parser (Option α)) : List Token → α → Parser α
  | [], state => turn step pure state
  | _ :: tokens, state => turn step (repeatAlong step tokens) state

/-- Repeats `step` until it answers with nothing.  A step that answers with something takes a token
at least. -/
def whileSome {α : Type} (step : α → Parser (Option α)) (state : α) : Parser α := do
  repeatAlong step (← get).rest state

/-- One or more items with commas between them.  An item may depend on the items before it, which it
is given in reverse. -/
def separated {α : Type} (item : List α → Parser α) : Parser (List α) := do
  let first ← item []
  let items ← whileSome
    (fun items => do
      if ← accept .comma then return some ((← item items) :: items) else return none)
    [first]
  return items.reverse

end Parser
end DotScript
