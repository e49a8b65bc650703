import DotScript.Parser.Statement
import DotScript.Source.Scan

/-!
# Parsing programs

The parsers of the grammar are tied together level by level: with no level left everything nested
is refused, and with one more level it is parsed by the rules, which find the levels below it in the
grammar they are given.
-/

namespace DotScript
namespace Parser

/-- Complains about code that is nested too deeply. -/
def tooDeep {α : Type} : Parser α := do
  complain (← get).peek .tooDeep

/-- The grammar one level above another one. -/
def Grammar.above (below : Grammar) : Grammar where
  expression := Parser.expression below
  power := Parser.power below
  unary := Parser.unary below
  statement := Parser.statement below

/-- The grammar with a number of levels left. -/
def grammar : Nat → Grammar
  | 0 => { expression := tooDeep, power := tooDeep, unary := tooDeep, statement := tooDeep }
  | levels + 1 => (grammar levels).above

/-- All statements up to the end of the token list. -/
def statements (rules : Grammar) : Parser Program := do
  let stmts ← whileSome
    (fun stmts => do
      if (← get).atEnd then return none else return some ((← rules.statement) :: stmts))
    []
  return stmts.reverse

end Parser

namespace Cursor

/-- The token that ends a token list: the one in the list, or else one right after its last
token. -/
def finishOf (tokens : List Token) : Token :=
  match tokens.find? (·.kind = .finish) with
  | some token => token
  | none =>
    match tokens.getLast? with
    | some last => Token.finishAt { offset := last.span.stop, line := max last.span.line 1 }
    | none => Token.finishAt .start

/-- The start of a token list. -/
def ofTokens (tokens : List Token) : Cursor where
  previous := none
  rest := tokens.takeWhile (·.kind ≠ .finish)
  finish := finishOf tokens

end Cursor

namespace Program

/-- Parses a token list. -/
def ofTokens (tokens : List Token) : Except Diagnostic Program :=
  ((Parser.statements (Parser.grammar maxNesting)).run (.ofTokens tokens)).map (·.1)

/-- Parses a source text. -/
def parse (source : String) : Except Diagnostic Program :=
  ofTokens (Token.scan source)

/-- Whether a source text fails to parse only because it stops too early: the complaint is about its
end. -/
def awaitsMore (source : String) : Bool :=
  match parse source with
  | .ok _ => false
  | .error diagnostic => source.utf8ByteSize ≤ diagnostic.span.start

end Program
end DotScript
