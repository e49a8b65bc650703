/-!
# Spans and tokens

A source text is a list of tokens, each with the stretch of text that it was written at.
-/

namespace DotScript

/-! ## Places and spans

Offsets count the bytes of the UTF-8 form of the source text, and lines are counted from one. -/

/-- A stretch of source text. -/
structure Span where
  /-- Offset of the first byte. -/
  start : Nat
  /-- Offset just after the last byte. -/
  stop : Nat
  /-- Line of the first byte. -/
  line : Nat
deriving DecidableEq, Repr, Inhabited

/-- The span from the start of one span to the end of the one that reaches further. -/
def Span.to (first last : Span) : Span :=
  { start := first.start, stop := max last.stop first.stop, line := first.line }

/-- A place between two characters of the source text. -/
structure Place where
  /-- Number of bytes before the place. -/
  offset : Nat
  /-- One more than the number of line feeds before the place. -/
  line : Nat
deriving DecidableEq, Repr

namespace Place

/-- The place before the first character. -/
def start : Place := { offset := 0, line := 1 }

/-- The place after one more character. -/
def next (place : Place) (c : Char) : Place where
  offset := place.offset + c.utf8Size
  line := if c = '\n' then place.line + 1 else place.line

/-- The place after some more characters. -/
def after (place : Place) (text : List Char) : Place :=
  text.foldl next place

/-- The span from one place to a later one. -/
def span (first last : Place) : Span :=
  { start := first.offset, stop := last.offset, line := first.line }

end Place

/-! ## Tokens

The words and marks of the language.  Every token knows the text it stands for and where it was
written. -/

/-- The reserved words, apart from the three logical operators. -/
inductive Keyword
  | var | letWord | be | function | give
  | ifWord | elif | elseWord | whileWord | forWord | inWord
  | range | fromWord | to | step
  | pass | is | of | points
  | trueWord | falseWord | noneWord
deriving DecidableEq, Repr

namespace Keyword

/-- How a keyword is written. -/
def text : Keyword → String
  | .var => "var"
  | .letWord => "let"
  | .be => "be"
  | .function => "fn"
  | .give => "give"
  | .ifWord => "if"
  | .elif => "elif"
  | .elseWord => "else"
  | .whileWord => "while"
  | .forWord => "for"
  | .inWord => "in"
  | .range => "range"
  | .fromWord => "from"
  | .to => "to"
  | .step => "step"
  | .pass => "pass"
  | .is => "is"
  | .of => "of"
  | .points => "points"
  | .trueWord => "True"
  | .falseWord => "False"
  | .noneWord => "None"

/-- Every keyword once. -/
def all : List Keyword :=
  [.var, .letWord, .be, .function, .give, .ifWord, .elif, .elseWord, .whileWord, .forWord, .inWord,
   .range, .fromWord, .to, .step, .pass, .is, .of, .points, .trueWord, .falseWord, .noneWord]

/-- The keyword that is written so. -/
def ofText? (text : String) : Option Keyword :=
  all.find? (·.text == text)

/-- A keyword is found again from how it is written. -/
theorem ofText?_text (keyword : Keyword) : ofText? keyword.text = some keyword := by
  cases keyword <;> decide

end Keyword

namespace Token

/-- What a token is. -/
inductive Kind
  | identifier | int | float | string
  | keyword (word : Keyword)
  | parenOpen | parenClose | braceOpen | braceClose | bracketOpen | bracketClose
  | comma | dot | colon | semicolon | at
  | assign | plusAssign | minusAssign | starAssign | slashAssign | percentAssign
  | plusPlus | minusMinus
  | plus | minus | star | slash | percent | caret
  /-- Written `and` or `&&`. -/
  | and
  /-- Written `or` or `||`. -/
  | or
  /-- Written `not` or `!`. -/
  | not
  | equalEqual | bangEqual | less | lessEqual | greater | greaterEqual
  /-- A string that reaches the end of the source before its closing quote. -/
  | unterminatedString
  /-- A character the language has no use for. -/
  | unknown
  /-- The end of the source. -/
  | finish
deriving DecidableEq, Repr

namespace Kind

/-- Whether a point that follows directly ends a statement even if a digit comes next. -/
def endsOperand : Kind → Bool
  | .identifier | .int | .float | .string => true
  | .parenClose | .bracketClose | .braceClose => true
  | .keyword .trueWord | .keyword .falseWord | .keyword .noneWord => true
  | _ => false

/-- The kind of a word: a logical operator, a keyword or a name. -/
def ofWord (word : String) : Kind :=
  if word = "and" then .and
  else if word = "or" then .or
  else if word = "not" then .not
  else
    match Keyword.ofText? word with
    | some reserved => .keyword reserved
    | none => .identifier

end Kind
end Token

/-- A token of the source text. -/
structure Token where
  /-- What the token is. -/
  kind : Token.Kind
  /-- The text as written, without underscores for a number and without quotes and escapes for a
  string. -/
  text : String
  /-- Where the token was written. -/
  span : Span
deriving DecidableEq, Repr

namespace Token

/-- The token that ends every token list. -/
def finishAt (place : Place) : Token :=
  { kind := .finish, text := "", span := place.span place }

/-- How complaints name a token. -/
def describe (token : Token) : String :=
  match token.kind with
  | .finish => "end of input"
  | .string => "string \"" ++ token.text ++ "\""
  | .unterminatedString => "unterminated string literal"
  | _ => "`" ++ token.text ++ "`"

end Token

end DotScript
