import DotScript.Source.Token
import DotScript.Text.Classes

/-!
# From source text to tokens

The source is cut into chunks from the left.  A chunk is a gap, which is one blank or a comment, or
the characters of one token.  Scanning never fails: characters without a use and strings without an
end become tokens of their own kinds.
-/

namespace DotScript
namespace Token

/-- What a chunk of source text means. -/
inductive Meaning
  /-- Nothing: a blank or a comment. -/
  | gap
  /-- A token of the given kind and text. -/
  | token (kind : Kind) (text : String)
deriving DecidableEq, Repr

/-- The first chunk of some source text. -/
structure Chunk where
  /-- What the chunk means. -/
  meaning : Meaning
  /-- The characters of the chunk. -/
  source : List Char
  /-- The characters after the chunk. -/
  rest : List Char
deriving DecidableEq, Repr

/-- A chunk that is a token whose text is its own source. -/
def Chunk.plain (kind : Kind) (source rest : List Char) : Chunk :=
  { meaning := .token kind (String.ofList source), source, rest }

/-- Whether a character may continue a name. -/
def continuesName (c : Char) : Bool :=
  Text.isAlphabetic c || Text.isNumeric c || c == '_'

/-- Whether a character may continue a run of digits. -/
def continuesDigits (c : Char) : Bool :=
  c.isDigit || c == '_'

/-- The word that starts with `c`. -/
def wordChunk (c : Char) (rest : List Char) : Chunk :=
  let source := c :: rest.takeWhile continuesName
  let word := String.ofList source
  { meaning := .token (Kind.ofWord word) word, source, rest := rest.dropWhile continuesName }

/-- A number token: its text leaves the underscores out. -/
def numberChunk (kind : Kind) (source rest : List Char) : Chunk :=
  { meaning := .token kind (String.ofList (source.filter (· != '_'))), source, rest }

/-- The number that starts with the digit or point `c`, with more digits before a point. -/
def numeralChunk (c : Char) (rest : List Char) : Chunk :=
  let whole := c :: rest.takeWhile continuesDigits
  match rest.dropWhile continuesDigits with
  | '.' :: d :: more =>
    if d.isDigit then
      numberChunk .float (whole ++ '.' :: (d :: more).takeWhile continuesDigits)
        ((d :: more).dropWhile continuesDigits)
    else
      numberChunk .int whole ('.' :: d :: more)
  | more => numberChunk .int whole more

/-- The number that starts with a point. -/
def pointChunk (rest : List Char) : Chunk :=
  numberChunk .float ('.' :: rest.takeWhile continuesDigits) (rest.dropWhile continuesDigits)

/-- The character that an escaped character stands for. -/
def unescape (c : Char) : Char :=
  if c = 'n' then '\n' else if c = 't' then '\t' else c

/-- The contents of a string up to its closing quote, their source including the quote, and the
characters after it; nothing if the quote does not come. -/
def closeString (quote : Char) : List Char → Option (List Char × List Char × List Char)
  | [] => none
  | c :: rest =>
    if c = quote then some ([], [c], rest)
    else if c = '\\' then
      match rest with
      | [] => none
      | e :: rest =>
        (closeString quote rest).map fun (contents, source, after) =>
          (unescape e :: contents, c :: e :: source, after)
    else
      (closeString quote rest).map fun (contents, source, after) =>
        (c :: contents, c :: source, after)

/-- The string that starts with a quote. -/
def stringChunk (quote : Char) (rest : List Char) : Chunk :=
  match closeString quote rest with
  | some (contents, source, after) =>
    { meaning := .token .string (String.ofList contents), source := quote :: source, rest := after }
  | none => .plain .unterminatedString (quote :: rest) []

/-- The rest of a block comment with its closing mark, and what follows it.  A comment that is not
closed takes all the source that is left. -/
def closeComment : List Char → List Char × List Char
  | [] => ([], [])
  | '<' :: '-' :: '-' :: rest => (['<', '-', '-'], rest)
  | c :: rest =>
    let (source, after) := closeComment rest
    (c :: source, after)

/-- The mark that starts with `c`; of two marks that fit, the longer one. -/
def markChunk (c : Char) (rest : List Char) : Chunk :=
  match c, rest with
  | '(', rest => .plain .parenOpen [c] rest
  | ')', rest => .plain .parenClose [c] rest
  | '\x7b', rest => .plain .braceOpen [c] rest
  | '\x7d', rest => .plain .braceClose [c] rest
  | '[', rest => .plain .bracketOpen [c] rest
  | ']', rest => .plain .bracketClose [c] rest
  | ',', rest => .plain .comma [c] rest
  | '.', rest => .plain .dot [c] rest
  | ':', rest => .plain .colon [c] rest
  | ';', rest => .plain .semicolon [c] rest
  | '@', rest => .plain .at [c] rest
  | '^', rest => .plain .caret [c] rest
  | '+', '=' :: rest => .plain .plusAssign [c, '='] rest
  | '+', '+' :: rest => .plain .plusPlus [c, '+'] rest
  | '+', rest => .plain .plus [c] rest
  | '-', '=' :: rest => .plain .minusAssign [c, '='] rest
  | '-', '-' :: rest => .plain .minusMinus [c, '-'] rest
  | '-', rest => .plain .minus [c] rest
  | '*', '=' :: rest => .plain .starAssign [c, '='] rest
  | '*', rest => .plain .star [c] rest
  | '/', '=' :: rest => .plain .slashAssign [c, '='] rest
  | '/', rest => .plain .slash [c] rest
  | '%', '=' :: rest => .plain .percentAssign [c, '='] rest
  | '%', rest => .plain .percent [c] rest
  | '=', '=' :: rest => .plain .equalEqual [c, '='] rest
  | '=', rest => .plain .assign [c] rest
  | '!', '=' :: rest => .plain .bangEqual [c, '='] rest
  | '!', rest => .plain .not [c] rest
  | '&', '&' :: rest => .plain .and [c, '&'] rest
  | '|', '|' :: rest => .plain .or [c, '|'] rest
  | '<', '=' :: rest => .plain .lessEqual [c, '='] rest
  | '<', rest => .plain .less [c] rest
  | '>', '=' :: rest => .plain .greaterEqual [c, '='] rest
  | '>', rest => .plain .greater [c] rest
  | _, rest => .plain .unknown [c] rest

/-- Whether a number may start with the point before these characters. -/
def startsDigits (rest : List Char) : Bool :=
  match rest with
  | [] => false
  | d :: _ => d.isDigit

/-- The token that starts with `c`.  After an operand a point never starts a number. -/
def tokenChunk (afterOperand : Bool) (c : Char) (rest : List Char) : Chunk :=
  if Text.isAlphabetic c || c == '_' then wordChunk c rest
  else if c.isDigit then numeralChunk c rest
  else if c == '.' && startsDigits rest && !afterOperand then pointChunk rest
  else if c == '"' || c == '\'' then stringChunk c rest
  else markChunk c rest

/-- A gap in the source. -/
def Chunk.skip (source rest : List Char) : Chunk :=
  { meaning := .gap, source, rest }

/-- The first chunk of the source text that starts with `c`. -/
def firstChunk (afterOperand : Bool) (c : Char) (rest : List Char) : Chunk :=
  if Text.isBlank c then .skip [c] rest
  else if c = '#' then .skip (c :: rest.takeWhile (· != '\n')) (rest.dropWhile (· != '\n'))
  else
    match c, rest with
    | '-', '-' :: '>' :: more =>
      let (source, after) := closeComment more
      .skip ('-' :: '-' :: '>' :: source) after
    | _, _ => tokenChunk afterOperand c rest

/-- The tokens of the source text from some place on, cutting off at most `limit` chunks.  As every
chunk takes a character, the number of characters is enough. -/
def scanFrom : Nat → Bool → Place → List Char → List Token
  | _, _, place, [] => [finishAt place]
  | 0, _, place, _ :: _ => [finishAt place]
  | limit + 1, afterOperand, place, c :: rest =>
    let chunk := firstChunk afterOperand c rest
    let next := place.after chunk.source
    match chunk.meaning with
    | .gap => scanFrom limit afterOperand next chunk.rest
    | .token kind text =>
      { kind, text, span := place.span next } :: scanFrom limit kind.endsOperand next chunk.rest

/-- The tokens of characters. -/
def scanChars (source : List Char) : List Token :=
  scanFrom source.length false .start source

/-- The tokens of a source text, the last of which marks its end. -/
def scan (source : String) : List Token :=
  scanChars source.toList

end Token
end DotScript
