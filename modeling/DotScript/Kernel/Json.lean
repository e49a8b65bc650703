import DotScript.Kernel.Codec
import DotScript.Number.IntegerText

/-!
# JSON

A codec.  A reader takes characters from the front and gives what is left, or nothing if the text is
not JSON.  Values that nobody asks for are skipped: they only have to be well formed, so their strings
may escape half of a surrogate pair.
-/

namespace DotScript
namespace Json

/-! ## Strings and what is skipped -/

/-- Whether a character may stand between the parts of a JSON text. -/
def isSpace (c : Char) : Bool :=
  c == ' ' || c == '\n' || c == '\t' || c == '\r'

/-- The characters after white space. -/
def skipSpace (text : List Char) : List Char :=
  text.dropWhile isSpace

/-- The value of a hexadecimal digit. -/
def hexDigit? (c : Char) : Option Nat :=
  if c.isDigit then some (c.toNat - '0'.toNat)
  else if 'a' ≤ c && c ≤ 'f' then some (c.toNat - 'a'.toNat + 10)
  else if 'A' ≤ c && c ≤ 'F' then some (c.toNat - 'A'.toNat + 10)
  else none

/-- The number that four hexadecimal digits denote. -/
def readHex : List Char → Option (Nat × List Char)
  | a :: b :: c :: d :: rest => do
    let a ← hexDigit? a
    let b ← hexDigit? b
    let c ← hexDigit? c
    let d ← hexDigit? d
    return (((a * 16 + b) * 16 + c) * 16 + d, rest)
  | _ => none

/-- The character that a short escape stands for. -/
def shortEscape? (c : Char) : Option Char :=
  match c with
  | '"' => some '"'
  | '\\' => some '\\'
  | '/' => some '/'
  | 'b' => some '\x08'
  | 'f' => some '\x0c'
  | 'n' => some '\n'
  | 'r' => some '\r'
  | 't' => some '\t'
  | _ => none

/-- Whether a number is the first half of a surrogate pair. -/
def isHighSurrogate (code : Nat) : Bool :=
  0xD800 ≤ code && code < 0xDC00

/-- Whether a number is the second half of a surrogate pair. -/
def isLowSurrogate (code : Nat) : Bool :=
  0xDC00 ≤ code && code < 0xE000

/-- The character that one or two escaped numbers denote. -/
def readCodePoint (text : List Char) : Option (Char × List Char) := do
  let (first, rest) ← readHex text
  if isHighSurrogate first then
    match rest with
    | '\\' :: 'u' :: rest =>
      let (second, rest) ← readHex rest
      if isLowSurrogate second then
        some (Char.ofNat (0x10000 + (first - 0xD800) * 0x400 + (second - 0xDC00)), rest)
      else none
    | _ => none
  else if isLowSurrogate first then none
  else some (Char.ofNat first, rest)

/-- The character after a backslash. -/
def readEscape : List Char → Option (Char × List Char)
  | [] => none
  | c :: rest =>
    if c = 'u' then readCodePoint rest else (shortEscape? c).map fun meant => (meant, rest)

/-- Whether a character may stand in a string as it is. -/
def isPlain (c : Char) : Bool :=
  0x20 ≤ c.toNat

/-- Reads a string after its opening quote, taking at most `limit` characters; those read so far are
in reverse. -/
def readStringFrom : Nat → List Char → List Char → Option (String × List Char)
  | 0, _, _ => none
  | _, _, [] => none
  | limit + 1, done, c :: rest =>
    if c = '"' then some (String.ofList done.reverse, rest)
    else if c = '\\' then do
      let (meant, rest) ← readEscape rest
      readStringFrom limit (meant :: done) rest
    else if isPlain c then readStringFrom limit (c :: done) rest
    else none

/-- Reads a string. -/
def readString : List Char → Option (String × List Char)
  | '"' :: rest => readStringFrom (rest.length + 1) [] rest
  | _ => none

/-- Skips a string after its opening quote. -/
def skipStringFrom : List Char → Option (List Char)
  | [] => none
  | '"' :: rest => some rest
  | '\\' :: 'u' :: a :: b :: c :: d :: rest =>
    if [a, b, c, d].all fun digit => (hexDigit? digit).isSome then skipStringFrom rest else none
  | '\\' :: c :: rest => if (shortEscape? c).isSome then skipStringFrom rest else none
  | c :: rest => if isPlain c then skipStringFrom rest else none

/-- Skips one digit or more. -/
def skipDigits (text : List Char) : Option (List Char) :=
  match text with
  | [] => none
  | c :: _ => if c.isDigit then some (text.dropWhile Char.isDigit) else none

/-- Skips the fraction of a number, if there is one. -/
def skipFraction : List Char → Option (List Char)
  | '.' :: rest => skipDigits rest
  | rest => some rest

/-- Skips the digits of an exponent with an optional sign. -/
def skipSigned : List Char → Option (List Char)
  | '+' :: rest => skipDigits rest
  | '-' :: rest => skipDigits rest
  | rest => skipDigits rest

/-- Skips the exponent of a number, if there is one. -/
def skipExponent : List Char → Option (List Char)
  | 'e' :: rest => skipSigned rest
  | 'E' :: rest => skipSigned rest
  | rest => some rest

/-- Skips the digits before the fraction of a number: a zero, or digits that do not start with
one. -/
def skipWhole : List Char → Option (List Char)
  | '0' :: c :: rest => if c.isDigit then none else some (c :: rest)
  | text => skipDigits text

/-- Skips a number. -/
def skipNumber (text : List Char) : Option (List Char) := do
  let text := match text with
    | '-' :: rest => rest
    | text => text
  skipExponent (← skipFraction (← skipWhole text))

/-- Skips a word. -/
def skipWord (word : String) (text : List Char) : Option (List Char) :=
  if word.toList.isPrefixOf text then some (text.drop word.length) else none

/-- Skips the colon after a name. -/
def skipColon (text : List Char) : Option (List Char) :=
  match skipSpace text with
  | ':' :: rest => some rest
  | _ => none

mutual

/-- Skips a value, with at most `limit` parts. -/
def skipValue : Nat → List Char → Option (List Char)
  | 0, _ => none
  | limit + 1, text =>
    match skipSpace text with
    | '"' :: rest => skipStringFrom rest
    | '[' :: rest =>
      match skipSpace rest with
      | ']' :: rest => some rest
      | rest => skipElements limit rest
    | '\x7b' :: rest =>
      match skipSpace rest with
      | '\x7d' :: rest => some rest
      | rest => skipMembers limit rest
    | 't' :: rest => skipWord "rue" rest
    | 'f' :: rest => skipWord "alse" rest
    | 'n' :: rest => skipWord "ull" rest
    | text => skipNumber text

/-- Skips the elements of an array that has some. -/
def skipElements : Nat → List Char → Option (List Char)
  | 0, _ => none
  | limit + 1, text => do
    match skipSpace (← skipValue limit text) with
    | ',' :: rest => skipElements limit rest
    | ']' :: rest => some rest
    | _ => none

/-- Skips the members of an object that has some. -/
def skipMembers : Nat → List Char → Option (List Char)
  | 0, _ => none
  | limit + 1, text => do
    match skipSpace text with
    | '"' :: rest =>
      let rest ← skipColon (← skipStringFrom rest)
      match skipSpace (← skipValue limit rest) with
      | ',' :: rest => skipMembers limit rest
      | '\x7d' :: rest => some rest
      | _ => none
    | _ => none

end

/-- Skips a value.  Every part of a value takes a character. -/
def skip (text : List Char) : Option (List Char) :=
  skipValue (text.length + 1) text

/-! ## Objects -/

section Objects

variable {State : Type} (readMember : State → String → List Char → Option (State × List Char))

/-- Reads the members of an object that has some, at most `limit` of them.  The value of each is read
by `readMember`, which adds it to those before it. -/
def readMembers : Nat → State → List Char → Option (State × List Char)
  | 0, _, _ => none
  | limit + 1, state, text => do
    let (name, rest) ← readString (skipSpace text)
    let (state, rest) ← readMember state name (← skipColon rest)
    match skipSpace rest with
    | ',' :: rest => readMembers limit state rest
    | '\x7d' :: rest => some (state, rest)
    | _ => none

/-- Reads an object after its opening brace. -/
def readObject (start : State) (text : List Char) : Option (State × List Char) :=
  match skipSpace text with
  | '\x7d' :: rest => some (start, rest)
  | rest => readMembers readMember (rest.length + 1) start rest

end Objects

/-! ## Requests

A request is an object with the members `action`, `cell_id` and `code`, or an array of these three in
order.  The action has to be there, the others are empty if they are missing.  All three are strings
and none may occur twice; other members of an object are skipped.
-/

open Kernel

/-- The members of a request. -/
inductive Field
  | action | cellId | code
deriving DecidableEq, Repr

/-- The field with the given name. -/
def Field.ofName? (name : String) : Option Field :=
  if name = "action" then some .action
  else if name = "cell_id" then some .cellId
  else if name = "code" then some .code
  else none

/-- The fields of a request that have been read. -/
abbrev Fields := List (Field × String)

/-- The request with some fields, which have to include the action. -/
def requestOf? (fields : Fields) : Option Request := do
  let action ← fields.lookup .action
  return { action, cellId := (fields.lookup .cellId).getD "", code := (fields.lookup .code).getD "" }

/-- Reads the value of a member and adds it to the fields if it is one of them. -/
def readField (fields : Fields) (name : String) (text : List Char) :
    Option (Fields × List Char) :=
  match Field.ofName? name with
  | some field =>
    if (fields.lookup field).isSome then none
    else (readString (skipSpace text)).map fun (value, rest) => ((field, value) :: fields, rest)
  | none => (skip text).map fun rest => (fields, rest)

/-- Reads strings of an array for the given fields; the array may end early. -/
def readElements (fields : Fields) : List Field → List Char → Option (Fields × List Char)
  | [], _ => none
  | field :: more, text => do
    let (value, rest) ← readString (skipSpace text)
    let fields := (field, value) :: fields
    match skipSpace rest with
    | ',' :: rest => readElements fields more rest
    | ']' :: rest => some (fields, rest)
    | _ => none

/-- Reads the fields of a request. -/
def readFields (text : List Char) : Option (Fields × List Char) :=
  match skipSpace text with
  | '\x7b' :: rest => readObject readField [] rest
  | '[' :: rest => readElements [] [.action, .cellId, .code] rest
  | _ => none

/-- Reads a request, after which nothing may follow. -/
def readRequest? (text : String) : Option Request := do
  let (fields, rest) ← readFields text.toList
  if (skipSpace rest).isEmpty then requestOf? fields else none

/-- Why a line makes no request, worded for lines on which no value begins. -/
def complaint (line : String) : String :=
  "expected value at line 1 column " ++ ((line.toList.takeWhile isSpace).length + 1).repr

/-! ## Members of all kinds -/

/-- Reads the strings of an array that has some, at most `limit` of them, after those read so far,
which are in reverse. -/
def readStrings : Nat → List String → List Char → Option (List String × List Char)
  | 0, _, _ => none
  | limit + 1, done, text => do
    let (item, rest) ← readString (skipSpace text)
    match skipSpace rest with
    | ',' :: rest => readStrings limit (item :: done) rest
    | ']' :: rest => some ((item :: done).reverse, rest)
    | _ => none

/-- Reads digits. -/
def readCount (text : List Char) : Option (Nat × List Char) :=
  match IntegerText.readMagnitude (text.takeWhile Char.isDigit) with
  | .ok count => some (count, text.dropWhile Char.isDigit)
  | .error _ => none

/-- Reads a string, an array of strings or a count. -/
def readDatum (text : List Char) : Option (Datum × List Char) :=
  match skipSpace text with
  | '"' :: rest => (readString ('"' :: rest)).map fun (text, rest) => (.text text, rest)
  | '[' :: rest =>
    match skipSpace rest with
    | ']' :: rest => some (.texts [], rest)
    | rest =>
      (readStrings (rest.length + 1) [] rest).map fun (texts, rest) => (.texts texts, rest)
  | text => (readCount text).map fun (count, rest) => (.count count, rest)

/-- Reads the value of a member and adds it to the members before it, which are in reverse. -/
def addMember (members : Members) (name : String) (text : List Char) :
    Option (Members × List Char) :=
  (readDatum text).map fun (datum, rest) => ((name, datum) :: members, rest)

/-- Reads the members of an object, after which nothing may follow. -/
def readLine? (line : String) : Option Members :=
  match line.toList with
  | '\x7b' :: rest => do
    let (members, rest) ← readObject addMember [] rest
    if rest.isEmpty then some members.reverse else none
  | _ => none

/-! ## Writing -/

/-- The hexadecimal digits of a number below 16. -/
def hexDigits : List Char :=
  ['0', '1', '2', '3', '4', '5', '6', '7', '8', '9', 'a', 'b', 'c', 'd', 'e', 'f']

/-- How a character is written in a string: quotes, backslashes and control characters are
escaped. -/
def escape (c : Char) : List Char :=
  match c with
  | '"' => ['\\', '"']
  | '\\' => ['\\', '\\']
  | '\x08' => ['\\', 'b']
  | '\x0c' => ['\\', 'f']
  | '\n' => ['\\', 'n']
  | '\r' => ['\\', 'r']
  | '\t' => ['\\', 't']
  | c =>
    if isPlain c then [c]
    else ['\\', 'u', '0', '0', hexDigits.getD (c.toNat / 16) '0', hexDigits.getD (c.toNat % 16) '0']

/-- Writes a string. -/
def writeString (text : String) : String :=
  String.ofList ('"' :: text.toList.flatMap escape ++ ['"'])

/-- Writes an array of strings. -/
def writeStrings (texts : List String) : String :=
  "[" ++ ",".intercalate (texts.map writeString) ++ "]"

/-- Writes a value. -/
def writeDatum : Datum → String
  | .text text => writeString text
  | .texts texts => writeStrings texts
  | .count count => count.repr

/-- Writes a member of an object. -/
def writeMember (member : String × Datum) : String :=
  writeString member.1 ++ ":" ++ writeDatum member.2

/-- Writes an object. -/
def writeObject (members : Members) : String :=
  "\x7b" ++ ",".intercalate (members.map writeMember) ++ "\x7d"

/-- JSON as a codec. -/
def codec : Codec where
  read line :=
    match readRequest? line with
    | some request => .ok request
    | none => .error (complaint line)
  write := writeObject

end Json
end DotScript
