/-!
# Input and failures of the system

A program reads lines; reading them, like reading and writing files, can fail for reasons outside the
program.
-/

namespace DotScript

/-! ## Failures of the system

What can go wrong when files and streams are read and written. -/

/-- Why a file or a stream could not be used. -/
inductive SystemError
  /-- There is nothing at the path. -/
  | missing
  /-- A folder stands where a file is needed. -/
  | isFolder
  /-- A file stands where a folder is needed. -/
  | notFolder
  /-- A path, or a name in it, is longer than the system allows. -/
  | nameTooLong
  /-- The name holds the character that ends names. -/
  | nulInName
  /-- The bytes are not the UTF-8 form of a text. -/
  | notText
deriving DecidableEq, Repr

namespace SystemError

/-- The number the system gives to the failure, if it comes from the system. -/
def code? : SystemError → Option Nat
  | .missing => some 2
  | .isFolder => some 21
  | .notFolder => some 20
  | .nameTooLong => some 36
  | .nulInName => none
  | .notText => none

/-- What the failure says about itself. -/
def reason : SystemError → String
  | .missing => "No such file or directory"
  | .isFolder => "Is a directory"
  | .notFolder => "Not a directory"
  | .nameTooLong => "File name too long"
  | .nulInName => "file name contained an unexpected NUL byte"
  | .notText => "stream did not contain valid UTF-8"

/-- The reason, with the number of the failure if there is one. -/
def message (error : SystemError) : String :=
  match error.code? with
  | some code => s!"{error.reason} (os error {code})"
  | none => error.reason

end SystemError

/-! ## Input lines

A program reads its input line by line, from a list of lines or from a stream of bytes.  In a stream
a line ends with a line feed; where lines come from decides how much of the line end is dropped. -/

/-- Where a program reads from. -/
inductive Input
  /-- There is no input. -/
  | closed
  /-- The lines that are left. -/
  | lines (rest : List String)
  /-- The bytes that are left. -/
  | stream (rest : List UInt8)

/-- The byte of a line feed. -/
def lineFeed : UInt8 := 10

/-- The bytes up to the first line feed, with it, and the bytes after it. -/
def splitLine : List UInt8 → List UInt8 × List UInt8
  | [] => ([], [])
  | byte :: rest =>
    if byte = lineFeed then ([byte], rest)
    else
      let (line, after) := splitLine rest
      (byte :: line, after)

/-- The text with the given bytes. -/
def textOfBytes (bytes : List UInt8) : Except SystemError String :=
  match String.fromUTF8? ⟨bytes.toArray⟩ with
  | some text => .ok text
  | none => .error .notText

/-- The next line of a stream with its line end, or nothing at the end of the stream. -/
def streamLine (bytes : List UInt8) : Except SystemError (Option String) × List UInt8 :=
  if bytes.isEmpty then (.ok none, [])
  else
    let (line, rest) := splitLine bytes
    ((textOfBytes line).map some, rest)

/-- A line without a line feed at its end and one carriage return directly before it. -/
def dropLineEnd (line : String) : String :=
  match line.toList.reverse with
  | '\n' :: '\r' :: rest => String.ofList rest.reverse
  | '\n' :: rest => String.ofList rest.reverse
  | _ => line

/-- A line without any line feeds and carriage returns at its end. -/
def dropLineEnds (line : String) : String :=
  String.ofList (line.toList.reverse.dropWhile fun c => c == '\n' || c == '\r').reverse

end DotScript
