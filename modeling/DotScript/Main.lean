import DotScript.CommandLine
import DotScript.Kernel.Json

/-!
# The program

Reads the arguments, the input and the files below the working folder, does what the arguments ask
for, writes the files that changed, and prints.  The kernel answers line by line, all else is
printed in the end.
-/

namespace DotScript
namespace Main

/-- The program is built with JSON, and with a sorter that breaks off. -/
def library : CommandLine.Library where
  sorter := .strict
  codec := Json.codec

/-- The bytes of a stream up to its end, after those read so far. -/
partial def readAll (stream : IO.FS.Stream) (read : ByteArray) : IO ByteArray := do
  let more ← stream.read 65536
  if more.isEmpty then return read else readAll stream (read ++ more)

/-- Adds what stands at one place of a folder, and all below it. -/
partial def readEntry (folder : Path) (disk : Disk) (entry : IO.FS.DirEntry) : IO Disk := do
  let path := folder ++ [entry.fileName]
  if ← entry.path.isDir then
    (← entry.path.readDir).foldlM (readEntry path) (disk.put path .folder)
  else
    try return disk.put path (.file (← IO.FS.readBinFile entry.path)) catch _ => return disk

/-- The files below the working folder. -/
def readDisk : IO Disk := do
  (← (← IO.currentDir).readDir).foldlM (readEntry []) Disk.empty

/-- Writes the files that are new or have changed. -/
def writeChanges (before after : Disk) : IO Unit := do
  for (path, entry) in after.entries do
    match before.entry? path, entry with
    | some (.file old), .file content =>
      unless old == content do IO.FS.writeBinFile ("/".intercalate path) content
    | _, .file content => IO.FS.writeBinFile ("/".intercalate path) content
    | _, .folder => pure ()

/-- Prints a text at once. -/
def put (text : String) : IO Unit := do
  let stdout ← IO.getStdout
  stdout.putStr text
  stdout.flush

/-- The bytes of a stream up to the end of a line, after those read so far. -/
partial def readLine (stream : IO.FS.Stream) (read : ByteArray) : IO ByteArray := do
  let byte ← stream.read 1
  if byte.isEmpty then return read
  else if byte.toList = [lineFeed] then return read ++ byte
  else readLine stream (read ++ byte)

/-- Answers the requests of a stream, keeping the files up to date, and gives the exit code. -/
partial def serve (input : IO.FS.Stream) (session : Session) : IO UInt32 := do
  let bytes ← readLine input ByteArray.empty
  if bytes.isEmpty then return 0
  else
    match textOfBytes bytes.toList with
    | .error error =>
      IO.eprintln ("Error: " ++ (Halt.system error).text)
      return 1
    | .ok line =>
      let line := dropLineEnd line
      if Kernel.isBlankLine line then serve input session
      else
        match Kernel.answer library.codec Run.ampleTurns session line with
        | .lost _ next =>
          writeChanges session.machine.host.disk next.machine.host.disk
          return UInt32.ofNat CommandLine.brokenCode
        | .answered response next =>
          writeChanges session.machine.host.disk next.machine.host.disk
          put (response.line library.codec ++ "\n")
          if response = .stopped then return 0 else serve input next

/-- Does what the arguments ask for, and gives the exit code. -/
def runOnce (args : List String) (disk : Disk) : IO UInt32 := do
  let input ← readAll (← IO.getStdin) ByteArray.empty
  let outcome := CommandLine.run library Run.ampleTurns args input.toList disk
  writeChanges disk outcome.disk
  put outcome.output
  for error in outcome.errors do
    IO.eprintln error
  return UInt32.ofNat outcome.code

end Main
end DotScript

open DotScript in
/-- Runs the program. -/
def main (args : List String) : IO UInt32 := do
  let disk ← Main.readDisk
  if CommandLine.parse args = some .kernel then
    Main.put (Kernel.Response.ready.line Main.library.codec ++ "\n")
    Main.serve (← IO.getStdin) (.start .closed disk Main.library.sorter)
  else
    Main.runOnce args disk
