import DotScript.Kernel.Codec
import DotScript.Session

/-!
# The kernel

The kernel serves a session to another program: it reads one request a line and writes one response
a line, after a first line that says it is ready.  Blank lines are passed over, and nothing is read
after a request to shut down.  A cell that is left unfinished does not come back, and the kernel writes
nothing for it or after it.
-/

namespace DotScript
namespace Kernel

/-- The version of the protocol. -/
def version : String := "2.0"

/-- What the kernel answers. -/
inductive Response
  | ready
  | executed (cellId : String) (reply : Reply)
  | reset
  | completions (names : List String)
  | stopped
  | failure (reason : String)
deriving DecidableEq, Repr

/-- The members of a response. -/
def Response.members : Response → Members
  | .ready => [("status", .text "kernel_ready"), ("version", .text version)]
  | .executed cellId reply =>
    [("cell_id", .text cellId),
     ("status", .text (if reply.succeeded then "ok" else "error")),
     ("stdout", .text reply.stdout),
     ("stderr", .text reply.stderr),
     ("result", .text reply.result),
     ("execution_count", .count reply.count)]
  | .reset => [("status", .text "reset_ok")]
  | .completions names => [("status", .text "ok"), ("completions", .texts names)]
  | .stopped => [("status", .text "shutdown_ok")]
  | .failure reason => [("status", .text "error"), ("stderr", .text reason)]

/-- A response as a line. -/
def Response.line (codec : Codec) (response : Response) : String :=
  codec.write response.members

/-- What comes of a line. -/
inductive Handled
  /-- The line is answered, and the session goes on. -/
  | answered (response : Response) (after : Session)
  /-- The cell is left unfinished. -/
  | lost (cause : OpenEnd) (after : Session)

/-- Executes a cell. -/
def executeCell (turns : Nat) (session : Session) (cellId code : String) : Handled :=
  match (Session.runSource turns code).run.run session.machine with
  | (.error (.unfinished cause), machine) => .lost cause { session with machine }
  | (outcome, machine) =>
    let (reply, after) := session.reply outcome machine
    .answered (.executed cellId reply) after

/-- What comes of a request. -/
def handle (turns : Nat) (session : Session) (request : Request) : Handled :=
  if request.action = "execute" then executeCell turns session request.cellId request.code
  else if request.action = "reset" then .answered .reset session.reset
  else if request.action = "complete" then
    .answered (.completions (session.complete request.code)) session
  else if request.action = "shutdown" then .answered .stopped session
  else .answered (.failure ("Unknown action: " ++ request.action)) session

/-- What comes of a line. -/
def answer (codec : Codec) (turns : Nat) (session : Session) (line : String) : Handled :=
  match codec.read line with
  | .ok request => handle turns session request
  | .error reason => .answered (.failure ("Malformed request: " ++ reason)) session

/-- How the kernel ends. -/
inductive Ending
  /-- There are no more lines. -/
  | closed
  /-- It was asked to. -/
  | stopped
  /-- A line could not be read. -/
  | unreadable (error : SystemError)
  /-- A cell was left unfinished. -/
  | lost (cause : OpenEnd)
deriving DecidableEq, Repr

/-- Everything the kernel wrote, and how it ended. -/
structure Transcript where
  /-- The responses, in order. -/
  responses : List Response
  /-- The session in the end. -/
  session : Session
  /-- How the kernel ended. -/
  ending : Ending

/-- A transcript with one more response in front. -/
def Transcript.push (response : Response) (transcript : Transcript) : Transcript :=
  { transcript with responses := response :: transcript.responses }

/-- Answers lines until a shutdown or a cell that is left unfinished. -/
def serveLines (codec : Codec) (turns : Nat) (session : Session) :
    List (Except SystemError String) → Transcript
  | [] => { responses := [], session, ending := .closed }
  | .error error :: _ => { responses := [], session, ending := .unreadable error }
  | .ok line :: rest =>
    if isBlankLine line then serveLines codec turns session rest
    else
      match answer codec turns session line with
      | .lost cause session => { responses := [], session, ending := .lost cause }
      | .answered response session =>
        if response = .stopped then { responses := [response], session, ending := .stopped }
        else (serveLines codec turns session rest).push response

/-- The lines of a stream without their ends, cutting off at most `limit` of them. -/
def streamLines : Nat → List UInt8 → List (Except SystemError String)
  | 0, _ => []
  | _, [] => []
  | limit + 1, bytes =>
    let (line, rest) := splitLine bytes
    (textOfBytes line).map dropLineEnd :: streamLines limit rest

/-- Serves the requests in a stream of bytes with a new session, which has no input. -/
def serve (codec : Codec) (turns : Nat) (disk : Disk) (sorter : Sorter) (bytes : List UInt8) :
    Transcript :=
  (serveLines codec turns (.start .closed disk sorter) (streamLines bytes.length bytes)).push .ready

end Kernel
end DotScript
