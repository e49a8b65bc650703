import DotScript.CommandLine
import DotScript.Proofs.Kernel.Json
import DotScript.Proofs.Kernel.Lines
import DotScript.Proofs.Run.Termination
import DotScript.Proofs.Session.Reset

/-!
# What the kernel writes

Every line of a text that is not blank gets one line, in order, until one asks to stop or a cell is
left unfinished.  What is written is told by the objects that are read back from it: `Answered` says
which object answers a line and `Lost` which cells are not answered.  `answer_fits` says so of one
line, `serveLines_serves` of all lines and `requests_are_answered` of any text and any faithful codec.
-/

namespace DotScript

/-! ## Cells that are left unfinished -/

namespace Session

/-- A cell ends outside all calls if it begins there. -/
theorem runSource_depth (turns : Nat) (code : String) (machine : Machine) :
    ((runSource turns code).on machine).2.depth = machine.depth := by
  rw [runSource]
  rcases Run.load_on code machine with ⟨program, _, loaded⟩ | ⟨_, _, refused⟩
  · rw [Run.on_bind_of_ok loaded]
    exact (runCell_keeps (Run.execute_changesOnlyCurrent turns maxCallDepth) none _ _).depth
  · rw [Run.on_bind_of_error refused]

/-- Statements break off in a cell as they do in a program. -/
theorem runCell_breaksOff_iff {turns : Nat} {result : Option Value} {last : Value}
    {stmts : List Stmt} {machine : Machine} {cause : OpenEnd} :
    Run.BreaksOff (runCell turns result stmts) machine cause ↔
      Run.BreaksOff (Run.runProgram turns last stmts) machine cause := by
  induction stmts generalizing result last machine with
  | nil => exact iff_of_false (Run.NeverBreaksOff.pure _ _ _) (Run.NeverBreaksOff.pure _ _ _)
  | cons stmt rest ih =>
      rw [runCell, Run.runProgram, Run.BreaksOff, Run.BreaksOff, Run.on_bind, Run.on_bind]
      cases executed : (Run.executeTop turns stmt).on machine with
      | mk outcome after =>
          cases outcome with
          | error halt => simp only [Except.error.injEq]
          | ok flow =>
              cases flow with
              | next | value => exact ih
              | give result =>
                  exact iff_of_false (Run.NeverBreaksOff.pure _ _ _) (Run.NeverBreaksOff.fault _ _ _ _)

/-- The code of a cell breaks off as a source does. -/
theorem runSource_breaksOff_iff {turns : Nat} {code : String} {machine : Machine}
    {cause : OpenEnd} :
    Run.BreaksOff (runSource turns code) machine cause ↔
      Run.BreaksOff (Run.evalSource turns code) machine cause := by
  rw [runSource, Run.evalSource, Run.BreaksOff, Run.BreaksOff]
  rcases Run.load_on code machine with ⟨program, _, loaded⟩ | ⟨_, _, refused⟩
  · rw [Run.on_bind_of_ok loaded, Run.on_bind_of_ok loaded]
    exact runCell_breaksOff_iff
  · rw [Run.on_bind_of_error refused, Run.on_bind_of_error refused]
    simp only [Except.error.injEq]

end Session

namespace Kernel

/-- The session does not answer the code of a cell: its run is left unfinished, at an open loop or
sort that it comes to. -/
structure Lost (turns : Nat) (before : Session) (code : String) (cause : OpenEnd) : Prop where
  unfinished : Run.BreaksOff (Session.runSource turns code) before.machine cause
  opened : ∃ program, Program.parse code = .ok program ∧
    (program.beginning before.machine).ComesTo turns cause

theorem Lost.of_unfinished {turns : Nat} {before : Session} {code : String} {cause : OpenEnd}
    (outside : before.machine.depth = 0)
    (unfinished : Run.BreaksOff (Session.runSource turns code) before.machine cause) :
    Lost turns before code cause := by
  refine ⟨unfinished, ?_⟩
  have out := Session.runSource_breaksOff_iff.1 unfinished
  cases parsed : Program.parse code with
  | ok program => exact ⟨program, rfl, Run.evalSource_comesTo parsed outside out⟩
  | error diagnostic =>
      rcases Run.load_on code before.machine with ⟨_, reparsed, _⟩ | ⟨_, _, refused⟩
      · cases parsed.symm.trans reparsed
      · rw [Run.BreaksOff, Run.evalSource, Run.on_bind_of_error refused] at out
        cases out

/-! ## Requests and answers -/

/-- Whether a line asks the kernel to stop. -/
def asksToStop (codec : Codec) (line : String) : Bool :=
  (codec.read line).toOption.any fun request => request.action = "shutdown"

/-- The lines that are answered: those that are not blank, up to the first one that asks to stop. -/
def answeredLines (codec : Codec) (lines : List String) : List String :=
  let requests := lines.filter fun line => !isBlankLine line
  requests.take (requests.findIdx (asksToStop codec) + 1)

/-- The requests in a text. -/
def requests (codec : Codec) (text : String) : List String :=
  answeredLines codec ((Text.lines text.toList).map String.ofList)

/-- The session after a line. -/
def Handled.session : Handled → Session
  | .answered _ after => after
  | .lost _ after => after

/-- The session after lines. -/
def sessionAfter (codec : Codec) (turns : Nat) (session : Session) (lines : List String) : Session :=
  lines.foldl (fun session line => (answer codec turns session line).session) session

/-- The actions that the kernel knows. -/
def actions : List String := ["execute", "reset", "complete", "shutdown"]

/-- Whether an object answers a cell that succeeded. -/
def tellsSuccess (object : Members) : Bool :=
  (object.lookup "cell_id").isSome && object.lookup "status" == some (.text "ok")

/-- Whether an object answers a reset. -/
def tellsReset (object : Members) : Bool :=
  object.lookup "status" == some (.text "reset_ok")

/-- The number of cells that succeeded since the last reset. -/
def succeededSinceReset (objects : List Members) : Nat :=
  (objects.reverse.takeWhile fun object => !tellsReset object).countP tellsSuccess

/-- The object that answers a line after some objects were written, and the session after it. -/
inductive Answered (codec : Codec) (turns : Nat) (before : Session) (earlier : List Members) :
    String → Members → Session → Prop
  | malformed {line reason : String} (unread : codec.read line = .error reason) :
      Answered codec turns before earlier line
        [("status", .text "error"), ("stderr", .text ("Malformed request: " ++ reason))] before
  | unknown {line : String} {request : Request} (read : codec.read line = .ok request)
      (other : request.action ∉ actions) :
      Answered codec turns before earlier line
        [("status", .text "error"), ("stderr", .text ("Unknown action: " ++ request.action))] before
  | succeeded {line : String} {request : Request} {value : Option Value} {machine : Machine}
      {printed : String} (read : codec.read line = .ok request)
      (action : request.action = "execute")
      (ran : (Session.runSource turns request.code).on before.machine = (.ok value, machine))
      (output : machine.host.output = before.machine.host.output ++ printed) :
      Answered codec turns before earlier line
        [("cell_id", .text request.cellId), ("status", .text "ok"), ("stdout", .text printed),
          ("stderr", .text ""), ("result", .text ((value.map Value.display).getD "")),
          ("execution_count", .count (succeededSinceReset earlier + 1))]
        { machine := machine.takeOutput.2, count := before.count + 1 }
  | failed {line : String} {request : Request} {halt : Halt} {machine : Machine} {printed : String}
      (read : codec.read line = .ok request) (action : request.action = "execute")
      (ran : (Session.runSource turns request.code).on before.machine = (.error halt, machine))
      (finished : ∀ cause, halt ≠ .unfinished cause)
      (output : machine.host.output = before.machine.host.output ++ printed) :
      Answered codec turns before earlier line
        [("cell_id", .text request.cellId), ("status", .text "error"), ("stdout", .text printed),
          ("stderr", .text halt.text), ("result", .text ""),
          ("execution_count", .count (succeededSinceReset earlier))]
        { machine := machine.takeOutput.2, count := before.count }
  | reset {line : String} {request : Request} (read : codec.read line = .ok request)
      (action : request.action = "reset") :
      Answered codec turns before earlier line [("status", .text "reset_ok")] before.reset
  | completed {line : String} {request : Request} (read : codec.read line = .ok request)
      (action : request.action = "complete") :
      Answered codec turns before earlier line
        [("status", .text "ok"), ("completions", .texts (before.complete request.code))] before
  | stopped {line : String} {request : Request} (read : codec.read line = .ok request)
      (action : request.action = "shutdown") :
      Answered codec turns before earlier line [("status", .text "shutdown_ok")] before

/-! ## One line -/

/-- The counter of a session is the number of cells that succeeded, nothing printed is left, and no
call is in progress. -/
structure Settled (earlier : List Members) (session : Session) : Prop where
  count : session.count = succeededSinceReset earlier
  output : session.machine.host.output = ""
  outside : session.machine.depth = 0

theorem succeededSinceReset_append {object : Members} (other : tellsReset object = false)
    (earlier : List Members) :
    succeededSinceReset (earlier ++ [object]) =
      succeededSinceReset earlier + if tellsSuccess object then 1 else 0 := by
  simp [succeededSinceReset, other, List.countP_cons]

theorem succeededSinceReset_reset {object : Members} (reset : tellsReset object = true)
    (earlier : List Members) : succeededSinceReset (earlier ++ [object]) = 0 := by
  simp [succeededSinceReset, reset]

theorem Settled.append {earlier : List Members} {session : Session}
    (settled : Settled earlier session) {object : Members} (other : tellsReset object = false)
    (quiet : tellsSuccess object = false) : Settled (earlier ++ [object]) session where
  count := by
    rw [succeededSinceReset_append other, quiet, settled.count]
    rfl
  output := settled.output
  outside := settled.outside

/-- What comes of a line is an answer that fits it and leaves the session settled, or the cell in it
is lost. -/
inductive Fits (codec : Codec) (turns : Nat) (before : Session) (earlier : List Members)
    (line : String) : Handled → Prop
  | answered {response : Response} {after : Session}
      (answers : Answered codec turns before earlier line response.members after)
      (settled : Settled (earlier ++ [response.members]) after)
      (stops : response = .stopped ↔ asksToStop codec line = true) :
      Fits codec turns before earlier line (.answered response after)
  | lost {request : Request} {cause : OpenEnd} {after : Session}
      (read : codec.read line = .ok request) (action : request.action = "execute")
      (lost : Lost turns before request.code cause) :
      Fits codec turns before earlier line (.lost cause after)

section Line

variable {codec : Codec} {turns : Nat} {before : Session} {earlier : List Members} {line : String}
  {request : Request}

theorem asksToStop_iff (read : codec.read line = .ok request) :
    asksToStop codec line = true ↔ request.action = "shutdown" := by
  simp [asksToStop, read, Except.toOption]

/-- A cell is answered, or lost. -/
theorem executeCell_fits (settled : Settled earlier before) (read : codec.read line = .ok request)
    (action : request.action = "execute") :
    Fits codec turns before earlier line (executeCell turns before request.cellId request.code) := by
  have goes_on : ¬ asksToStop codec line = true := by
    rw [asksToStop_iff read, action]
    decide
  have depth := Session.runSource_depth turns request.code before.machine
  unfold executeCell
  cases result : (Session.runSource turns request.code).on before.machine with
  | mk outcome machine =>
      have output : machine.host.output = before.machine.host.output ++ machine.host.output := by
        rw [settled.output, String.empty_append]
      have outside : machine.takeOutput.2.depth = 0 := by
        rw [result] at depth
        exact depth.trans settled.outside
      cases outcome with
      | ok value =>
          have answers : Answered codec turns before earlier line _ _ :=
            .succeeded read action result output
          rw [← settled.count] at answers
          rw [Run.on] at result
          rw [result]
          refine .answered answers ⟨?_, rfl, outside⟩ (iff_of_false (by simp) goes_on)
          rw [succeededSinceReset_append rfl, ← settled.count]
          rfl
      | error halt =>
          by_cases finished : ∀ cause, halt ≠ .unfinished cause
          · have answers : Answered codec turns before earlier line _ _ :=
              .failed read action result finished output
            rw [← settled.count] at answers
            rw [Run.on] at result
            rw [result]
            cases halt with
            | unfinished cause => exact absurd rfl (finished cause)
            | failed | system =>
                refine .answered answers ⟨?_, rfl, outside⟩ (iff_of_false (by simp) goes_on)
                rw [succeededSinceReset_append rfl, ← settled.count]
                rfl
          · simp only [not_forall, not_not] at finished
            obtain ⟨cause, rfl⟩ := finished
            have lost := Lost.of_unfinished settled.outside (congrArg Prod.fst result)
            rw [Run.on] at result
            rw [result]
            exact .lost read action lost

/-- Every request is answered in its way, or its cell is lost. -/
theorem handle_fits (settled : Settled earlier before) (read : codec.read line = .ok request) :
    Fits codec turns before earlier line (handle turns before request) := by
  have stops := asksToStop_iff read
  unfold handle
  split
  next action => exact executeCell_fits settled read action
  split
  next action =>
    refine .answered (.reset read action) ⟨?_, rfl, rfl⟩ ?_
    · exact (succeededSinceReset_reset rfl earlier).symm
    · simp [stops, action]
  split
  next action =>
    exact .answered (.completed read action) (settled.append rfl rfl) (by simp [stops, action])
  split
  next action =>
    exact .answered (.stopped read action) (settled.append rfl rfl) (by simp [stops, action])
  next execute reset complete shutdown =>
    have other : request.action ∉ actions := by
      simp [actions, execute, reset, complete, shutdown]
    exact .answered (.unknown read other) (settled.append rfl rfl) (by simp [stops, shutdown])

variable (codec) in
/-- Every line is answered in its way, or its cell is lost. -/
theorem answer_fits (turns : Nat) (settled : Settled earlier before) (line : String) :
    Fits codec turns before earlier line (answer codec turns before line) := by
  unfold answer
  split
  next request read => exact handle_fits settled read
  next reason unread =>
    refine .answered (.malformed unread) (settled.append rfl rfl) (iff_of_false (by simp) ?_)
    simp [asksToStop, unread, Except.toOption]

end Line

/-! ## All lines -/

/-- What comes of lines that are answered one after the other: each is answered, to the last one or
to one whose cell is lost. -/
inductive Serves (codec : Codec) (turns : Nat) :
    Session → List Members → List String → Transcript → Prop
  | closed {session : Session} {earlier : List Members} :
      Serves codec turns session earlier []
        { responses := [], session, ending := .closed }
  | stopped {before after : Session} {earlier : List Members} {line : String} {response : Response}
      (answered : answer codec turns before line = .answered response after)
      (answers : Answered codec turns before earlier line response.members after) :
      Serves codec turns before earlier [line]
        { responses := [response], session := after, ending := .stopped }
  | next {before after : Session} {earlier : List Members} {line : String} {response : Response}
      {rest : List String} {transcript : Transcript}
      (answered : answer codec turns before line = .answered response after)
      (answers : Answered codec turns before earlier line response.members after)
      (later : Serves codec turns after (earlier ++ [response.members]) rest transcript) :
      Serves codec turns before earlier (line :: rest) (transcript.push response)
  | lost {before after : Session} {earlier : List Members} {line : String} {rest : List String}
      {request : Request} {cause : OpenEnd} (read : codec.read line = .ok request)
      (action : request.action = "execute") (lost : Lost turns before request.code cause) :
      Serves codec turns before earlier (line :: rest)
        { responses := [], session := after, ending := .lost cause }

section Lines

variable {codec : Codec} {turns : Nat} {line : String}

theorem answeredLines_cons_of_blank (blank : isBlankLine line = true) (rest : List String) :
    answeredLines codec (line :: rest) = answeredLines codec rest := by
  simp [answeredLines, blank]

theorem answeredLines_cons_of_stop (some_text : isBlankLine line = false)
    (stops : asksToStop codec line = true) (rest : List String) :
    answeredLines codec (line :: rest) = [line] := by
  simp [answeredLines, some_text, List.findIdx_cons, stops]

theorem answeredLines_cons (some_text : isBlankLine line = false)
    (goes_on : asksToStop codec line = false) (rest : List String) :
    answeredLines codec (line :: rest) = line :: answeredLines codec rest := by
  simp [answeredLines, some_text, List.findIdx_cons, goes_on]

variable (codec) in
/-- A line that is not blank is one of those that are answered. -/
theorem exists_answeredLines_cons (some_text : isBlankLine line = false) (rest : List String) :
    ∃ later, answeredLines codec (line :: rest) = line :: later := by
  cases stops : asksToStop codec line with
  | true => exact ⟨[], answeredLines_cons_of_stop some_text stops rest⟩
  | false => exact ⟨_, answeredLines_cons some_text stops rest⟩

/-- The kernel answers the lines that are to be answered, and no others. -/
theorem serveLines_serves {earlier : List Members} {session : Session}
    (settled : Settled earlier session) (lines : List String) :
    Serves codec turns session earlier (answeredLines codec lines)
      (serveLines codec turns session (lines.map .ok)) := by
  induction lines generalizing session earlier with
  | nil => exact .closed
  | cons line rest ih =>
      rw [List.map_cons, serveLines]
      cases blank : isBlankLine line with
      | true =>
          rw [if_pos rfl, answeredLines_cons_of_blank blank]
          exact ih settled
      | false =>
          rw [if_neg Bool.false_ne_true]
          have fits := answer_fits codec turns settled line
          cases handled : answer codec turns session line with
          | lost cause after =>
              rw [handled] at fits
              obtain ⟨later, some_line⟩ := exists_answeredLines_cons codec blank rest
              rw [some_line]
              cases fits with
              | lost read action lost => exact .lost read action lost
          | answered response after =>
              rw [handled] at fits
              cases fits with
              | answered answers settled' stops =>
                  by_cases stopped : response = .stopped
                  · simp only [if_pos stopped]
                    rw [answeredLines_cons_of_stop blank (stops.1 stopped)]
                    exact .stopped handled answers
                  · have goes_on := Bool.eq_false_iff.2 (mt stops.2 stopped)
                    simp only [if_neg stopped]
                    rw [answeredLines_cons blank goes_on]
                    exact .next handled answers (ih settled')

section Serves

variable {session : Session} {earlier : List Members} {lines : List String}
  {transcript : Transcript}

/-- A line is answered after the objects and by the session that come of the lines before it. -/
theorem Serves.answered_at (serves : Serves codec turns session earlier lines transcript)
    {index : Nat} {response : Response} (found : lines[index]? = some line)
    (given : transcript.responses[index]? = some response) :
    Answered codec turns (sessionAfter codec turns session (lines.take index))
      (earlier ++ (transcript.responses.take index).map Response.members) line response.members
      (sessionAfter codec turns session (lines.take (index + 1))) := by
  induction serves generalizing index with
  | closed => cases found
  | @stopped before after earlier first answer answered answers =>
      cases index with
      | zero =>
          obtain rfl : first = line := Option.some.inj found
          obtain rfl : answer = response := Option.some.inj given
          simp [sessionAfter, answered, Handled.session, answers]
      | succ index => cases found
  | @next before after earlier first answer rest transcript answered answers later ih =>
      cases index with
      | zero =>
          obtain rfl : first = line := Option.some.inj found
          obtain rfl : answer = response := Option.some.inj given
          simp [sessionAfter, answered, Handled.session, answers]
      | succ index =>
          have there := ih found given
          rw [List.append_assoc] at there
          simpa [sessionAfter, answered, Handled.session, Transcript.push] using there
  | lost => cases given

/-- Either all lines are answered, or those before one whose cell is lost. -/
theorem Serves.ends (serves : Serves codec turns session earlier lines transcript) :
    (transcript.responses.length = lines.length ∧
        (transcript.ending = .closed ∨ transcript.ending = .stopped)) ∨
      ∃ line request cause, lines[transcript.responses.length]? = some line ∧
        codec.read line = .ok request ∧ request.action = "execute" ∧
        Lost turns (sessionAfter codec turns session (lines.take transcript.responses.length))
          request.code cause := by
  induction serves with
  | closed => exact .inl ⟨rfl, .inl rfl⟩
  | stopped => exact .inl ⟨rfl, .inr rfl⟩
  | next answered answers later ih =>
      refine ih.imp (fun ⟨length, ending⟩ => ⟨congrArg (· + 1) length, ending⟩) ?_
      rintro ⟨line, request, cause, found, read, action, lost⟩
      refine ⟨line, request, cause, found, read, action, ?_⟩
      simpa [sessionAfter, answered, Handled.session, Transcript.push] using lost
  | lost read action lost => exact .inr ⟨_, _, _, rfl, read, action, lost⟩

end Serves

end Lines

/-! ## What is written -/

/-- The names of the members of a response differ. -/
theorem Response.nodup_members (response : Response) :
    (response.members.map (·.1)).Nodup := by
  cases response <;> simp [Response.members]

/-- However the kernel ends, its output is the lines of the responses. -/
theorem runKernel_output (library : CommandLine.Library) (turns : Nat) (input : List UInt8)
    (disk : Disk) :
    (CommandLine.runKernel library turns input disk).output =
      String.join ((serve library.codec turns disk library.sorter input).responses.map
        fun response => response.line library.codec ++ "\n") := by
  unfold CommandLine.runKernel
  obtain ⟨responses, session, ending⟩ := serve library.codec turns disk library.sorter input
  cases ending <;> rfl

/-- The kernel ends well after all lines are answered. -/
theorem runKernel_ended {library : CommandLine.Library} {turns : Nat} {input : List UInt8}
    {disk : Disk} (ended : (serve library.codec turns disk library.sorter input).ending = .closed ∨
      (serve library.codec turns disk library.sorter input).ending = .stopped) :
    (CommandLine.runKernel library turns input disk).errors = [] ∧
      (CommandLine.runKernel library turns input disk).code = 0 := by
  unfold CommandLine.runKernel
  generalize serve library.codec turns disk library.sorter input = transcript at ended ⊢
  obtain ⟨responses, session, ending⟩ := transcript
  rcases ended with rfl | rfl <;> exact ⟨rfl, rfl⟩

section Written

variable {codec : Codec} {decode : String → Option Members}

/-- The lines of what is written are read back as the objects that were written. -/
theorem decode_lines (faithful : codec.IsFaithful decode) (responses : List Response) :
    ((Text.lines (String.join (responses.map fun response =>
        response.line codec ++ "\n")).toList).map fun line => decode (String.ofList line)) =
      (responses.map Response.members).map some := by
  rw [Text.lines_join fun response _ => faithful.escapes response.members, List.map_map,
    List.map_map]
  refine List.map_congr_left fun response _ => ?_
  change decode (String.ofList (codec.write response.members).toList) = some response.members
  rw [String.ofList_toList, faithful.decodes _ response.nodup_members]

theorem lines_messages (faithful : codec.IsFaithful decode) (messages : List Message) :
    (Text.lines (String.join (messages.map fun message =>
        codec.write message.members ++ "\n")).toList).map String.ofList =
      messages.map fun message => codec.write message.members := by
  rw [Text.lines_join fun message _ => faithful.escapes (Message.members message), List.map_map]
  exact List.map_congr_left fun message _ => String.ofList_toList

theorem isBlankLine_message (faithful : codec.IsFaithful decode) (message : Message) :
    isBlankLine (codec.write message.members) = false :=
  faithful.refuses _ _ (faithful.accepts message)

/-- What is sent line by line is answered to the first message that asks to stop. -/
theorem requests_of_messages (faithful : codec.IsFaithful decode) (messages : List Message) :
    requests codec (String.join (messages.map fun message =>
        codec.write message.members ++ "\n")) =
      (messages.take (messages.findIdx (fun message => message.action = "shutdown") + 1)).map
        fun message => codec.write message.members := by
  have asks : (asksToStop codec ∘ fun message => codec.write message.members) =
      fun message : Message => decide (message.action = "shutdown") := by
    funext message
    simp [asksToStop, faithful.accepts, Except.toOption, Message.request]
  have kept : (messages.map fun message => codec.write message.members).filter
      (fun line => !isBlankLine line) = messages.map fun message => codec.write message.members := by
    simp [List.filter_eq_self, isBlankLine_message faithful]
  rw [requests, lines_messages faithful, answeredLines, kept, List.findIdx_map, asks, List.map_take]

/-- After a cell that breaks off nothing is written, whatever is sent. -/
theorem runKernel_of_breaksOff (faithful : codec.IsFaithful decode) {turns : Nat} {disk : Disk}
    {sorter : Sorter} {message : Message} (rest : List Message) {cause : OpenEnd}
    (action : message.action = "execute")
    (out : Run.BreaksOff (Session.runSource turns message.request.code)
      (Session.start .closed disk sorter).machine cause) :
    let text := String.join ((message :: rest).map fun message =>
      codec.write message.members ++ "\n")
    let outcome := CommandLine.runKernel ⟨sorter, codec⟩ turns text.toUTF8.data.toList disk
    outcome.output = Response.ready.line codec ++ "\n" ∧ outcome.code = CommandLine.brokenCode := by
  have execute : message.request.action = "execute" := action
  cases ran : (Session.runSource turns message.request.code).on
      (Session.start .closed disk sorter).machine with
  | mk outcome machine =>
      obtain rfl : outcome = .error (.unfinished cause) := (congrArg Prod.fst ran).symm.trans out
      rw [Run.on] at ran
      have lost : answer codec turns (.start .closed disk sorter) (codec.write message.members) =
          .lost cause { machine, count := 0 } := by
        simp only [answer, faithful.accepts, handle, if_pos execute, executeCell, ran]
        rfl
      have blank : ¬ isBlankLine (codec.write message.members) = true := by
        simp [isBlankLine_message faithful]
      intro text
      have served : serve codec turns disk sorter text.toUTF8.data.toList =
          { responses := [.ready], session := { machine, count := 0 }, ending := .lost cause } := by
        rw [serve, streamLines_toUTF8, lines_messages faithful, List.map_cons, List.map_cons,
          serveLines, if_neg blank, lost]
        rfl
      simp only [CommandLine.runKernel, served]
      exact ⟨String.empty_append, rfl⟩

end Written

/-- For every text, the kernel writes that it is ready and then a line for each request, in order:
the lines that are not blank, up to the first one that asks to stop.  Lines are told by the objects
that are read back from them.  A line that is no request and a request that is not known leave the
session as it is.  A cell is answered with its name, the number of cells that succeeded since the
start or the last reset, and what it printed itself.  Nothing is written for a cell that is left
unfinished, and nothing after it. -/
theorem requests_are_answered {codec : Codec} {decode : String → Option Members}
    (faithful : codec.IsFaithful decode) (turns : Nat) (disk : Disk) (sorter : Sorter)
    (text : String) :
    let outcome := CommandLine.runKernel ⟨sorter, codec⟩ turns text.toUTF8.data.toList disk
    let session (index : Nat) :=
      sessionAfter codec turns (.start .closed disk sorter) ((requests codec text).take index)
    ∃ objects : List Members,
      outcome.output = String.join (objects.map fun object => codec.write object ++ "\n") ∧
      ((Text.lines outcome.output.toList).map fun line => decode (String.ofList line)) =
        objects.map some ∧
      (∀ object ∈ objects, '\n' ∉ (codec.write object).toList) ∧
      objects.head? = some [("status", .text "kernel_ready"), ("version", .text "2.0")] ∧
      (∀ index line object, (requests codec text)[index]? = some line →
        objects[index + 1]? = some object →
        Answered codec turns (session index) (objects.take (index + 1)) line object
          (session (index + 1))) ∧
      (objects.length = (requests codec text).length + 1 ∧ outcome.errors = [] ∧
          outcome.code = 0 ∨
        ∃ index line request cause, objects.length = index + 1 ∧
          (requests codec text)[index]? = some line ∧ codec.read line = .ok request ∧
          request.action = "execute" ∧ Lost turns (session index) request.code cause) ∧
      ∀ messages : List Message,
        text = String.join (messages.map fun message => codec.write message.members ++ "\n") →
        requests codec text =
          (messages.take (messages.findIdx (fun message => message.action = "shutdown") + 1)).map
            fun message => codec.write message.members := by
  intro outcome session
  have settled : Settled [Response.ready.members] (.start .closed disk sorter) := ⟨rfl, rfl, rfl⟩
  have serves : Serves codec turns (.start .closed disk sorter) [Response.ready.members]
      (requests codec text) (serveLines codec turns (.start .closed disk sorter)
        (streamLines text.toUTF8.data.toList.length text.toUTF8.data.toList)) := by
    rw [streamLines_toUTF8]
    exact serveLines_serves settled _
  generalize ran : serveLines codec turns (.start .closed disk sorter)
    (streamLines text.toUTF8.data.toList.length text.toUTF8.data.toList) = transcript at serves
  have served : serve codec turns disk sorter text.toUTF8.data.toList =
      transcript.push .ready := congrArg (Transcript.push .ready) ran
  have output : outcome.output =
      String.join ((transcript.push .ready).responses.map fun response =>
        response.line codec ++ "\n") := by
    rw [← served]
    exact runKernel_output ⟨sorter, codec⟩ turns _ disk
  refine ⟨(transcript.push .ready).responses.map Response.members, ?_, ?_, ?_, rfl, ?_, ?_, ?_⟩
  · rw [output, List.map_map]
    rfl
  · rw [output]
    exact decode_lines faithful _
  · intro object _ broken
    exact absurd (faithful.escapes object _ broken) (by decide)
  · intro index line object found given
    rw [List.getElem?_map, Option.map_eq_some_iff] at given
    obtain ⟨response, given, rfl⟩ := given
    rw [← List.map_take]
    exact serves.answered_at found given
  · rcases serves.ends with ⟨length, ending⟩ | ⟨line, request, cause, found, read, action, lost⟩
    · left
      refine ⟨?_, runKernel_ended (served ▸ ending)⟩
      rw [List.length_map]
      exact congrArg (· + 1) length
    · right
      refine ⟨transcript.responses.length, line, request, cause, ?_, found, read, action, lost⟩
      rw [List.length_map]
      rfl
  · rintro messages rfl
    exact requests_of_messages faithful messages

theorem cell_after_bad_line_is_answered :
    let cell := "\x7b\"action\": \"execute\", \"cell_id\": \"a\", \"code\": \"print(1).\"\x7d"
    let text := "print(1).\n\n" ++ cell ++ "\r\n\x7b\"action\": \"shutdown\"\x7d\nprint(2)."
    let session (index : Nat) := sessionAfter Json.codec 9 (.start .closed .empty .strict)
      ((requests Json.codec text).take index)
    Json.codec.IsFaithful Json.readLine? ∧ (requests Json.codec text).length = 3 ∧
      (requests Json.codec text)[1]? = some cell ∧
      Answered Json.codec 9 (session 1)
        [[("status", .text "kernel_ready"), ("version", .text "2.0")],
          [("status", .text "error"),
            ("stderr", .text "Malformed request: expected value at line 1 column 1")]] cell
        [("cell_id", .text "a"), ("status", .text "ok"), ("stdout", .text "1\n"),
          ("stderr", .text ""), ("result", .text ""), ("execution_count", .count 1)]
        (session 2) := by
  intro cell text session
  have lines : (Text.lines text.toList).map String.ofList =
      ["print(1).", "", cell, "\x7b\"action\": \"shutdown\"\x7d", "print(2)."] := by
    decide +kernel
  have asked : requests Json.codec text =
      ["print(1).", cell, "\x7b\"action\": \"shutdown\"\x7d"] := by
    rw [requests, lines]
    decide +kernel
  have responses : (serve Json.codec 9 .empty .strict text.toUTF8.data.toList).responses.map
      Response.members =
      [[("status", .text "kernel_ready"), ("version", .text "2.0")],
        [("status", .text "error"),
          ("stderr", .text "Malformed request: expected value at line 1 column 1")],
        [("cell_id", .text "a"), ("status", .text "ok"), ("stdout", .text "1\n"),
          ("stderr", .text ""), ("result", .text ""), ("execution_count", .count 1)],
        [("status", .text "shutdown_ok")]] := by
    rw [serve, streamLines_toUTF8, lines]
    decide +kernel
  obtain ⟨objects, -, read, -, -, answered, -⟩ :=
    requests_are_answered Json.codec_isFaithful 9 .empty .strict text
  rw [runKernel_output, decode_lines Json.codec_isFaithful, responses] at read
  obtain rfl := List.map_injective_iff.2 (Option.some_injective _) read
  have found : (requests Json.codec text)[1]? = some cell := congrArg (·[1]?) asked
  have count : (requests Json.codec text).length = 3 := congrArg List.length asked
  exact ⟨Json.codec_isFaithful, count, found, answered 1 cell _ found rfl⟩

/-- The kernel breaks off at the sort of twenty-one items, one of them a text among numbers: two
requests are sent, and neither is answered. -/
theorem cell_that_breaks_off_is_not_answered :
    let code := "sorted([2, 2, 2, 2, \"a\", 1, 1, 1, 0, 0, 0, 0, 0, 0, 0, 0, 0, 0, 0, 0, 0])."
    let messages : List Message := [⟨"execute", some "a", some code⟩, ⟨"shutdown", none, none⟩]
    let text := String.join (messages.map fun message =>
      Json.codec.write message.members ++ "\n")
    Json.codec.IsFaithful Json.readLine? ∧ (requests Json.codec text).length = 2 ∧ ∀ turns,
      let outcome := CommandLine.runKernel ⟨.strict, Json.codec⟩ turns text.toUTF8.data.toList .empty
      outcome.output = Response.ready.line Json.codec ++ "\n" ∧ outcome.code = 101 := by
  intro code messages text
  refine ⟨Json.codec_isFaithful, ?_, fun turns => ?_⟩
  · rw [requests_of_messages Json.codec_isFaithful]
    decide
  · have out := Session.runSource_breaksOff_iff.2 (Run.sort_of_mixed_items_breaksOff turns)
    exact runKernel_of_breaksOff Json.codec_isFaithful _ rfl out

end Kernel
end DotScript
