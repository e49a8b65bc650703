import DotScript.Proofs.Parser.Concatenation
import DotScript.Proofs.Run.Moments
import DotScript.Proofs.Run.Spans
import DotScript.Session

/-!
# Cells one after the other

A cell goes on where the cell before it ended.  Two cells, and one cell that holds the text of both,
print the same and bind the same values up to spans, unless the first cell is ended by a `give`.
-/

namespace DotScript

open Run

/-- Executes the statements of a program until one gives. -/
def Run.topBlock (turns : Nat) : Program → Run Flow :=
  executeBlock turns (bodyRunner turns maxCallDepth)

/-- Whether a function or a cell ends here. -/
def Flow.gives : Flow → Bool
  | .give _ => true
  | _ => false

/-- Whether a cell comes to a statement that gives outside of all functions. -/
def Session.gives (turns : Nat) (code : String) (session : Session) : Bool :=
  match (do topBlock turns (← load code)).on session.machine with
  | (.ok flow, _) => flow.gives
  | (.error _, _) => false

namespace Run

/-! ## Blocks one after the other -/

/-- A program that did not give goes on with what follows it. -/
theorem topBlock_append {turns : Nat} {first : Program} {machine middle : Machine} {flow : Flow}
    (ran : (topBlock turns first).on machine = (.ok flow, middle)) (stays : flow.gives = false)
    (second : Program) :
    (topBlock turns (first ++ second)).on machine = (topBlock turns second).on middle := by
  induction first generalizing machine with
  | nil =>
      obtain ⟨_, rfl⟩ := Prod.mk.inj ran
      rfl
  | cons stmt rest ih =>
      rw [List.cons_append]
      simp only [topBlock, executeBlock] at ran ih ⊢
      cases result : (execute turns (bodyRunner turns maxCallDepth) stmt).on machine with
      | mk outcome after =>
          cases outcome with
          | error halt =>
              rw [on_bind_of_error result] at ran
              cases ran
          | ok step =>
              rw [on_bind_of_ok result] at ran
              rw [on_bind_of_ok result]
              cases step with
              | give value =>
                  obtain ⟨same, _⟩ := Prod.mk.inj ran
                  rw [← Except.ok.inj same] at stays
                  cases stays
              | next => exact ih ran
              | value value => exact ih ran

/-- A cell leaves the machine that its statements leave, and halts if they do. -/
theorem runCell_on (turns : Nat) (last : Option Value) (program : Program) (machine : Machine) :
    ∃ value, (Session.runCell turns last program).on machine =
      (((topBlock turns program).on machine).1.map fun _ => value,
        ((topBlock turns program).on machine).2) := by
  induction program generalizing last machine with
  | nil => exact ⟨last, rfl⟩
  | cons stmt rest ih =>
      simp only [topBlock, executeBlock, Session.runCell, executeTop] at ih ⊢
      cases result : (execute turns (bodyRunner turns maxCallDepth) stmt).on machine with
      | mk outcome after =>
          cases outcome with
          | error halt =>
              rw [on_bind_of_error result, on_bind_of_error result]
              exact ⟨none, rfl⟩
          | ok flow =>
              rw [on_bind_of_ok result, on_bind_of_ok result]
              cases flow with
              | next => exact ih last after
              | value value => exact ih (Session.proper? value) after
              | give value => exact ⟨Session.proper? value, rfl⟩

/-! ## Labels -/

/-- No label is used up. -/
def KeepsLabels (before after : Machine) : Prop :=
  after.nextLabel = before.nextLabel

instance : IsPreorder Machine KeepsLabels where
  refl _ := rfl
  trans _ _ _ first next := next.trans first

/-- Only loading a program uses up labels. -/
theorem topBlock_keepsLabels (turns : Nat) (program : Program) :
    Keeps KeepsLabels (topBlock turns program) := by
  have bears (run : BodyRunner) (bodies : ∀ body, Keeps KeepsLabels (run body)) :
      BearsBinding KeepsLabels run :=
    { world := fun _ _ _ => rfl
      call := fun closure args body machine => bodies body (machine.enter closure args)
      define := fun _ _ _ => rfl }
  have runner := bodyRunner_keeps_of_bears bears turns maxCallDepth
  exact executeBlock_keeps (bears _ runner) turns program

/-! ## The same run on two machines -/

theorem gives_forgetSpans (flow : Flow) : flow.forgetSpans.gives = flow.gives := by
  cases flow <;> rfl

/-- Programs that are the same up to spans lead to the same on machines that are the same up to
spans, labels and what was printed before. -/
theorem topBlock_alike {turns : Nat} {program program' : Program} {machine machine' after : Machine}
    {before : String} {flow : Flow}
    (programs : Stmt.mapSpans Span.forget program = Stmt.mapSpans Span.forget program')
    (machines : machine.veil before 0 = machine'.veil "" 0)
    (ran : (topBlock turns program).on machine = (.ok flow, after)) :
    ∃ flow' after', (topBlock turns program').on machine' = (.ok flow', after') ∧
      flow'.gives = flow.gives ∧ after.veil before 0 = after'.veil "" 0 := by
  have image := executeBlock_mirrors (bodyRunner_mirrors turns maxCallDepth) turns program
    before 0 machine
  have image' := executeBlock_mirrors (bodyRunner_mirrors turns maxCallDepth) turns program'
    "" 0 machine'
  rw [programs, machines, image'] at image
  obtain ⟨outcomes, machines_after⟩ := Prod.mk.inj image
  simp only [topBlock] at ran ⊢
  rw [ran] at outcomes machines_after
  cases result : (executeBlock turns (bodyRunner turns maxCallDepth) program').on machine' with
  | mk outcome after' =>
      rw [result] at outcomes machines_after
      cases outcome with
      | error halt => cases outcomes
      | ok flow' =>
          refine ⟨flow', after', rfl, ?_, machines_after.symm⟩
          rw [← gives_forgetSpans flow', Except.ok.inj outcomes, gives_forgetSpans]

end Run

/-! ## Cells -/

namespace Session

variable {turns : Nat} {code : String} {program : Program}

/-- The statements of a cell with their labels. -/
def labelled (session : Session) (program : Program) : Program :=
  (program.number session.machine.nextLabel).1

/-- The machine on which the statements of a cell start. -/
def loaded (session : Session) (program : Program) : Machine :=
  { session.machine with nextLabel := (program.number session.machine.nextLabel).2 }

theorem load_on_of_parse (session : Session) (parses : Program.parse code = .ok program) :
    (load code).on session.machine = (.ok (session.labelled program), session.loaded program) := by
  rcases load_on code session.machine with ⟨other, parsed, on⟩ | ⟨diagnostic, failed, _⟩
  · rw [parses] at parsed
    obtain rfl := Except.ok.inj parsed
    exact on
  · rw [parses] at failed
    cases failed

/-- A cell that parses runs its statements. -/
theorem exists_runSource_on (session : Session) (parses : Program.parse code = .ok program) :
    ∃ value, (runSource turns code).run.run session.machine =
      (((topBlock turns (session.labelled program)).on (session.loaded program)).1.map
        fun _ => value,
        ((topBlock turns (session.labelled program)).on (session.loaded program)).2) := by
  obtain ⟨value, cell⟩ := runCell_on turns none (session.labelled program) (session.loaded program)
  have run := on_bind_of_ok (session.load_on_of_parse parses) (runCell turns none)
  rw [cell] at run
  exact ⟨value, run⟩

/-- A cell whose statements come to an end succeeds. -/
theorem execute_of_topBlock {session : Session} (parses : Program.parse code = .ok program)
    {flow : Flow} {after : Machine}
    (ran : (topBlock turns (session.labelled program)).on (session.loaded program) =
      (.ok flow, after)) :
    ∃ result, session.execute turns code =
      (⟨true, after.takeOutput.1, "", result, session.count + 1⟩,
        ⟨after.takeOutput.2, session.count + 1⟩) := by
  obtain ⟨value, run⟩ := exists_runSource_on session parses
  rw [ran] at run
  rw [execute, run]
  exact ⟨_, rfl⟩

/-- A cell that succeeds without giving comes to the end of its statements. -/
theorem exists_topBlock_on {session : Session} (parses : Program.parse code = .ok program)
    (succeeds : (session.execute turns code).1.succeeded = true)
    (stays : session.gives turns code = false) :
    ∃ flow after, (topBlock turns (session.labelled program)).on (session.loaded program) =
      (.ok flow, after) ∧ flow.gives = false := by
  obtain ⟨value, run⟩ := exists_runSource_on session parses
  have block := on_bind_of_ok (session.load_on_of_parse parses) (topBlock turns)
  rw [gives, block] at stays
  cases result : (topBlock turns (session.labelled program)).on (session.loaded program) with
  | mk outcome after =>
      rw [result] at run stays
      cases outcome with
      | ok flow => exact ⟨flow, after, rfl, stays⟩
      | error halt =>
          rw [execute, run] at succeeds
          cases succeeds

/-- Labels go on from one cell to the next as they do within one cell. -/
theorem labelled_append {session : Session} (session' : Session) {first second : Program}
    (next : session'.machine.nextLabel = (session.loaded first).nextLabel)
    (change : Span → Span) :
    session.labelled (first ++ Stmt.mapSpans change second) =
      session.labelled first ++ Stmt.mapSpans change (session'.labelled second) := by
  rw [labelled, labelled, labelled, Program.number, numberBlock_append, numberBlock_mapSpans, next]
  rfl

/-- What was printed before a cell is taken from the machine, and so the same as being printed
before. -/
theorem veil_takeOutput (machine : Machine) :
    machine.takeOutput.2.veil machine.takeOutput.1 0 = machine.veil "" 0 := by
  have same : machine.host.output ++ "" = "" ++ machine.host.output := by
    rw [String.append_empty, String.empty_append]
  exact congrArg (fun output => ({ machine.veil "" 0 with
    host := { machine.host with output } } : Machine)) same

/-- The statements of two cells, run as one cell, lead to the same as the two cells. -/
theorem topBlock_on_append {session : Session} {first second : Program} {middle last : Machine}
    {flow flow' : Flow} {count : Nat} (change : Span → Span)
    (ran : (topBlock turns (session.labelled first)).on (session.loaded first) =
      (.ok flow, middle)) (stays : flow.gives = false)
    (ran' : (topBlock turns (labelled ⟨middle.takeOutput.2, count⟩ second)).on
      (loaded ⟨middle.takeOutput.2, count⟩ second) = (.ok flow', last)) :
    ∃ flow'' after, (topBlock turns (session.labelled (first ++ Stmt.mapSpans change second))).on
        (session.loaded (first ++ Stmt.mapSpans change second)) = (.ok flow'', after) ∧
      last.veil middle.takeOutput.1 0 = after.veil "" 0 := by
  have next : middle.nextLabel = (session.loaded first).nextLabel :=
    (topBlock_keepsLabels turns (session.labelled first)).of_on_eq ran
  have same_start : (session.loaded first).veil "" 0 =
      (session.loaded (first ++ Stmt.mapSpans change second)).veil "" 0 := rfl
  obtain ⟨first_flow, first_end, first_ran, first_gives, same_middle⟩ :=
    topBlock_alike rfl same_start ran
  rw [stays] at first_gives
  have same_second : (loaded ⟨middle.takeOutput.2, count⟩ second).veil middle.takeOutput.1 0 =
      first_end.veil "" 0 := (veil_takeOutput middle).trans same_middle
  have same_statements : Stmt.mapSpans Span.forget (labelled ⟨middle.takeOutput.2, count⟩ second) =
      Stmt.mapSpans Span.forget
        (Stmt.mapSpans change (labelled ⟨middle.takeOutput.2, count⟩ second)) := by
    rw [Stmt.mapSpans_mapSpans]
    rfl
  obtain ⟨flow'', after, second_ran, _, same_end⟩ :=
    topBlock_alike same_statements same_second ran'
  refine ⟨flow'', after, ?_, same_end⟩
  rw [labelled_append ⟨middle.takeOutput.2, count⟩ next, topBlock_append first_ran first_gives, second_ran]

end Session

/-- Splitting a program into cells does not change it.  Two programs, of which the first one ends
with a point or a semicolon and not inside a comment, are one program if they are written one below
the other.  As one cell it prints what the two cells print, and binds what they bind up to spans. -/
theorem cells_make_up_one_program {first second : String} {program program' : Program}
    (parses : Program.parse first = .ok program) (parses' : Program.parse second = .ok program')
    (ended : Token.EndsStatement first) (closed : Token.ending first ≠ .inComment) :
    Program.parse (first ++ "\n" ++ second) =
        .ok (program ++ Stmt.mapSpans
          (Span.shift (first.utf8ByteSize + 1) (first.toList.count '\n' + 1)) program') ∧
      ∀ (turns : Nat) (session : Session),
        let one := session.execute turns first
        let two := one.2.execute turns second
        let joined := session.execute turns (first ++ "\n" ++ second)
        one.1.succeeded = true → session.gives turns first = false →
        two.1.succeeded = true → one.2.gives turns second = false →
          joined.1.succeeded = true ∧ joined.1.stdout = one.1.stdout ++ two.1.stdout ∧
            joined.2.machine.scopes.forgetSpans = two.2.machine.scopes.forgetSpans ∧
            joined.2.machine.host = two.2.machine.host := by
  have whole := parse_append parses parses' ended closed
  refine ⟨whole, ?_⟩
  intro turns session one two joined succeeds stays succeeds' stays'
  obtain ⟨flow, middle, ran, flow_stays⟩ := Session.exists_topBlock_on parses succeeds stays
  obtain ⟨result, first_reply⟩ := Session.execute_of_topBlock parses ran
  subst one two joined
  rw [first_reply] at succeeds' stays' ⊢
  obtain ⟨flow', last, ran', _⟩ := Session.exists_topBlock_on parses' succeeds' stays'
  obtain ⟨result', second_reply⟩ := Session.execute_of_topBlock parses' ran'
  obtain ⟨flow'', after, joined_ran, same⟩ :=
    Session.topBlock_on_append (Span.below first) ran flow_stays ran'
  obtain ⟨result'', joined_reply⟩ := Session.execute_of_topBlock whole joined_ran
  rw [second_reply, joined_reply]
  have printed : middle.takeOutput.1 ++ last.takeOutput.1 = "" ++ after.takeOutput.1 :=
    congrArg (·.host.output) same
  have bound : last.scopes.forgetSpans = after.scopes.forgetSpans := congrArg (·.scopes) same
  have world : last.takeOutput.2.host = after.takeOutput.2.host :=
    congrArg (fun machine : Machine => { machine.host with output := "" }) same
  refine ⟨rfl, ?_, bound.symm, world.symm⟩
  rw [String.empty_append] at printed
  exact printed.symm

theorem function_of_earlier_cell_is_called :
    let first := "print(\"one\").\nfn say(s): print(s). ;"
    let second := "say(\"two\").\nlet again be say"
    let fresh := Session.start .closed .empty .strict
    ∃ program program', Program.parse first = .ok program ∧ Program.parse second = .ok program' ∧
      Token.EndsStatement first ∧ Token.ending first ≠ .inComment ∧
      Program.parse (first ++ "\n" ++ second) =
        .ok (program ++ Stmt.mapSpans (Span.shift 37 2) program') ∧
      (fresh.execute 9 (first ++ "\n" ++ second)).1.succeeded = true ∧
      (fresh.execute 9 (first ++ "\n" ++ second)).1.stdout = "one\ntwo\n" := by
  intro first second fresh
  have parsed {code : String} (accepted : (Program.parse code).isOk = true) :
      ∃ program, Program.parse code = .ok program := by
    cases outcome : Program.parse code with
    | ok program => exact ⟨program, rfl⟩
    | error diagnostic =>
        rw [outcome] at accepted
        cases accepted
  obtain ⟨program, parses⟩ := parsed (show (Program.parse first).isOk = true by decide +kernel)
  obtain ⟨program', parses'⟩ := parsed (show (Program.parse second).isOk = true by decide +kernel)
  have ended : Token.EndsStatement first := by decide +kernel
  have closed : Token.ending first ≠ .inComment := by decide +kernel
  have whole := cells_make_up_one_program parses parses' ended closed
  have run := whole.2 9 fresh (by decide +kernel) (by decide +kernel) (by decide +kernel)
    (by decide +kernel)
  have printed : (fresh.execute 9 first).1.stdout ++
      ((fresh.execute 9 first).2.execute 9 second).1.stdout = "one\ntwo\n" := by decide +kernel
  have bytes : first.utf8ByteSize = 36 := by decide +kernel
  have lines : first.toList.count '\n' = 1 := by decide +kernel
  have shifted := whole.1
  rw [bytes, lines] at shifted
  exact ⟨program, program', parses, parses', ended, closed, shifted, run.1, run.2.1.trans printed⟩

end DotScript
