import DotScript.Proofs.Run.SyntaxFaults
import DotScript.Proofs.Session.Cells
import DotScript.Proofs.Session.Reset
import DotScript.Session

/-!
# Evaluation, scripts and cells agree

Evaluation ends at the first statement that fails.  A script prints what the statement is at fault
with and goes on after it.  A cell ends as evaluation does, but may give.  Up to the first statement
that fails or gives the three do the same: `hosts_agree`.
-/

namespace DotScript

open Run

/-- Whether a run halted because the program is at fault. -/
def Halt.isFault : Halt → Bool
  | .failed _ => true
  | _ => false

/-- The machine after a fault has been printed. -/
def Machine.afterReport (diagnostic : Diagnostic) (machine : Machine) : Machine :=
  { machine with
    host := { machine.host with
      output := machine.host.output ++ ("Error: " ++ diagnostic.text ++ "\n") } }

theorem Machine.leadsTo_afterReport (diagnostic : Diagnostic) (machine : Machine) :
    machine.LeadsTo (machine.afterReport diagnostic) :=
  ⟨⟨_, rfl⟩, .refl _, rfl, rfl⟩

theorem Run.on_report (diagnostic : Diagnostic) (machine : Machine) :
    (report diagnostic).on machine = (.ok (), machine.afterReport diagnostic) :=
  rfl

namespace Script

variable {turns : Nat} {stmt : Stmt} {machine after : Machine} {halt : Halt}
  {diagnostic : Diagnostic}

/-! ## One statement -/

/-- Whether a statement of a script fails: it halts, or gives outside of all functions. -/
def fails (turns : Nat) (stmt : Stmt) (machine : Machine) : Bool :=
  match (executeTop turns stmt).on machine with
  | (.ok flow, _) => flow.gives
  | (.error _, _) => true

/-- A statement that comes to its end does not give. -/
theorem exists_flow_of_ok (executed : (executeStatement turns stmt).on machine = (.ok (), after)) :
    ∃ flow, (executeTop turns stmt).on machine = (.ok flow, after) ∧ flow.gives = false := by
  rw [executeStatement, on_bind] at executed
  cases result : (executeTop turns stmt).on machine with
  | mk outcome last =>
      rw [result] at executed
      cases outcome with
      | error halt => cases executed
      | ok flow =>
          cases flow with
          | give value => cases executed
          | next =>
              cases executed
              exact ⟨_, rfl, rfl⟩
          | value value =>
              cases executed
              exact ⟨_, rfl, rfl⟩

/-- A statement that does not come to its end halts by itself, or gives. -/
theorem halts_or_gives_of_error
    (executed : (executeStatement turns stmt).on machine = (.error halt, after)) :
    (executeTop turns stmt).on machine = (.error halt, after) ∨
      ∃ value, (executeTop turns stmt).on machine = (.ok (.give value), after) ∧
        halt = .ofFault stmt.span (.running .giveOutside) := by
  rw [executeStatement, on_bind] at executed
  cases result : (executeTop turns stmt).on machine with
  | mk outcome last =>
      rw [result] at executed
      cases outcome with
      | error halt =>
          cases executed
          exact .inl rfl
      | ok flow =>
          cases flow with
          | next => cases executed
          | value value => cases executed
          | give value =>
              cases executed
              exact .inr ⟨value, rfl, rfl⟩

theorem fails_of_ok (executed : (executeStatement turns stmt).on machine = (.ok (), after)) :
    fails turns stmt machine = false := by
  obtain ⟨flow, result, stays⟩ := exists_flow_of_ok executed
  rw [fails, result]
  exact stays

theorem fails_of_error
    (executed : (executeStatement turns stmt).on machine = (.error halt, after)) :
    fails turns stmt machine = true := by
  rcases halts_or_gives_of_error executed with result | ⟨value, result, _⟩
  · rw [fails, result]
  · rw [fails, result]
    rfl

theorem executeStatement_machine (turns : Nat) (stmt : Stmt) (machine : Machine) :
    ((executeStatement turns stmt).on machine).2 = ((executeTop turns stmt).on machine).2 := by
  cases executed : (executeStatement turns stmt).on machine with
  | mk outcome after =>
      cases outcome with
      | ok _ =>
          obtain ⟨flow, result, _⟩ := exists_flow_of_ok executed
          rw [result]
      | error halt =>
          rcases halts_or_gives_of_error executed with result | ⟨value, result, _⟩
          · rw [result]
          · rw [result]

/-! ## Statements one after the other -/

theorem runProgram_cons_of_ok
    (executed : (executeStatement turns stmt).on machine = (.ok (), after)) (last : Value)
    (rest : Program) :
    ∃ last', (runProgram turns last (stmt :: rest)).on machine =
      (runProgram turns last' rest).on after := by
  obtain ⟨flow, result, stays⟩ := exists_flow_of_ok executed
  rw [runProgram, on_bind_of_ok result]
  cases flow with
  | next => exact ⟨last, rfl⟩
  | value value => exact ⟨value, rfl⟩
  | give value => cases stays

/-- Evaluation ends where a statement fails. -/
theorem runProgram_cons_of_error
    (executed : (executeStatement turns stmt).on machine = (.error halt, after)) (last : Value)
    (rest : Program) :
    (runProgram turns last (stmt :: rest)).on machine = (.error halt, after) := by
  rcases halts_or_gives_of_error executed with result | ⟨value, result, rfl⟩
  · rw [runProgram, on_bind_of_error result]
  · rw [runProgram, on_bind_of_ok result]
    rfl

variable (summary : Summary) (rest : Program)

theorem runStatements_cons_of_ok
    (executed : (executeStatement turns stmt).on machine = (.ok (), after)) :
    (runStatements turns summary (stmt :: rest)).on machine =
      (runStatements turns { summary with executed := summary.executed + 1 } rest).on after := by
  have attempted : (attempt (executeStatement turns stmt)).on machine = (.ok (.ok ()), after) := by
    rw [on_attempt, executed]
  rw [runStatements, on_bind_of_ok attempted]

/-- A script reports the statement that fails and goes on. -/
theorem runStatements_cons_of_failed
    (executed : (executeStatement turns stmt).on machine = (.error (.failed diagnostic), after)) :
    (runStatements turns summary (stmt :: rest)).on machine =
      (runStatements turns
        { summary with executed := summary.executed + 1, failed := summary.failed + 1 } rest).on
        (after.afterReport diagnostic) := by
  have attempted : (attempt (executeStatement turns stmt)).on machine =
      (.ok (.error diagnostic), after) := by
    rw [on_attempt, executed]
  rw [runStatements, on_bind_of_ok attempted]
  exact on_bind_of_ok (on_report diagnostic after) _

theorem runStatements_cons_of_halt
    (executed : (executeStatement turns stmt).on machine = (.error halt, after))
    (other : halt.isFault = false) :
    (runStatements turns summary (stmt :: rest)).on machine = (.error halt, after) := by
  have attempted : (attempt (executeStatement turns stmt)).on machine = (.error halt, after) := by
    rw [on_attempt, executed]
    cases halt with
    | failed diagnostic => cases other
    | system error => rfl
    | unfinished cause => rfl
  rw [runStatements, on_bind_of_error attempted]

/-- Scripts, statement by statement: each comes to its end, or fails and is reported, or halts
otherwise and ends the script. -/
theorem statement_induction (turns : Nat) {motive : Program → Machine → Prop}
    (nil : ∀ machine, motive [] machine)
    (goes : ∀ stmt rest machine after,
      (executeStatement turns stmt).on machine = (.ok (), after) → motive rest after →
      motive (stmt :: rest) machine)
    (fails : ∀ stmt rest machine diagnostic after,
      (executeStatement turns stmt).on machine = (.error (.failed diagnostic), after) →
      motive rest (after.afterReport diagnostic) → motive (stmt :: rest) machine)
    (halts : ∀ stmt rest machine halt after,
      (executeStatement turns stmt).on machine = (.error halt, after) →
      halt.isFault = false → motive (stmt :: rest) machine)
    (program : Program) (machine : Machine) : motive program machine := by
  induction program generalizing machine with
  | nil => exact nil machine
  | cons stmt rest ih =>
      cases executed : (executeStatement turns stmt).on machine with
      | mk outcome after =>
          match outcome with
          | .ok () => exact goes stmt rest machine after executed (ih after)
          | .error (.failed diagnostic) =>
              exact fails stmt rest machine diagnostic after executed (ih _)
          | .error (.system error) => exact halts stmt rest machine _ after executed rfl
          | .error (.unfinished cause) => exact halts stmt rest machine _ after executed rfl

/-! ## What scripts and evaluation come to -/

/-- What has been counted before makes no difference to what a script does. -/
theorem runStatements_machine (turns : Nat) (program : Program) (machine : Machine)
    (summary summary' : Summary) :
    ((runStatements turns summary program).on machine).2 =
      ((runStatements turns summary' program).on machine).2 := by
  induction program, machine using statement_induction turns
    generalizing summary summary' with
  | nil => rfl
  | goes stmt rest machine after executed ih =>
      rw [runStatements_cons_of_ok _ _ executed, runStatements_cons_of_ok _ _ executed, ih]
  | fails stmt rest machine diagnostic after executed ih =>
      rw [runStatements_cons_of_failed _ _ executed, runStatements_cons_of_failed _ _ executed, ih]
  | halts stmt rest machine halt after executed other =>
      rw [runStatements_cons_of_halt _ _ executed other,
        runStatements_cons_of_halt _ _ executed other]

/-- The machine on which a script executes the statement at some place in it. -/
def machineAt (turns : Nat) (program : Program) (machine : Machine) (index : Nat) : Machine :=
  ((runStatements turns ⟨0, 0, false⟩ (program.take index)).on machine).2

/-- Whether the statement at some place in a script fails when the script executes it. -/
def failsAt (turns : Nat) (program : Program) (machine : Machine) (index : Nat) : Bool :=
  match program[index]? with
  | some stmt => fails turns stmt (machineAt turns program machine index)
  | none => false

/-- The number of statements of a script that fail. -/
def failures (turns : Nat) (program : Program) (machine : Machine) : Nat :=
  (List.range program.length).countP (failsAt turns program machine)

/-- If a script goes on after a statement, then what fails is the statement, if it does, and what
fails after it. -/
theorem failures_cons (goes_on : ∀ program : Program, ∃ summary,
      (runStatements turns ⟨0, 0, false⟩ (stmt :: program)).on machine =
        (runStatements turns summary program).on after) :
    failures turns (stmt :: rest) machine =
      failures turns rest after + (fails turns stmt machine).toNat := by
  have first : failsAt turns (stmt :: rest) machine 0 = fails turns stmt machine := rfl
  have later : failsAt turns (stmt :: rest) machine ∘ Nat.succ = failsAt turns rest after := by
    funext index
    obtain ⟨summary, step⟩ := goes_on (rest.take index)
    simp only [Function.comp_apply, failsAt, machineAt, List.getElem?_cons_succ,
      List.take_succ_cons, step]
    rw [runStatements_machine]
  rw [failures, List.length_cons, List.range_succ_eq_map, List.countP_cons, List.countP_map, later,
    first, failures]
  cases fails turns stmt machine <;> rfl

/-- A script that comes to its end counts all its statements, and those that fail. -/
theorem runStatements_counts {program : Program} {summary result : Summary} {last : Machine}
    (ran : (runStatements turns summary program).on machine = (.ok result, last)) :
    result = ⟨summary.executed + program.length, summary.failed + failures turns program machine,
      summary.syntaxError⟩ := by
  induction program, machine using statement_induction turns generalizing summary with
  | nil =>
      cases ran
      rfl
  | goes stmt rest machine after executed ih =>
      rw [runStatements_cons_of_ok _ _ executed] at ran
      have count := failures_cons rest fun program =>
        ⟨_, runStatements_cons_of_ok _ program executed⟩
      rw [ih ran, count, fails_of_ok executed, List.length_cons]
      simp only [Summary.mk.injEq, and_true, Bool.toNat_false]
      omega
  | fails stmt rest machine diagnostic after executed ih =>
      rw [runStatements_cons_of_failed _ _ executed] at ran
      have count := failures_cons rest fun program =>
        ⟨_, runStatements_cons_of_failed _ program executed⟩
      rw [ih ran, count, fails_of_error executed, List.length_cons]
      simp only [Summary.mk.injEq, and_true, Bool.toNat_true]
      omega
  | halts stmt rest machine halt after executed other =>
      rw [runStatements_cons_of_halt _ _ executed other] at ran
      cases ran

/-- A script prints after what was printed before it. -/
theorem runStatements_leadsTo (turns : Nat) (summary : Summary) (program : Program)
    (machine : Machine) :
    machine.LeadsTo ((runStatements turns summary program).on machine).2 := by
  have step (stmt : Stmt) (machine : Machine) :
      machine.LeadsTo ((executeStatement turns stmt).on machine).2 := by
    rw [executeStatement_machine]
    exact executeTop_leadsTo turns stmt machine
  induction program, machine using statement_induction turns generalizing summary with
  | nil machine => exact .refl machine.host
  | goes stmt rest machine after executed ih =>
      have here := step stmt machine
      rw [executed] at here
      rw [runStatements_cons_of_ok _ _ executed]
      exact Host.LeadsTo.trans here (ih _)
  | fails stmt rest machine diagnostic after executed ih =>
      have here := step stmt machine
      rw [executed] at here
      rw [runStatements_cons_of_failed _ _ executed]
      exact Host.LeadsTo.trans here ((after.leadsTo_afterReport diagnostic).trans (ih _))
  | halts stmt rest machine halt after executed other =>
      have here := step stmt machine
      rw [executed] at here
      rw [runStatements_cons_of_halt _ _ executed other]
      exact here

section Evaluation

variable {program : Program} {last : Value}

/-- Where evaluation comes to its end, the script does the same. -/
theorem runStatements_of_runProgram_ok {value : Value}
    (ran : (runProgram turns last program).on machine = (.ok value, after)) (summary : Summary) :
    (runStatements turns summary program).on machine =
      (.ok { summary with executed := summary.executed + program.length }, after) := by
  induction program, machine using statement_induction turns generalizing last summary with
  | nil =>
      cases ran
      rfl
  | goes stmt rest machine middle executed ih =>
      obtain ⟨last', later⟩ := runProgram_cons_of_ok executed last rest
      rw [later] at ran
      rw [runStatements_cons_of_ok _ _ executed, ih ran, List.length_cons, Nat.add_right_comm]
      rfl
  | fails stmt rest machine diagnostic middle executed _ =>
      rw [runProgram_cons_of_error executed] at ran
      cases ran
  | halts stmt rest machine halt middle executed _ =>
      rw [runProgram_cons_of_error executed] at ran
      cases ran

/-- Where evaluation fails, the script reports the fault and goes on. -/
theorem runStatements_of_runProgram_failed
    (ran : (runProgram turns last program).on machine = (.error (.failed diagnostic), after))
    (summary : Summary) :
    ∃ executed rest, (runStatements turns summary program).on machine =
      (runStatements turns ⟨executed, summary.failed + 1, summary.syntaxError⟩ rest).on
        (after.afterReport diagnostic) := by
  induction program, machine using statement_induction turns generalizing last summary with
  | nil => cases ran
  | goes stmt rest machine middle executed ih =>
      obtain ⟨last', later⟩ := runProgram_cons_of_ok executed last rest
      rw [later] at ran
      rw [runStatements_cons_of_ok _ _ executed]
      exact ih ran _
  | fails stmt rest machine diagnostic middle executed _ =>
      rw [runProgram_cons_of_error executed] at ran
      cases ran
      exact ⟨_, rest, runStatements_cons_of_failed _ _ executed⟩
  | halts stmt rest machine halt middle executed other =>
      rw [runProgram_cons_of_error executed] at ran
      cases ran
      cases other

/-- Where evaluation halts otherwise, the script does as well. -/
theorem runStatements_of_runProgram_halt
    (ran : (runProgram turns last program).on machine = (.error halt, after))
    (other : halt.isFault = false) (summary : Summary) :
    (runStatements turns summary program).on machine = (.error halt, after) := by
  induction program, machine using statement_induction turns generalizing last summary with
  | nil => cases ran
  | goes stmt rest machine middle executed ih =>
      obtain ⟨last', later⟩ := runProgram_cons_of_ok executed last rest
      rw [later] at ran
      rw [runStatements_cons_of_ok _ _ executed]
      exact ih ran _
  | fails stmt rest machine diagnostic middle executed _ =>
      rw [runProgram_cons_of_error executed] at ran
      cases ran
      cases other
  | halts stmt rest machine halt middle executed other =>
      rw [runProgram_cons_of_error executed] at ran
      cases ran
      exact runStatements_cons_of_halt _ _ executed other

end Evaluation

/-- A script that does not come to its end, and does not read from a stream, has a loop that takes
too many turns. -/
theorem unfinished_of_runStatements_error {source : String} {program stmts : Program} {label : Nat}
    {summary : Summary} (parsed : Program.parse source = .ok program)
    (part : stmts ⊆ (program.number label).1) (reachable : machine.Reachable)
    (captured : machine.host.input.isStream = false)
    (ran : (runStatements turns summary stmts).on machine = (.error halt, after)) :
    ∃ cause, halt = .unfinished cause := by
  have step {stmt : Stmt} {machine : Machine} (found : stmt ∈ (program.number label).1)
      (reachable : machine.Reachable) (captured : machine.host.input.isStream = false) :
      ((executeStatement turns stmt).on machine).2.Reachable ∧
        ((executeStatement turns stmt).on machine).2.host.input.isStream = false := by
    rw [executeStatement_machine]
    have leads := executeTop_leadsTo turns stmt machine
    exact ⟨reachable.execute turns parsed found, leads.input.isStream_eq.trans captured⟩
  induction stmts, machine using statement_induction turns generalizing summary with
  | nil => cases ran
  | goes stmt rest machine middle executed ih =>
      have next := step (part List.mem_cons_self) reachable captured
      rw [executed] at next
      rw [runStatements_cons_of_ok _ _ executed] at ran
      exact ih (List.subset_of_cons_subset part) next.1 next.2 ran
  | fails stmt rest machine diagnostic middle executed ih =>
      have next := step (part List.mem_cons_self) reachable captured
      rw [executed] at next
      rw [runStatements_cons_of_failed _ _ executed] at ran
      exact ih (List.subset_of_cons_subset part) (.world _ next.1) next.2 ran
  | halts stmt rest machine halt middle executed other =>
      have found := part List.mem_cons_self
      have next := step found reachable captured
      rw [executed] at next
      rw [runStatements_cons_of_halt _ _ executed other] at ran
      cases ran
      have halted : (executeTop turns stmt).on machine = (.error halt, after) := by
        rcases halts_or_gives_of_error executed with result | ⟨_, _, rfl⟩
        · exact result
        · cases other
      have arises := executeTop_halts_of_parse turns parsed found machine reachable.soundReadable
        halt after halted
      cases halt with
      | failed diagnostic => cases other
      | system error =>
          rw [Halt.Arises, next.2] at arises
          cases arises
      | unfinished cause => exact ⟨cause, rfl⟩

/-! ## Sources -/

section Sources

variable {source : String} {program : Program}

/-- A script that does not parse runs nothing. -/
theorem run_of_parse_error (failed : Program.parse source = .error diagnostic) :
    (run turns source).on machine = (.ok ⟨0, 0, true⟩, machine.afterReport diagnostic) := by
  rcases load_on source machine with ⟨_, parsed, _⟩ | ⟨found, same, loaded⟩
  · rw [failed] at parsed
    cases parsed
  · rw [failed] at same
    cases same
    have attempted : (attempt (load source)).on machine = (.ok (.error diagnostic), machine) := by
      rw [on_attempt, loaded]
    rw [run, on_bind_of_ok attempted]
    rfl

theorem run_of_load (loaded : (load source).on machine = (.ok program, after)) :
    (run turns source).on machine = (runStatements turns ⟨0, 0, false⟩ program).on after := by
  have attempted : (attempt (load source)).on machine = (.ok (.ok program), after) := by
    rw [on_attempt, loaded]
  rw [run, on_bind_of_ok attempted]

theorem evalSource_of_load (loaded : (load source).on machine = (.ok program, after)) :
    (evalSource turns source).on machine = (runProgram turns .none program).on after := by
  rw [evalSource, on_bind_of_ok loaded]

/-- A script that parses has a loop that takes too many turns, or counts its statements and those
that fail. -/
theorem run_of_parse {parsed : Program} (parses : Program.parse source = .ok parsed)
    (reachable : machine.Reachable) (captured : machine.host.input.isStream = false)
    (turns : Nat) :
    ∃ program loaded, (load source).on machine = (.ok program, loaded) ∧
      ((∃ cause, ((run turns source).on machine).1 = .error (.unfinished cause)) ∨
        ((run turns source).on machine).1 =
          .ok ⟨parsed.length, failures turns program loaded, false⟩) := by
  rcases load_on source machine with ⟨found, same, loaded⟩ | ⟨_, failed, _⟩
  · rw [parses] at same
    cases same
    refine ⟨_, _, loaded, ?_⟩
    have loaded_reachable := reachable.load source
    rw [loaded] at loaded_reachable
    rw [run_of_load loaded]
    cases ran : (runStatements turns ⟨0, 0, false⟩ (parsed.number machine.nextLabel).1).on
        { machine with nextLabel := (parsed.number machine.nextLabel).2 } with
    | mk outcome after =>
        cases outcome with
        | error halt =>
            obtain ⟨cause, rfl⟩ := unfinished_of_runStatements_error parses (List.Subset.refl _)
              loaded_reachable captured ran
            exact .inl ⟨cause, rfl⟩
        | ok summary =>
            right
            rw [runStatements_counts ran, Program.number, length_numberBlock, Nat.zero_add,
              Nat.zero_add]
  · rw [parses] at failed
    cases failed

/-- Evaluation that comes to its end does what the script does, and nothing of it fails. -/
theorem run_of_evalSource_ok {value : Value}
    (evaluated : (evalSource turns source).on machine = (.ok value, after)) :
    ∃ executed, (run turns source).on machine = (.ok ⟨executed, 0, false⟩, after) := by
  rcases load_on source machine with ⟨program, _, loaded⟩ | ⟨diagnostic, _, failed⟩
  · rw [evalSource_of_load loaded] at evaluated
    rw [run_of_load loaded, runStatements_of_runProgram_ok evaluated]
    exact ⟨_, rfl⟩
  · rw [evalSource, on_bind_of_error failed] at evaluated
    cases evaluated

/-- Evaluation that fails has printed what the script prints before it reports the fault, and the
script does not succeed. -/
theorem run_of_evalSource_failed
    (evaluated : (evalSource turns source).on machine = (.error (.failed diagnostic), after)) :
    (after.afterReport diagnostic).LeadsTo ((run turns source).on machine).2 ∧
      ∀ summary, ((run turns source).on machine).1 = .ok summary → summary.succeeded = false := by
  rcases load_on source machine with ⟨program, _, loaded⟩ | ⟨found, parsed, failed⟩
  · rw [evalSource_of_load loaded] at evaluated
    obtain ⟨executed, rest, goes_on⟩ := runStatements_of_runProgram_failed evaluated ⟨0, 0, false⟩
    rw [run_of_load loaded, goes_on]
    refine ⟨runStatements_leadsTo _ _ _ _, fun summary ran => ?_⟩
    rw [runStatements_counts (Prod.ext ran rfl)]
    simp [Summary.succeeded]
  · rw [evalSource, on_bind_of_error failed] at evaluated
    cases evaluated
    rw [run_of_parse_error parsed]
    refine ⟨.refl _, fun summary ran => ?_⟩
    cases ran
    rfl

/-- Evaluation that halts otherwise than with a fault halts the script. -/
theorem run_of_evalSource_halt
    (evaluated : (evalSource turns source).on machine = (.error halt, after))
    (other : halt.isFault = false) :
    (run turns source).on machine = (.error halt, after) := by
  rcases load_on source machine with ⟨program, _, loaded⟩ | ⟨diagnostic, _, failed⟩
  · rw [evalSource_of_load loaded] at evaluated
    rw [run_of_load loaded]
    exact runStatements_of_runProgram_halt evaluated other _
  · rw [evalSource, on_bind_of_error failed] at evaluated
    cases evaluated
    cases other

/-- Evaluation comes to its end exactly if the script succeeds. -/
theorem evalSource_isOk_iff_succeeded (turns : Nat) (source : String) (machine : Machine) :
    (∃ value, ((evalSource turns source).on machine).1 = .ok value) ↔
      ∃ summary, ((run turns source).on machine).1 = .ok summary ∧ summary.succeeded = true := by
  constructor
  · rintro ⟨value, evaluated⟩
    obtain ⟨executed, ran⟩ := run_of_evalSource_ok (Prod.ext evaluated rfl)
    exact ⟨_, congrArg Prod.fst ran, rfl⟩
  · rintro ⟨summary, ran, succeeded⟩
    cases evaluated : (evalSource turns source).on machine with
    | mk outcome after =>
        match outcome with
        | .ok value => exact ⟨value, rfl⟩
        | .error (.failed diagnostic) =>
            have unsuccessful := (run_of_evalSource_failed evaluated).2 summary ran
            rw [unsuccessful] at succeeded
            cases succeeded
        | .error (.system error) =>
            rw [run_of_evalSource_halt evaluated rfl] at ran
            cases ran
        | .error (.unfinished cause) =>
            rw [run_of_evalSource_halt evaluated rfl] at ran
            cases ran

end Sources

end Script

/-! ## Cells -/

namespace Session

variable {turns : Nat} {machine : Machine}

/-- A cell that does not give does what evaluation does; its value is that of evaluation, unless this
is none. -/
theorem runCell_of_stays {program : Program}
    (stays : ∀ flow after, (topBlock turns program).on machine = (.ok flow, after) →
      flow.gives = false) (last : Value) :
    (runCell turns (proper? last) program).on machine =
      (((runProgram turns last program).on machine).1.map proper?,
        ((runProgram turns last program).on machine).2) := by
  induction program generalizing machine last with
  | nil => rfl
  | cons stmt rest ih =>
      simp only [topBlock, executeBlock] at stays ih
      simp only [runCell, runProgram, executeTop]
      cases result : (Run.execute turns (bodyRunner turns maxCallDepth) stmt).on machine with
      | mk outcome after =>
          cases outcome with
          | error halt =>
              rw [on_bind_of_error result, on_bind_of_error result]
              rfl
          | ok flow =>
              rw [on_bind_of_ok result] at stays
              rw [on_bind_of_ok result, on_bind_of_ok result]
              cases flow with
              | next => exact ih stays last
              | value value => exact ih stays value
              | give value => cases stays _ _ rfl

theorem runSource_of_stays {session : Session} {code : String}
    (stays : session.gives turns code = false) :
    (runSource turns code).on session.machine =
      (((evalSource turns code).on session.machine).1.map proper?,
        ((evalSource turns code).on session.machine).2) := by
  rcases load_on code session.machine with ⟨program, _, loaded⟩ | ⟨diagnostic, _, failed⟩
  · rw [gives, on_bind_of_ok loaded] at stays
    rw [runSource, on_bind_of_ok loaded, evalSource, on_bind_of_ok loaded]
    refine runCell_of_stays (fun flow after ran => ?_) .none
    rw [ran] at stays
    exact stays
  · rw [runSource, on_bind_of_error failed, evalSource, on_bind_of_error failed]
    rfl

/-- A cell that does not give succeeds exactly if evaluation does, and prints and leaves behind the
same. -/
theorem execute_of_stays {session : Session} {code : String}
    (stays : session.gives turns code = false) :
    let eval := (evalSource turns code).on session.machine
    let cell := session.execute turns code
    (cell.1.succeeded = true ↔ ∃ value, eval.1 = .ok value) ∧
      cell.1.stdout = eval.2.host.output ∧ cell.2.machine = eval.2.takeOutput.2 ∧
      ∀ value, eval.1 = .ok value →
        cell.1.result = if value.isNone then "" else value.display := by
  intro eval cell
  have ran := runSource_of_stays stays
  cases evaluated : (evalSource turns code).on session.machine with
  | mk outcome after =>
      rw [evaluated] at ran
      subst eval cell
      cases outcome with
      | error halt =>
          rw [execute_of_error ran, evaluated]
          exact ⟨⟨nofun, nofun⟩, rfl, rfl, nofun⟩
      | ok value =>
          rw [execute_of_ok ran, evaluated]
          refine ⟨⟨fun _ => ⟨value, rfl⟩, fun _ => rfl⟩, rfl, rfl, fun found same => ?_⟩
          cases same
          rw [proper?]
          split <;> rfl

end Session

/-- The hosts agree, on every machine that has run any sources and does not read from a stream.  A
script that does not parse runs nothing and prints why.  A script that parses either has a loop that
takes too many turns or counts its statements, and among them those that fail or give.  Evaluation
comes to its end exactly if the script succeeds, and then they leave the same machine; evaluation
that fails has printed what the script prints before it reports this fault.  A cell that does not
give succeeds exactly if evaluation does; it prints and leaves behind the same, and its result is the
text of the value of evaluation, or empty if this is none. -/
theorem hosts_agree {machine : Machine} (reachable : machine.Reachable)
    (captured : machine.host.input.isStream = false) (turns : Nat) (source : String) :
    let eval := (evalSource turns source).on machine
    let script := (Script.run turns source).on machine
    (∀ diagnostic, Program.parse source = .error diagnostic →
      script = (.ok ⟨0, 0, true⟩, machine.afterReport diagnostic)) ∧
    (∀ parsed, Program.parse source = .ok parsed →
      ∃ program loaded, (load source).on machine = (.ok program, loaded) ∧
        ((∃ cause, script.1 = .error (.unfinished cause)) ∨
          script.1 = .ok ⟨parsed.length, Script.failures turns program loaded, false⟩)) ∧
    ((∃ value, eval.1 = .ok value) ↔
      ∃ summary, script.1 = .ok summary ∧ summary.succeeded = true) ∧
    (∀ value, eval.1 = .ok value → script.2 = eval.2) ∧
    (∀ diagnostic, eval.1 = .error (.failed diagnostic) →
      ∃ later, script.2.host.output =
        eval.2.host.output ++ ("Error: " ++ diagnostic.text ++ "\n") ++ later) ∧
    (∀ count, Session.gives turns source ⟨machine, count⟩ = false →
      let cell := Session.execute turns source ⟨machine, count⟩
      (cell.1.succeeded = true ↔ ∃ value, eval.1 = .ok value) ∧
        cell.1.stdout = eval.2.host.output ∧ cell.2.machine = eval.2.takeOutput.2 ∧
        ∀ value, eval.1 = .ok value →
          cell.1.result = if value.isNone then "" else value.display) := by
  intro eval script
  refine ⟨fun diagnostic failed => Script.run_of_parse_error failed,
    fun parsed parses => Script.run_of_parse parses reachable captured turns,
    Script.evalSource_isOk_iff_succeeded turns source machine, ?_, ?_,
    fun count stays => Session.execute_of_stays stays⟩
  · intro value evaluated
    obtain ⟨executed, ran⟩ := Script.run_of_evalSource_ok (Prod.ext evaluated rfl)
    exact congrArg Prod.snd ran
  · intro diagnostic evaluated
    have leads := (Script.run_of_evalSource_failed (Prod.ext evaluated rfl)).1
    exact leads.output

/-- A script of which all statements but the first one fail, the third by giving. -/
theorem script_goes_on_after_failures :
    let machine := Machine.start (.start .closed .empty true .strict)
    let source := "print(1).\nlet x be 1 / 0.\ngive 2.\nx."
    let code := "let x be 2. x + 1"
    machine.Reachable ∧ machine.host.input.isStream = false ∧
      ((Script.run 1 source).on machine).1 = .ok ⟨4, 3, false⟩ ∧
      (∃ later, ((Script.run 1 source).on machine).2.host.output =
        "1\nError: DivisionByZeroError: Division by zero (line 2)\n" ++ later) ∧
      (Session.execute 1 code ⟨machine, 7⟩).1.succeeded = true ∧
      (Session.execute 1 code ⟨machine, 7⟩).1.stdout = "3\n" ∧
      (Session.execute 1 code ⟨machine, 7⟩).1.result = "3" := by
  intro machine source code
  have reachable : machine.Reachable := .start _
  have captured : machine.host.input.isStream = false := rfl
  have counted : ((Script.run 1 source).on machine).1 = .ok ⟨4, 3, false⟩ := by decide +kernel
  refine ⟨reachable, captured, counted, ?_, ?_⟩
  · have reported := (hosts_agree reachable captured 1 source).2.2.2.2.1
    let diagnostic : Diagnostic := ⟨.zeroDivision .division, ⟨19, 24, 2⟩⟩
    have evaluated : ((evalSource 1 source).on machine).1 = .error (.failed diagnostic) :=
      on_eq_error_of_map (by decide +kernel)
    have printed : ((evalSource 1 source).on machine).2.host.output ++
        ("Error: " ++ diagnostic.text ++ "\n") =
        "1\nError: DivisionByZeroError: Division by zero (line 2)\n" := by decide +kernel
    obtain ⟨later, output⟩ := reported diagnostic evaluated
    rw [printed] at output
    exact ⟨later, output⟩
  · have stays : Session.gives 1 code ⟨machine, 7⟩ = false := by decide +kernel
    have same := (hosts_agree reachable captured 1 code).2.2.2.2.2 7 stays
    have succeeded : (Session.execute 1 code ⟨machine, 7⟩).1.succeeded = true := by decide +kernel
    have result : (Session.execute 1 code ⟨machine, 7⟩).1.result = "3" := by decide +kernel
    have printed : ((evalSource 1 code).on machine).2.host.output = "3\n" := by decide +kernel
    exact ⟨succeeded, same.2.1.trans printed, result⟩

end DotScript
