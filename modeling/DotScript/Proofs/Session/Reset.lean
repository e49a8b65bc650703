import DotScript.Proofs.Run.Keeping
import DotScript.Session

/-!
# A reset session is a new one

A session is asked for one thing after the other: to execute a cell, to complete a name, to tell its
counter, to reset.  Whatever it did before, after a reset it answers as a new session does that has
the rest of the input and the same files: `reset_starts_anew`.
-/

namespace DotScript
namespace Session

/-- What a session can be asked for. -/
inductive Step
  | execute (code : String)
  | complete (start : String)
  | count
  | reset

/-- What a session answers. -/
inductive Answer
  | reply (reply : Reply)
  | names (names : List String)
  | count (count : Nat)
deriving DecidableEq

/-- Does what is asked for. -/
def step (turns : Nat) (session : Session) : Step → Answer × Session
  | .execute code =>
    let (reply, after) := session.execute turns code
    (.reply reply, after)
  | .complete start => (.names (session.complete start), session)
  | .count => (.count session.count, session)
  | .reset => (.count session.reset.count, session.reset)

/-- The answers to steps that are taken one after the other, and the session after them. -/
def steps (turns : Nat) (session : Session) : List Step → List Answer × Session
  | [] => ([], session)
  | step :: rest =>
    let (answer, after) := session.step turns step
    let (answers, last) := after.steps turns rest
    (answer :: answers, last)

theorem steps_append (turns : Nat) (session : Session) (first second : List Step) :
    session.steps turns (first ++ second) =
      ((session.steps turns first).1 ++ ((session.steps turns first).2.steps turns second).1,
        ((session.steps turns first).2.steps turns second).2) := by
  induction first generalizing session with
  | nil => rfl
  | cons step rest ih => simp only [List.cons_append, steps, ih]

/-! ## The world of a session -/

theorem runCell_keeps {relation : Machine → Machine → Prop} [IsPreorder Machine relation]
    {turns : Nat} (statements : ∀ stmt, Run.Keeps relation (Run.executeTop turns stmt))
    (last : Option Value) (program : Program) :
    Run.Keeps relation (runCell turns last program) := by
  induction program generalizing last with
  | nil => exact .pure _
  | cons stmt rest ih =>
      refine .bind (statements stmt) fun flow => ?_
      cases flow with
      | next => exact ih _
      | value result => exact ih _
      | give result => exact .pure _

/-- A cell prints after what was printed before it, and reads from the front of the input. -/
theorem runSource_leadsTo (turns : Nat) (code : String) :
    Run.Keeps Machine.LeadsTo (runSource turns code) :=
  .bind (Run.load_leadsTo code) fun program =>
    runCell_keeps (Run.executeTop_leadsTo turns) none program

section Execute

variable {turns : Nat} {code : String} {session : Session} {after : Machine}

/-- A cell that comes to its end succeeds, and its output is taken. -/
theorem execute_of_ok {value : Option Value}
    (ran : (runSource turns code).on session.machine = (.ok value, after)) :
    session.execute turns code =
      (⟨true, after.host.output, "", (value.map Value.display).getD "", session.count + 1⟩,
        ⟨after.takeOutput.2, session.count + 1⟩) := by
  rw [Run.on] at ran
  rw [execute, ran]
  rfl

/-- A cell that halts fails, and its output is taken as well. -/
theorem execute_of_error {halt : Halt}
    (ran : (runSource turns code).on session.machine = (.error halt, after)) :
    session.execute turns code =
      (⟨false, after.host.output, halt.text, "", session.count⟩,
        ⟨after.takeOutput.2, session.count⟩) := by
  rw [Run.on] at ran
  rw [execute, ran]
  rfl

end Execute

/-- The machine of a session after a cell is the one that the cell leaves, without its output. -/
theorem execute_machine (turns : Nat) (code : String) (session : Session) :
    (session.execute turns code).2.machine =
      ((runSource turns code).on session.machine).2.takeOutput.2 := by
  cases ran : (runSource turns code).on session.machine with
  | mk outcome after =>
      cases outcome with
      | ok value => rw [execute_of_ok ran]
      | error halt => rw [execute_of_error ran]

/-- The second session may come after the first one: it has the rest of the input, echoes values if
the first one does, and sorts as the first one. -/
structure Precedes (before after : Session) : Prop where
  input : before.machine.host.input.LeadsTo after.machine.host.input
  echo : after.machine.host.echo = before.machine.host.echo
  sorter : after.machine.host.sorter = before.machine.host.sorter

theorem step_precedes (turns : Nat) (session : Session) (step : Step) :
    session.Precedes (session.step turns step).2 := by
  cases step with
  | execute code =>
      have leads := runSource_leadsTo turns code session.machine
      constructor
      · change Input.LeadsTo _ (session.execute turns code).2.machine.host.input
        rw [execute_machine]
        exact leads.input
      · change (session.execute turns code).2.machine.host.echo = _
        rw [execute_machine]
        exact leads.echo
      · change (session.execute turns code).2.machine.host.sorter = _
        rw [execute_machine]
        exact leads.sorter
  | complete start => exact ⟨.refl _, rfl, rfl⟩
  | count => exact ⟨.refl _, rfl, rfl⟩
  | reset => exact ⟨.refl _, rfl, rfl⟩

theorem steps_precede (turns : Nat) (session : Session) (history : List Step) :
    session.Precedes (session.steps turns history).2 := by
  induction history generalizing session with
  | nil => exact ⟨.refl _, rfl, rfl⟩
  | cons step rest ih =>
      have first := step_precedes turns session step
      have later := ih (session.step turns step).2
      exact ⟨first.input.trans later.input, later.echo.trans first.echo,
        later.sorter.trans first.sorter⟩

/-- Nothing but the input, the files and the sorter stays, as long as values are not echoed. -/
theorem reset_eq_start {session : Session} (quiet : session.machine.host.echo = false) :
    session.reset = start session.machine.host.input session.machine.host.disk
      session.machine.host.sorter := by
  obtain ⟨⟨scopes, current, depth, nextLabel, output, input, disk, echo, sorter⟩, count⟩ := session
  obtain rfl : echo = false := quiet
  rfl

/-- A session that is reset after any history answers whatever comes later as a new session does
that has the same files and what is left of the input. -/
theorem reset_starts_anew (turns : Nat) (input : Input) (disk : Disk) (sorter : Sorter)
    (history later : List Step) :
    let used := ((start input disk sorter).steps turns history).2
    let fresh := start used.machine.host.input used.machine.host.disk sorter
    input.LeadsTo used.machine.host.input ∧
      (start input disk sorter).steps turns (history ++ .reset :: later) =
        (((start input disk sorter).steps turns history).1 ++ .count 0 :: (fresh.steps turns later).1,
          (fresh.steps turns later).2) := by
  intro used fresh
  have precedes : (start input disk sorter).Precedes used :=
    steps_precede turns (start input disk sorter) history
  have same : used.machine.host.sorter = sorter := precedes.sorter
  have anew : used.reset = fresh := by
    rw [reset_eq_start precedes.echo, same]
  refine ⟨precedes.input, ?_⟩
  rw [steps_append, steps, step]
  change (_, ((used.reset).steps turns later).2) = _
  rw [anew]
  rfl

end Session
end DotScript
