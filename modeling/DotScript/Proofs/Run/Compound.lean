import DotScript.Proofs.Run.Frames

/-!
# Compound assignment

A compound assignment evaluates its right side before it reads the variable, and the assignment that
it stands for reads the variable first.  The right side may call functions and so make frames, but a
name is read through frames that are there already, and these are left alone: `lookup_eq`.
-/

namespace DotScript

namespace Machine

section LeavesFrames

variable {before after : Machine}

/-- A name that is read from a frame that was there is read from the same frames afterwards. -/
theorem LeavesFrames.lookup_eq (leaves : before.LeavesFrames after) {id : FrameId}
    (present : id < before.scopes.frames.size) (name : String) :
    after.scopes.lookup id name = before.scopes.lookup id name := by
  have chain : after.scopes.chain id = before.scopes.chain id := by
    simp only [Scopes.chain, leaves.frame id present]
  have bindings : ∀ other ∈ before.scopes.chain id,
      after.scopes.bindings other = before.scopes.bindings other := fun other member =>
    Scopes.bindings_eq_of_frame_eq (leaves.frame other (Scopes.lt_size_of_mem_chain member))
  rw [Scopes.lookup, Scopes.lookup, chain]
  generalize before.scopes.chain id = ids at bindings
  induction ids with
  | nil => rfl
  | cons other rest ih =>
      obtain ⟨first, later⟩ := List.forall_mem_cons.1 bindings
      rw [List.findSome?_cons, List.findSome?_cons, first, ih later]

end LeavesFrames

/-- A name is visible only from a frame that is there. -/
theorem current_lt_of_lookup {machine : Machine} {name : String} {value : Value}
    (visible : machine.lookup name = some value) :
    machine.current < machine.scopes.frames.size := by
  rw [lookup, Scopes.lookup, Scopes.chain] at visible
  cases found : machine.scopes.frames[machine.current]? with
  | some frame => exact (Array.getElem?_eq_some_iff.1 found).1
  | none =>
      rw [found] at visible
      cases visible

theorem LeavesFrames.lookup_of_visible {before after : Machine} (leaves : before.LeavesFrames after)
    {name : String} {value : Value} (visible : before.lookup name = some value) :
    after.lookup name = some value := by
  rw [lookup, leaves.current, leaves.lookup_eq (current_lt_of_lookup visible)]
  exact visible

end Machine

namespace Run

theorem readName_on {machine : Machine} {name : String} {value : Value}
    (visible : machine.lookup name = some value) (span : Span) :
    (readName name span).on machine = (.ok value, machine) := by
  have found : machine.scopes.get machine.current name = .ok value := by
    rw [Machine.lookup] at visible
    rw [Scopes.get, visible]
  rw [readName, on_bind, on_get]
  simp only [found, on_pure]

/-- A compound assignment to a visible name does what the assignment of the operation does, to the
machine and in its outcome, wherever the variable is said to be read. -/
theorem compound_assignment_is_assignment {op : BinaryOp} (not_and : op ≠ .and) (not_or : op ≠ .or)
    (turns levels : Nat) (name : String) (expr : Expr) (span place : Span) (machine : Machine)
    (visible : (machine.lookup name).isSome = true) :
    (execute turns (bodyRunner turns levels) (.assign name (some op) expr span)).on machine =
      (execute turns (bodyRunner turns levels)
        (.assign name none (.binary op (.variable name place) expr span) span)).on machine := by
  obtain ⟨old, visible⟩ := Option.isSome_iff_exists.1 visible
  have read : (evaluate (bodyRunner turns levels) (.variable name place)).on machine =
      (.ok old, machine) := by
    rw [evaluate]
    exact readName_on visible place
  rw [execute, execute, evaluate_binary _ not_and not_or]
  simp only [bind_assoc]
  rw [on_bind_of_ok read]
  cases evaluated : (evaluate (bodyRunner turns levels) expr).on machine with
  | mk outcome after =>
      cases outcome with
      | error halt => rw [on_bind_of_error evaluated, on_bind_of_error evaluated]
      | ok value =>
          have leaves := (evaluate_leavesFrames turns levels expr).of_on_eq evaluated
          have also_read := readName_on (leaves.lookup_of_visible visible) span
          rw [on_bind_of_ok evaluated, on_bind_of_ok evaluated]
          simp only [assignValue, bind_assoc]
          rw [on_bind_of_ok also_read]

/-- The function that is called has a parameter of the name that is assigned to. -/
theorem call_does_not_disturb_compound_assignment :
    let three : Expr := .literal (.int "3") default
    let body : List Stmt :=
      [.assign "x" none three default, .give (some (.variable "x" default)) default]
    let closure : Closure := ⟨{ label := 0, name := "f", params := ["x"], body := some body }, 0⟩
    let fresh := Machine.start (.start .closed .empty false .strict)
    let machine := (fresh.define "x" (.int 10)).define "f" (.function (.single closure))
    let call : Expr := .call "f" [three] default
    let plain : Stmt := .assign "x" none (.binary .sub (.variable "x" default) call default) default
    BinaryOp.sub ≠ .and ∧ BinaryOp.sub ≠ .or ∧ (machine.lookup "x").isSome = true ∧
      ((execute 0 (bodyRunner 0 1) (.assign "x" (some .sub) call default)).on machine).2.lookup "x" =
        some (.int 7) ∧
      ((execute 0 (bodyRunner 0 1) plain).on machine).2.lookup "x" = some (.int 7) := by
  intro three body closure fresh machine call plain
  have visible : (machine.lookup "x").isSome = true := by rfl
  have changed : ((execute 0 (bodyRunner 0 1) (.assign "x" (some .sub) call default)).on
      machine).2.lookup "x" = some (.int 7) := by rfl
  have not_and : BinaryOp.sub ≠ .and := nofun
  have not_or : BinaryOp.sub ≠ .or := nofun
  have same := compound_assignment_is_assignment not_and not_or 0 1 "x" call default default machine
    visible
  exact ⟨not_and, not_or, visible, changed, same ▸ changed⟩

end Run
end DotScript
