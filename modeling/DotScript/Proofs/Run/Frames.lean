import DotScript.Proofs.Run.Keeping

/-!
# Who writes to which frame

Evaluating an expression may make new frames, but leaves every frame that was there before as it
was.  Executing a statement may also bind names in the current frame, and in no other frame that was
there before.  Both go on in the frame and at the call depth where they started.
-/

namespace DotScript

namespace Bindings

/-- Binds names one after the other, after those that are bound already. -/
def setAll (bindings : Bindings) (pairs : List (String × Value)) : Bindings :=
  pairs.foldl (fun bindings (name, value) => bindings.set name value) bindings

@[simp]
theorem setAll_nil (bindings : Bindings) : bindings.setAll [] = bindings := rfl

@[simp]
theorem setAll_cons (bindings : Bindings) (name : String) (value : Value)
    (rest : List (String × Value)) :
    bindings.setAll ((name, value) :: rest) = (bindings.set name value).setAll rest := rfl

end Bindings

namespace Scopes

theorem define_size (scopes : Scopes) (id : FrameId) (name : String) (value : Value) :
    (scopes.define id name value).frames.size = scopes.frames.size := by
  simp [define, updateBindings]

theorem define_frame_of_ne (scopes : Scopes) {id other : FrameId} (different : other ≠ id)
    (name : String) (value : Value) :
    (scopes.define id name value).frames[other]? = scopes.frames[other]? := by
  simp [define, updateBindings, Array.getElem?_modify, different.symm]

/-- Declaring a name does not move a frame. -/
theorem define_outer (scopes : Scopes) (id : FrameId) (name : String) (value : Value)
    (other : FrameId) : (scopes.define id name value).outer other = scopes.outer other := by
  simp only [outer, define, updateBindings, Array.getElem?_modify]
  by_cases same : id = other
  · cases scopes.frames[other]? <;> simp [same]
  · simp [same]

/-- Declaring a name sets it among the bindings of its frame. -/
theorem define_bindings (scopes : Scopes) {id : FrameId} (present : id < scopes.frames.size)
    (name : String) (value : Value) :
    (scopes.define id name value).bindings id = (scopes.bindings id).set name value := by
  simp [bindings, define, updateBindings, Array.getElem?_modify,
    Array.getElem?_eq_getElem present]

theorem bindings_eq_of_frame_eq {left right : Scopes} {id : FrameId}
    (same : left.frames[id]? = right.frames[id]?) : left.bindings id = right.bindings id := by
  simp only [bindings, same]

theorem outer_eq_of_frame_eq {left right : Scopes} {id : FrameId}
    (same : left.frames[id]? = right.frames[id]?) : left.outer id = right.outer id := by
  simp only [outer, same]

theorem enter_frame_of_lt (scopes : Scopes) (home : FrameId) (locals : Bindings) {id : FrameId}
    (present : id < scopes.frames.size) :
    (scopes.enter home locals).2.frames[id]? = scopes.frames[id]? := by
  simp only [enter, Array.getElem?_push, Nat.ne_of_lt present, if_false]

end Scopes

namespace Machine

/-- The same place in the program, and every frame as it was; there may be new frames. -/
structure LeavesFrames (before after : Machine) : Prop where
  current : after.current = before.current
  depth : after.depth = before.depth
  grows : before.scopes.frames.size ≤ after.scopes.frames.size
  frame : ∀ id < before.scopes.frames.size, after.scopes.frames[id]? = before.scopes.frames[id]?

/-- The same place in the program, and every frame as it was, apart from the bindings of the current
one; there may be new frames. -/
structure ChangesOnlyCurrent (before after : Machine) : Prop where
  current : after.current = before.current
  depth : after.depth = before.depth
  grows : before.scopes.frames.size ≤ after.scopes.frames.size
  outer : ∀ id < before.scopes.frames.size, after.scopes.outer id = before.scopes.outer id
  frame : ∀ id < before.scopes.frames.size, id ≠ before.current →
    after.scopes.frames[id]? = before.scopes.frames[id]?

theorem LeavesFrames.changesOnlyCurrent {before after : Machine}
    (leaves : before.LeavesFrames after) : before.ChangesOnlyCurrent after where
  current := leaves.current
  depth := leaves.depth
  grows := leaves.grows
  outer id present := Scopes.outer_eq_of_frame_eq (leaves.frame id present)
  frame id present _ := leaves.frame id present

instance : IsPreorder Machine LeavesFrames where
  refl _ := ⟨rfl, rfl, Nat.le_refl _, fun _ _ => rfl⟩
  trans _ _ _ first next :=
    { current := next.current.trans first.current
      depth := next.depth.trans first.depth
      grows := Nat.le_trans first.grows next.grows
      frame := fun id present =>
        (next.frame id (Nat.lt_of_lt_of_le present first.grows)).trans (first.frame id present) }

instance : IsPreorder Machine ChangesOnlyCurrent where
  refl _ := ⟨rfl, rfl, Nat.le_refl _, fun _ _ => rfl, fun _ _ _ => rfl⟩
  trans _ _ _ first next :=
    { current := next.current.trans first.current
      depth := next.depth.trans first.depth
      grows := Nat.le_trans first.grows next.grows
      outer := fun id present =>
        (next.outer id (Nat.lt_of_lt_of_le present first.grows)).trans (first.outer id present)
      frame := fun id present other =>
        (next.frame id (Nat.lt_of_lt_of_le present first.grows) (first.current ▸ other)).trans
          (first.frame id present other) }

theorem leavesFrames_world (machine : Machine) (host : Host) :
    machine.LeavesFrames { machine with host } :=
  ⟨rfl, rfl, Nat.le_refl _, fun _ _ => rfl⟩

theorem changesOnlyCurrent_define (machine : Machine) (name : String) (value : Value) :
    machine.ChangesOnlyCurrent (machine.define name value) where
  current := rfl
  depth := rfl
  grows := Nat.le_of_eq (machine.scopes.define_size machine.current name value).symm
  outer id _ := Scopes.define_outer machine.scopes machine.current name value id
  frame _ _ other := Scopes.define_frame_of_ne machine.scopes other name value

/-- A name that is bound after the frames were left alone is the only change in them. -/
theorem LeavesFrames.bindings_define {before after : Machine} (leaves : before.LeavesFrames after)
    (name : String) (value : Value) {id : FrameId} (present : id < before.scopes.frames.size) :
    (after.define name value).scopes.bindings id =
      if id = before.current then (before.scopes.bindings id).set name value
      else before.scopes.bindings id := by
  have same : after.scopes.bindings id = before.scopes.bindings id :=
    Scopes.bindings_eq_of_frame_eq (leaves.frame id present)
  by_cases here : id = before.current
  · obtain rfl : id = after.current := here.trans leaves.current.symm
    rw [if_pos here, ← same]
    exact after.scopes.define_bindings (Nat.lt_of_lt_of_le present leaves.grows) name value
  · have other : id ≠ after.current := by
      rw [leaves.current]
      exact here
    rw [if_neg here, ← same]
    exact Scopes.bindings_eq_of_frame_eq (after.scopes.define_frame_of_ne other name value)

/-- A call whose body binds names in its own frame only leaves the frames of the caller alone. -/
theorem LeavesFrames.of_call {machine after : Machine} {closure : Closure} {args : List Value}
    (body : (machine.enter closure args).ChangesOnlyCurrent after) :
    machine.LeavesFrames (after.leave machine.current) where
  current := rfl
  depth := by
    have deeper : after.depth = machine.depth + 1 := body.depth
    simp [leave, deeper]
  grows := by
    have entered : (machine.enter closure args).scopes.frames.size =
        machine.scopes.frames.size + 1 := Array.size_push _
    have grown := body.grows
    change machine.scopes.frames.size ≤ after.scopes.frames.size
    omega
  frame id present := by
    have entered : (machine.enter closure args).scopes.frames.size =
        machine.scopes.frames.size + 1 := Array.size_push _
    -- The frame of the call is new, so it is none of those that were there before.
    have other : id ≠ (machine.enter closure args).current := Nat.ne_of_lt present
    have kept := body.frame id (by omega) other
    exact kept.trans (machine.scopes.enter_frame_of_lt _ _ present)

end Machine

/-- A statement that binds at most one name, and this as the last thing it does. -/
def Stmt.BindsLast : Stmt → Prop
  | .letBe _ _ _ | .assign _ _ _ _ | .expression _ _ | .give _ _ => True
  | _ => False

namespace Run

open Machine

@[simp]
theorem on_define (name : String) (value : Value) (machine : Machine) :
    (define name value).on machine = (.ok (), machine.define name value) := rfl

/-- A call runs its body from the machine that was entered and goes back whatever comes out. -/
theorem on_inCall {α : Type} (closure : Closure) (args : List Value) (body : Run α)
    (machine : Machine) :
    (inCall closure args body).on machine =
      ((body.on (machine.enter closure args)).1,
        (body.on (machine.enter closure args)).2.leave machine.current) := rfl

theorem Keeps.inCall {body : Run Flow} (keeps : Keeps ChangesOnlyCurrent body)
    (closure : Closure) (args : List Value) :
    Keeps LeavesFrames (inCall closure args body) := by
  intro machine
  rw [on_inCall]
  exact .of_call (keeps (machine.enter closure args))

theorem bears_of_bodies {run : BodyRunner} (bodies : ∀ body, Keeps ChangesOnlyCurrent (run body)) :
    Bears LeavesFrames run where
  world machine host _ := leavesFrames_world machine host
  call closure args body := (bodies body).inCall closure args

theorem bearsBinding_of_bodies {run : BodyRunner}
    (bodies : ∀ body, Keeps ChangesOnlyCurrent (run body)) :
    BearsBinding ChangesOnlyCurrent run where
  world machine host _ := (leavesFrames_world machine host).changesOnlyCurrent
  call closure args body :=
    ((bodies body).inCall closure args).mono fun _ _ => LeavesFrames.changesOnlyCurrent
  define name value machine := changesOnlyCurrent_define machine name value

/-- However deep calls are nested, the body of a function binds names in its own frame only. -/
theorem bodyRunner_keeps (turns levels : Nat) (body : List Stmt) :
    Keeps ChangesOnlyCurrent (bodyRunner turns levels body) :=
  bodyRunner_keeps_of_bears (fun _ bodies => bearsBinding_of_bodies bodies) turns levels body

theorem evaluate_leavesFrames (turns levels : Nat) (expr : Expr) :
    Keeps LeavesFrames (evaluate (bodyRunner turns levels) expr) :=
  evaluate_keeps (bears_of_bodies (bodyRunner_keeps turns levels)) expr

theorem execute_changesOnlyCurrent (turns levels : Nat) (stmt : Stmt) :
    Keeps ChangesOnlyCurrent (execute turns (bodyRunner turns levels) stmt) :=
  execute_keeps (bearsBinding_of_bodies (bodyRunner_keeps turns levels)) turns stmt

/-! ## Statements that fail -/

theorem eq_of_assign_error {name : String} {value : Value} {span : Span} {machine after : Machine}
    {halt : Halt} (halted : (assign name value span).on machine = (.error halt, after)) :
    after = machine := by
  rw [assign, on_bind, on_get] at halted
  cases cause : machine.scopes.assignFault? machine.current name with
  | none => simp [cause] at halted
  | some fault =>
      simp only [cause, Run.fault, on_throw, Prod.mk.injEq] at halted
      exact halted.2.symm

theorem eq_of_readName_error {name : String} {span : Span} {machine after : Machine}
    {halt : Halt} (halted : (readName name span).on machine = (.error halt, after)) :
    after = machine := by
  rw [readName, on_bind, on_get] at halted
  cases found : machine.scopes.get machine.current name with
  | ok value => simp [found] at halted
  | error fault =>
      simp only [found, Run.fault, on_throw, Prod.mk.injEq] at halted
      exact halted.2.symm

/-- Reading a variable changes nothing. -/
theorem eq_of_readName_ok {name : String} {span : Span} {machine after : Machine} {value : Value}
    (read : (readName name span).on machine = (.ok value, after)) : after = machine := by
  rw [readName, on_bind, on_get] at read
  cases found : machine.scopes.get machine.current name with
  | ok value =>
      simp only [found, on_pure, Prod.mk.injEq] at read
      exact read.2.symm
  | error fault => simp [found, Run.fault] at read

theorem ofExcept_on {α : Type} (span : Span) (result : Except Fault α) (machine : Machine) :
    ((ofExcept span result).on machine).2 = machine := by
  cases result <;> rfl

/-- An assignment that fails changes nothing. -/
theorem eq_of_assignValue_error {name : String} {op : Option BinaryOp} {value : Value}
    {span : Span} {machine after : Machine} {halt : Halt}
    (halted : (assignValue name op value span).on machine = (.error halt, after)) :
    after = machine := by
  cases op with
  | none => exact eq_of_assign_error halted
  | some op =>
      rcases on_bind_eq_error halted with unread | ⟨old, read, read_eq, later⟩
      · exact eq_of_readName_error unread
      obtain rfl := eq_of_readName_ok read_eq
      rcases on_bind_eq_error later with failed | ⟨result, computed, computed_eq, unassigned⟩
      · have same := ofExcept_on span (old.binary op value) read
        rwa [failed] at same
      · have same := ofExcept_on span (old.binary op value) read
        rw [computed_eq] at same
        exact (eq_of_assign_error unassigned).trans same

/-- Printing the value of an expression statement never fails. -/
theorem exists_echo_on (value : Value) (machine : Machine) :
    ∃ after, (echo value).on machine = (.ok (), after) := by
  rw [echo, on_bind, on_get]
  simp only
  split
  · exact ⟨_, rfl⟩
  · exact ⟨_, rfl⟩

/-- A statement that binds at most one name leaves the frames alone if it fails. -/
theorem leavesFrames_of_execute_error {turns levels : Nat} {stmt : Stmt} (last : stmt.BindsLast)
    {machine after : Machine} {halt : Halt}
    (halted : (execute turns (bodyRunner turns levels) stmt).on machine = (.error halt, after)) :
    machine.LeavesFrames after := by
  have bears := bears_of_bodies (bodyRunner_keeps turns levels)
  cases stmt with
  | letBe name value span =>
      rw [execute] at halted
      rcases on_bind_eq_error halted with failed | ⟨result, middle, _, later⟩
      · exact (evaluate_keeps bears value).of_on_eq failed
      · rw [on_bind_of_ok (on_define name result middle)] at later
        simp at later
  | assign name op value span =>
      rw [execute] at halted
      rcases on_bind_eq_error halted with failed | ⟨result, middle, evaluated, later⟩
      · exact (evaluate_keeps bears value).of_on_eq failed
      rcases on_bind_eq_error later with unassigned | ⟨_, _, _, ended⟩
      · rw [eq_of_assignValue_error unassigned]
        exact (evaluate_keeps bears value).of_on_eq evaluated
      · simp at ended
  | expression value span =>
      rw [execute] at halted
      rcases on_bind_eq_error halted with failed | ⟨result, middle, _, later⟩
      · exact (evaluate_keeps bears value).of_on_eq failed
      obtain ⟨printed, echoed⟩ := exists_echo_on result middle
      rw [on_bind_of_ok echoed] at later
      simp at later
  | give value span =>
      rw [execute] at halted
      rcases on_bind_eq_error halted with failed | ⟨_, _, _, ended⟩
      · exact (bears.evaluateOptional value).of_on_eq failed
      · simp at ended
  | _ => exact last.elim

/-- The initial values of some variables were evaluated one after the other, and each was bound
before the next one was evaluated. -/
inductive Declares (run : BodyRunner) :
    List (String × Option Expr) → Machine → List Value → Machine → Prop
  | nil (machine : Machine) : Declares run [] machine [] machine
  | cons {name : String} {initial : Option Expr} {rest : List (String × Option Expr)}
      {machine evaluated after : Machine} {value : Value} {values : List Value} :
      (evaluateOptional run initial).on machine = (.ok value, evaluated) →
      Declares run rest (evaluated.define name value) values after →
      Declares run ((name, initial) :: rest) machine (value :: values) after

/-- A declaration of variables that fails does so at one of the initial values. -/
theorem exists_declares_of_error {run : BodyRunner} {bindings : List (String × Option Expr)}
    {machine after : Machine} {halt : Halt}
    (halted : (declareAll run bindings).on machine = (.error halt, after)) :
    ∃ committed name initial rest values middle,
      bindings = committed ++ (name, initial) :: rest ∧
        Declares run committed machine values middle ∧
        (evaluateOptional run initial).on middle = (.error halt, after) := by
  induction bindings generalizing machine with
  | nil => simp [declareAll] at halted
  | cons binding rest ih =>
      obtain ⟨name, initial⟩ := binding
      rcases on_bind_eq_error halted with failed | ⟨value, evaluated, evaluated_eq, later⟩
      · exact ⟨[], name, initial, rest, [], machine, rfl, .nil machine, failed⟩
      rw [on_bind_of_ok (on_define name value evaluated)] at later
      obtain ⟨committed, failing, unset, remaining, values, middle, split, declared, failed⟩ :=
        ih later
      exact ⟨(name, initial) :: committed, failing, unset, remaining, value :: values, middle,
        by rw [split, List.cons_append], .cons evaluated_eq declared, failed⟩

/-- Declared variables are bound in the current frame, in order, and no frame that was there before
has changed otherwise. -/
theorem Declares.bindings_eq {turns levels : Nat} {committed : List (String × Option Expr)}
    {machine after : Machine} {values : List Value}
    (declared : Declares (bodyRunner turns levels) committed machine values after) :
    machine.ChangesOnlyCurrent after ∧
      ∀ id < machine.scopes.frames.size,
        after.scopes.bindings id =
          if id = machine.current then
            (machine.scopes.bindings id).setAll ((committed.map (·.1)).zip values)
          else machine.scopes.bindings id := by
  induction declared with
  | nil machine => exact ⟨Std.Refl.refl _, fun id _ => by simp⟩
  | @cons name initial rest machine evaluated after value values evaluated_eq _ ih =>
      have leaves : machine.LeavesFrames evaluated :=
        ((bears_of_bodies (bodyRunner_keeps turns levels)).evaluateOptional initial).of_on_eq
          evaluated_eq
      have bound := changesOnlyCurrent_define evaluated name value
      have changes : machine.ChangesOnlyCurrent (evaluated.define name value) :=
        IsTrans.trans _ _ _ leaves.changesOnlyCurrent bound
      refine ⟨IsTrans.trans _ _ _ changes ih.1, fun id present => ?_⟩
      have later := ih.2 id (Nat.lt_of_lt_of_le present changes.grows)
      rw [later, changes.current, leaves.bindings_define name value present]
      by_cases here : id = machine.current
      · simp only [if_pos here, List.map_cons, List.zip_cons_cons, Bindings.setAll_cons]
      · simp only [if_neg here]

/-- Expressions write no variables, statements write those of the current frame only, and what a
failing statement leaves behind is known: nothing at all, or the variables of a declaration before
the one that failed. -/
theorem writes_stay_in_current_frame (turns levels : Nat) (machine : Machine) :
    (∀ expr, machine.LeavesFrames ((evaluate (bodyRunner turns levels) expr).on machine).2) ∧
    (∀ stmt, machine.ChangesOnlyCurrent
      ((execute turns (bodyRunner turns levels) stmt).on machine).2) ∧
    (∀ (stmt : Stmt) (halt : Halt) (after : Machine), stmt.BindsLast →
      (execute turns (bodyRunner turns levels) stmt).on machine = (.error halt, after) →
      machine.LeavesFrames after) ∧
    (∀ (bindings : List (String × Option Expr)) (span : Span) (halt : Halt) (after : Machine),
      (execute turns (bodyRunner turns levels) (.var bindings span)).on machine =
        (.error halt, after) →
      ∃ committed name initial rest values middle,
        bindings = committed ++ (name, initial) :: rest ∧
        Declares (bodyRunner turns levels) committed machine values middle ∧
        (evaluateOptional (bodyRunner turns levels) initial).on middle = (.error halt, after) ∧
        ∀ id < machine.scopes.frames.size,
          after.scopes.bindings id =
            if id = machine.current then
              (machine.scopes.bindings id).setAll ((committed.map (·.1)).zip values)
            else machine.scopes.bindings id) := by
  refine ⟨fun expr => evaluate_leavesFrames turns levels expr machine,
    fun stmt => execute_changesOnlyCurrent turns levels stmt machine,
    fun stmt halt after last halted => leavesFrames_of_execute_error last halted,
    fun bindings span halt after halted => ?_⟩
  rw [execute] at halted
  rcases on_bind_eq_error halted with failed | ⟨_, _, _, ended⟩
  · obtain ⟨committed, name, initial, rest, values, middle, split, declared, unevaluated⟩ :=
      exists_declares_of_error failed
    obtain ⟨changes, bound⟩ := declared.bindings_eq
    have leaves : middle.LeavesFrames after :=
      ((bears_of_bodies (bodyRunner_keeps turns levels)).evaluateOptional initial).of_on_eq
        unevaluated
    refine ⟨committed, name, initial, rest, values, middle, split, declared, unevaluated,
      fun id present => ?_⟩
    rw [← bound id present]
    exact Scopes.bindings_eq_of_frame_eq
      (leaves.frame id (Nat.lt_of_lt_of_le present changes.grows))
  · simp at ended

/-- A declaration whose second variable fails has bound the first one. -/
theorem failing_declaration_binds_earlier :
    let machine := Machine.start (.start .closed .empty false .strict)
    let bindings : List (String × Option Expr) :=
      [("first", some (.literal (.bool true) default)),
        ("second", some (.variable "third" default))]
    let result := (execute 1 (bodyRunner 1 1) (.var bindings default)).on machine
    (∃ halt, result.1 = .error halt) ∧
      ∃ committed name initial rest values middle,
        bindings = committed ++ (name, initial) :: rest ∧
        Declares (bodyRunner 1 1) committed machine values middle ∧
        (∃ halt, (evaluateOptional (bodyRunner 1 1) initial).on middle =
          (.error halt, result.2)) ∧
        ∀ id < machine.scopes.frames.size,
          result.2.scopes.bindings id =
            if id = machine.current then
              (machine.scopes.bindings id).setAll ((committed.map (·.1)).zip values)
            else machine.scopes.bindings id := by
  intro machine bindings result
  obtain ⟨halt, halted⟩ : ∃ halt, result.1 = .error halt := ⟨_, rfl⟩
  obtain ⟨committed, name, initial, rest, values, middle, split, declared, failed, bound⟩ :=
    (writes_stay_in_current_frame 1 1 machine).2.2.2 bindings default halt result.2
      (Prod.ext halted rfl)
  exact ⟨⟨halt, halted⟩, committed, name, initial, rest, values, middle, split, declared,
    ⟨halt, failed⟩, bound⟩

end Run
end DotScript
