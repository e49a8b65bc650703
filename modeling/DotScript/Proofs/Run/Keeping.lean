import DotScript.Proofs.Host.World
import DotScript.Proofs.Run.Ranges
import Mathlib.Order.Defs.Unbundled

/-!
# What runs keep

`computation.on machine` is the outcome of a computation together with the machine it leaves behind.
A computation keeps a relation if every machine is so related to the machine that is left behind,
whether the computation ends or halts.  For a preorder this is a matter of the parts of the
computation: `evaluate_keeps` and `execute_keeps` reduce a whole run to what the world, the calls
and the declarations do.
-/

namespace DotScript

namespace Run

/-- The outcome of a computation on a machine, and the machine it leaves behind. -/
def on {α : Type} (computation : Run α) (machine : Machine) : Except Halt α × Machine :=
  computation.run.run machine

section Equations

variable {α β : Type} (machine : Machine)

@[simp]
theorem on_pure (value : α) : (pure value : Run α).on machine = (.ok value, machine) := rfl

@[simp]
theorem on_throw (halt : Halt) : (throw halt : Run α).on machine = (.error halt, machine) := rfl

@[simp]
theorem on_get : (get : Run Machine).on machine = (.ok machine, machine) := rfl

@[simp]
theorem on_modify (change : Machine → Machine) :
    (modify change : Run Unit).on machine = (.ok (), change machine) := rfl

/-- A sequence goes on from what its first part leaves behind, unless that part halts. -/
theorem on_bind (first : Run α) (next : α → Run β) :
    (first >>= next).on machine =
      match first.on machine with
      | (.ok value, after) => (next value).on after
      | (.error halt, after) => (.error halt, after) := by
  simp only [on, ExceptT.run, StateT.run, bind, ExceptT.bind, ExceptT.mk, StateT.bind]
  cases first machine with
  | mk outcome after => cases outcome <;> rfl

/-- An operation on the world changes nothing but the world. -/
theorem on_ofHost (span : Span) (operation : HostM α) :
    (ofHost span operation).on machine =
      ((operation.run.run machine.host).1.mapError (Halt.ofFailure span),
        { machine with host := (operation.run.run machine.host).2 }) := by
  simp only [ofHost, on, ExceptT.run, ExceptT.mk, StateT.run, bind, StateT.bind, onHost, modifyGet,
    MonadStateOf.modifyGet, StateT.modifyGet, pure]
  cases operation machine.host with
  | mk outcome host => cases outcome <;> rfl

/-- An attempt turns the diagnostic of a fault into a result. -/
theorem on_attempt (computation : Run α) :
    (attempt computation).on machine =
      match computation.on machine with
      | (.ok value, after) => (.ok (.ok value), after)
      | (.error (.failed diagnostic), after) => (.ok (.error diagnostic), after)
      | (.error halt, after) => (.error halt, after) := by
  simp only [on, attempt, ExceptT.run, ExceptT.mk, StateT.run, bind, StateT.bind]
  cases computation machine with
  | mk outcome after =>
      match outcome with
      | .ok value => rfl
      | .error (.failed diagnostic) => rfl
      | .error (.system error) => rfl
      | .error (.unfinished cause) => rfl

variable {machine}

/-- Whether a run halts, and with what, can be seen without its value. -/
theorem on_eq_error_of_map {computation : Run α} {halt : Halt}
    (halted : ((computation.on machine).1.map fun _ => ()) = .error halt) :
    (computation.on machine).1 = .error halt := by
  cases outcome : (computation.on machine).1 with
  | ok value =>
      rw [outcome] at halted
      cases halted
  | error found =>
      rw [outcome] at halted
      cases halted
      rfl

theorem on_bind_of_ok {first : Run α} {value : α} {after : Machine}
    (ended : first.on machine = (.ok value, after)) (next : α → Run β) :
    (first >>= next).on machine = (next value).on after := by
  rw [on_bind, ended]

theorem on_bind_of_error {first : Run α} {halt : Halt} {after : Machine}
    (halted : first.on machine = (.error halt, after)) (next : α → Run β) :
    (first >>= next).on machine = (.error halt, after) := by
  rw [on_bind, halted]

/-- A sequence that halts does so in its first part or after it. -/
theorem on_bind_eq_error {first : Run α} {next : α → Run β} {halt : Halt} {after : Machine}
    (halted : (first >>= next).on machine = (.error halt, after)) :
    first.on machine = (.error halt, after) ∨
      ∃ value middle, first.on machine = (.ok value, middle) ∧
        (next value).on middle = (.error halt, after) := by
  rw [on_bind] at halted
  cases outcome : first.on machine with
  | mk result middle =>
      rw [outcome] at halted
      cases result with
      | error cause =>
          left
          simpa using halted
      | ok value => exact Or.inr ⟨value, middle, rfl, halted⟩

end Equations

/-- Every machine is related to the machine that the computation leaves behind. -/
def Keeps {α : Type} (relation : Machine → Machine → Prop) (computation : Run α) : Prop :=
  ∀ machine, relation machine (computation.on machine).2

namespace Keeps

variable {α β : Type} {relation other : Machine → Machine → Prop}

theorem mono {computation : Run α} (keeps : Keeps relation computation)
    (weaker : ∀ before after, relation before after → other before after) :
    Keeps other computation :=
  fun machine => weaker _ _ (keeps machine)

theorem of_on_eq {computation : Run α} (keeps : Keeps relation computation)
    {machine after : Machine} {outcome : Except Halt α}
    (result : computation.on machine = (outcome, after)) : relation machine after := by
  have kept := keeps machine
  rwa [result] at kept

variable [IsPreorder Machine relation]

theorem pure (value : α) : Keeps relation (pure value : Run α) :=
  fun machine => Std.Refl.refl machine

theorem throw (halt : Halt) : Keeps relation (throw halt : Run α) :=
  fun machine => Std.Refl.refl machine

theorem get : Keeps relation (get : Run Machine) :=
  fun machine => Std.Refl.refl machine

theorem bind {first : Run α} {next : α → Run β} (first_keeps : Keeps relation first)
    (next_keeps : ∀ value, Keeps relation (next value)) : Keeps relation (first >>= next) := by
  intro machine
  cases result : first.on machine with
  | mk outcome middle =>
      have kept := first_keeps.of_on_eq result
      cases outcome with
      | error halt => rwa [on_bind_of_error result]
      | ok value =>
          rw [on_bind_of_ok result]
          exact IsTrans.trans _ _ _ kept (next_keeps value middle)

theorem fault (span : Span) (cause : Fault) : Keeps relation (fault span cause : Run α) :=
  .throw _

theorem ofExcept (span : Span) (result : Except Fault α) :
    Keeps relation (ofExcept span result) := by
  cases result with
  | ok value => exact .pure value
  | error cause => exact .fault span cause

theorem readName (name : String) (span : Span) : Keeps relation (readName name span) := by
  refine .bind .get fun machine => ?_
  split
  · exact .pure _
  · exact .fault _ _

end Keeps

/-! ## Evaluation -/

/-- What a relation has to bear with for evaluation to keep it: changes of the world, and calls
whose bodies are run by `run`. -/
structure Bears (relation : Machine → Machine → Prop) (run : BodyRunner) : Prop where
  /-- The world may change as operations change it. -/
  world : ∀ (machine : Machine) (host : Host), machine.host.LeadsTo host →
    relation machine { machine with host }
  /-- Calls keep the relation. -/
  call : ∀ closure args body, Keeps relation (inCall closure args (run body))

section Evaluation

variable {relation : Machine → Machine → Prop} {run : BodyRunner}

theorem Bears.ofHost {α : Type} (bears : Bears relation run) (span : Span) {operation : HostM α}
    (leads : operation.Leads) : Keeps relation (ofHost span operation) := by
  intro machine
  rw [on_ofHost]
  exact bears.world machine (operation.run.run machine.host).2 (leads machine.host)

theorem Bears.print (bears : Bears relation run) (text : String) :
    Keeps relation (print text) := by
  intro machine
  exact bears.world machine ((HostM.print text).run.run machine.host).2
    (HostM.Leads.print text machine.host)

variable [IsPreorder Machine relation]

theorem Bears.callClosure (bears : Bears relation run) (closure : Closure) (args : List Value)
    (span : Span) : Keeps relation (callClosure run closure args span) := by
  unfold Run.callClosure
  split
  · exact .fault _ _
  · refine .bind .get fun machine => ?_
    split
    · exact .fault _ _
    · exact .bind (bears.call _ _ _) fun flow => .pure _

theorem Bears.callFunction (bears : Bears relation run) (functions : FunctionSet)
    (args : List Value) (span : Span) :
    Keeps relation (callFunction run functions args span) := by
  unfold Run.callFunction
  split
  · exact bears.callClosure _ _ _
  · exact .fault _ _

theorem Bears.callNamed (bears : Bears relation run) (name : String) (args : List Value)
    (span : Span) : Keeps relation (callNamed run name args span) := by
  unfold Run.callNamed
  split
  · exact bears.ofHost _ (Builtin.call_leads _ _)
  · refine .bind .get fun machine => ?_
    split
    · exact bears.callFunction _ _ _
    · exact .fault _ _
    · exact .fault _ _

theorem Bears.applyTo (bears : Bears relation run) (function item : Value) (span : Span) :
    Keeps relation (applyTo run function item span) := by
  unfold Run.applyTo
  split
  · exact bears.callFunction _ _ _
  · split
    · exact .fault _ _
    · exact bears.callNamed _ _ _
  · exact .fault _ _

theorem Bears.applyToAll (bears : Bears relation run) (function : Value) (span : Span)
    (items results : List Value) :
    Keeps relation (applyToAll run function span results items) := by
  induction items generalizing results with
  | nil => exact .pure _
  | cons item rest ih => exact .bind (bears.applyTo _ _ _) fun result => ih _

theorem Bears.callByName (bears : Bears relation run) (name : String) (args : List Value)
    (span : Span) : Keeps relation (Run.call run name args span) := by
  unfold Run.call Run.mapCall
  split
  · split
    · split
      · exact .bind (bears.applyToAll _ _ _ _) fun results => .pure _
      · exact .fault _ _
    · exact .fault _ _
  · exact bears.callNamed _ _ _

omit [IsPreorder Machine relation] in
/-- An operator that does not decide early evaluates both of its operands. -/
theorem evaluate_binary (run : BodyRunner) {op : BinaryOp} (not_and : op ≠ .and) (not_or : op ≠ .or)
    (left right : Expr) (span : Span) :
    evaluate run (.binary op left right span) = (do
      let left ← evaluate run left
      let right ← evaluate run right
      ofExcept span (left.binary op right)) := by
  rw [evaluate]
  · exact not_and
  · exact not_or

mutual

/-- Evaluation keeps what bears with the world and with calls. -/
theorem evaluate_keeps (bears : Bears relation run) :
    ∀ expr : Expr, Keeps relation (evaluate run expr)
  | .literal value span => by
      rw [evaluate]
      exact .ofExcept _ _
  | .variable name span => by
      rw [evaluate]
      exact .readName _ _
  | .binary op left right span => by
      have left_keeps := evaluate_keeps bears left
      have right_keeps := evaluate_keeps bears right
      by_cases is_and : op = .and
      · subst is_and
        rw [evaluate]
        refine .bind left_keeps fun value => ?_
        split
        · exact .bind right_keeps fun other => .pure _
        · exact .pure _
      by_cases is_or : op = .or
      · subst is_or
        rw [evaluate]
        refine .bind left_keeps fun value => ?_
        split
        · exact .pure _
        · exact .bind right_keeps fun other => .pure _
      rw [evaluate_binary run is_and is_or]
      exact .bind left_keeps fun value => .bind right_keeps fun other => .ofExcept _ _
  | .unary op operand span => by
      rw [evaluate]
      exact .bind (evaluate_keeps bears operand) fun value => .ofExcept _ _
  | .call name args span => by
      rw [evaluate]
      exact .bind (evaluateAll_keeps bears args) fun values => bears.callByName _ _ _
  | .method receiver name args span => by
      rw [evaluate]
      exact .bind (evaluate_keeps bears receiver) fun value =>
        .bind (evaluateAll_keeps bears args) fun values =>
          bears.ofHost _ (value.invoke_leads name values)
  | .list items span => by
      rw [evaluate]
      exact .bind (evaluateAll_keeps bears items) fun values => .pure _
  | .set items span => by
      rw [evaluate]
      exact .bind (evaluateAll_keeps bears items) fun values => .pure _

theorem evaluateAll_keeps (bears : Bears relation run) :
    ∀ exprs : List Expr, Keeps relation (evaluateAll run exprs)
  | [] => by
      rw [evaluateAll]
      exact .pure _
  | expr :: rest => by
      rw [evaluateAll]
      exact .bind (evaluate_keeps bears expr) fun value =>
        .bind (evaluateAll_keeps bears rest) fun values => .pure _

end

end Evaluation

/-! ## Execution -/

/-- What a relation has to bear with for execution to keep it: what evaluation does, and
declarations in the current frame. -/
structure BearsBinding (relation : Machine → Machine → Prop) (run : BodyRunner) : Prop
    extends Bears relation run where
  /-- Names may be bound in the current frame. -/
  define : ∀ name value, Keeps relation (define name value)

section Execution

variable {relation : Machine → Machine → Prop} [IsPreorder Machine relation] {run : BodyRunner}

theorem Keeps.repeatWhile {condition : Run Value} {body : Run Flow}
    (condition_keeps : Keeps relation condition) (body_keeps : Keeps relation body) (turns : Nat) :
    Keeps relation (repeatWhile condition body turns) := by
  induction turns with
  | zero => exact .throw _
  | succ turns ih =>
      refine .bind condition_keeps fun value => ?_
      split
      · refine .bind body_keeps fun flow => ?_
        split
        · exact .pure _
        · exact ih
      · exact .pure _

theorem BearsBinding.forEach (bears : BearsBinding relation run) (name : String)
    {body : Run Flow} (body_keeps : Keeps relation body) (items : List Value) :
    Keeps relation (forEach name body items) := by
  induction items with
  | nil => exact .pure _
  | cons item rest ih =>
      refine .bind (bears.define _ _) fun _ => .bind body_keeps fun flow => ?_
      split
      · exact .pure _
      · exact ih

theorem BearsBinding.countFrom (bears : BearsBinding relation run) (name : String)
    {body : Run Flow} (body_keeps : Keeps relation body) (step : Int) (terms : Nat) (term : Int) :
    Keeps relation (countFrom name body step terms term) := by
  induction terms generalizing term with
  | zero => exact .pure _
  | succ terms ih =>
      refine .bind (bears.define _ _) fun _ => .bind body_keeps fun flow => ?_
      split
      · exact .pure _
      · exact ih _

theorem BearsBinding.countFloats (bears : BearsBinding relation run) (name : String)
    {body : Run Flow} (body_keeps : Keeps relation body) (last step : Float) (turns : Nat)
    (term : Float) : Keeps relation (countFloats name body last step turns term) := by
  induction turns generalizing term with
  | zero => exact .throw _
  | succ turns ih =>
      unfold Run.countFloats
      split
      · refine .bind (bears.define _ _) fun _ => .bind body_keeps fun flow => ?_
        split
        · exact .pure _
        · exact ih _
      · exact .pure _

theorem BearsBinding.countRange (bears : BearsBinding relation run) (turns : Nat) (name : String)
    {body : Run Flow} (body_keeps : Keeps relation body) (first last : Number)
    (step : Option Number) : Keeps relation (countRange turns name body first last step) := by
  rw [countRange_eq]
  split
  · exact bears.countFrom _ body_keeps _ _ _
  · exact bears.countFrom _ body_keeps _ _ _
  · exact bears.countFloats _ body_keeps _ _ _ _

theorem Bears.rangeBound (bears : Bears relation run) (bound : Expr) :
    Keeps relation (rangeBound run bound) := by
  refine .bind (evaluate_keeps bears bound) fun value => ?_
  split
  · exact .pure _
  · exact .fault _ _

theorem Bears.rangeStep (bears : Bears relation run) (step : Option Expr) (span : Span) :
    Keeps relation (rangeStep run step span) := by
  unfold Run.rangeStep
  split
  · exact .pure _
  · refine .bind (bears.rangeBound _) fun number => ?_
    split
    · exact .fault _ _
    · exact .pure _

theorem Bears.evaluateOptional (bears : Bears relation run) (expr : Option Expr) :
    Keeps relation (evaluateOptional run expr) := by
  cases expr with
  | none => exact .pure _
  | some expr => exact evaluate_keeps bears expr

theorem BearsBinding.declareAll (bears : BearsBinding relation run)
    (bindings : List (String × Option Expr)) : Keeps relation (declareAll run bindings) := by
  induction bindings with
  | nil => exact .pure _
  | cons binding rest ih =>
      exact .bind (bears.evaluateOptional _) fun value => .bind (bears.define _ _) fun _ => ih

theorem BearsBinding.assign (bears : BearsBinding relation run) (name : String) (value : Value)
    (span : Span) : Keeps relation (assign name value span) := by
  refine .bind .get fun machine => ?_
  split
  · exact bears.define _ _
  · exact .fault _ _

theorem BearsBinding.assignValue (bears : BearsBinding relation run) (name : String)
    (op : Option BinaryOp) (value : Value) (span : Span) :
    Keeps relation (assignValue name op value span) := by
  unfold Run.assignValue
  split
  · exact bears.assign _ _ _
  · exact .bind (.readName _ _) fun old => .bind (.ofExcept _ _) fun value => bears.assign _ _ _

theorem Bears.echo (bears : Bears relation run) (value : Value) : Keeps relation (echo value) := by
  refine .bind .get fun machine => ?_
  split
  · exact bears.print _
  · exact .pure _

mutual

/-- Execution keeps what bears with evaluation and with declarations. -/
theorem execute_keeps (bears : BearsBinding relation run) (turns : Nat) :
    ∀ stmt : Stmt, Keeps relation (execute turns run stmt)
  | .var bindings _ => by
      rw [execute]
      exact .bind (bears.declareAll _) fun _ => .pure _
  | .letBe name value _ => by
      rw [execute]
      exact .bind (evaluate_keeps bears.toBears _) fun value =>
        .bind (bears.define _ _) fun _ => .pure _
  | .assign name op value span => by
      rw [execute]
      exact .bind (evaluate_keeps bears.toBears _) fun value =>
        .bind (bears.assignValue _ _ _ _) fun _ => .pure _
  | .choose arms _ => by
      rw [execute]
      exact executeArms_keeps bears turns arms
  | .whileLoop condition body _ => by
      rw [execute]
      exact .repeatWhile (evaluate_keeps bears.toBears _) (executeBlock_keeps bears turns body) _
  | .forRange name first last step body span => by
      rw [execute]
      exact .bind (bears.rangeBound _) fun first => .bind (bears.rangeBound _) fun last =>
        .bind (bears.rangeStep _ _) fun step =>
          bears.countRange _ _ (executeBlock_keeps bears turns body) _ _ _
  | .forIn name items body _ => by
      rw [execute]
      refine .bind (evaluate_keeps bears.toBears _) fun value => ?_
      split
      · exact bears.forEach _ (executeBlock_keeps bears turns body) _
      · exact .fault _ _
  | .define label name params body _ => by
      rw [execute]
      exact .bind (.bind .get fun machine => bears.define _ _) fun _ => .pure _
  | .expression value _ => by
      rw [execute]
      exact .bind (evaluate_keeps bears.toBears _) fun value =>
        .bind (bears.echo _) fun _ => .pure _
  | .give value _ => by
      rw [execute]
      exact .bind (bears.evaluateOptional _) fun value => .pure _
  | .pass _ => by
      rw [execute]
      exact .pure _

theorem executeBlock_keeps (bears : BearsBinding relation run) (turns : Nat) :
    ∀ block : List Stmt, Keeps relation (executeBlock turns run block)
  | [] => by
      rw [executeBlock]
      exact .pure _
  | stmt :: rest => by
      rw [executeBlock]
      refine .bind (execute_keeps bears turns stmt) fun flow => ?_
      split
      · exact .pure _
      · exact executeBlock_keeps bears turns rest

theorem executeArms_keeps (bears : BearsBinding relation run) (turns : Nat) :
    ∀ arms : Arms, Keeps relation (executeArms turns run arms)
  | .arm condition body others => by
      rw [executeArms]
      refine .bind (evaluate_keeps bears.toBears _) fun value => ?_
      split
      · exact executeBlock_keeps bears turns body
      · exact executeArms_keeps bears turns others
  | .otherwise body => by
      rw [executeArms]
      exact executeBlock_keeps bears turns body
  | .nothing => by
      rw [executeArms]
      exact .pure _

end

/-- However deep calls are nested, bodies keep what calls of such bodies keep. -/
theorem bodyRunner_keeps_of_bears
    (bears : ∀ run : BodyRunner, (∀ body, Keeps relation (run body)) → BearsBinding relation run)
    (turns levels : Nat) (body : List Stmt) : Keeps relation (bodyRunner turns levels body) := by
  induction levels generalizing body with
  | zero => exact .throw _
  | succ levels ih => exact executeBlock_keeps (bears _ ih) turns body

/-! ## Programs -/

/-- A statement that is not part of another one keeps what every execution keeps. -/
theorem executeTop_keeps
    (bears : ∀ run : BodyRunner, (∀ body, Keeps relation (run body)) → BearsBinding relation run)
    (turns : Nat) (stmt : Stmt) : Keeps relation (executeTop turns stmt) :=
  execute_keeps (bears _ (bodyRunner_keeps_of_bears bears turns maxCallDepth)) turns stmt

/-- A program is loaded by using up labels. -/
theorem load_keeps (labels : ∀ (machine : Machine) (nextLabel : Nat),
    relation machine { machine with nextLabel }) (source : String) :
    Keeps relation (load source) := by
  unfold load
  split
  · exact .throw _
  · exact .bind .get fun machine => .bind (fun machine => labels machine _) fun _ => .pure _

theorem runProgram_keeps {turns : Nat} (statements : ∀ stmt, Keeps relation (executeTop turns stmt))
    (last : Value) (program : Program) : Keeps relation (runProgram turns last program) := by
  induction program generalizing last with
  | nil => exact .pure _
  | cons stmt rest ih =>
      refine .bind (statements stmt) fun flow => ?_
      cases flow with
      | next => exact ih _
      | value result => exact ih _
      | give result => exact .fault _ _

end Execution

end Run

/-! ## Runs and the world

A run prints after what was printed before it, reads its input from the front, and leaves alone
whether values are echoed, however it ends. -/

/-- Operations on the world can make the world of the first machine that of the second one. -/
def Machine.LeadsTo (before after : Machine) : Prop :=
  before.host.LeadsTo after.host

instance : IsPreorder Machine Machine.LeadsTo where
  refl machine := .refl machine.host
  trans _ _ _ first next := Host.LeadsTo.trans first next

namespace Run

theorem bearsBinding_leadsTo (run : BodyRunner)
    (bodies : ∀ body, Keeps Machine.LeadsTo (run body)) : BearsBinding Machine.LeadsTo run where
  world _ _ leads := leads
  call closure args body machine := bodies body (machine.enter closure args)
  define _ _ machine := .refl machine.host

/-- A statement acts on the world through operations alone. -/
theorem executeTop_leadsTo (turns : Nat) (stmt : Stmt) :
    Keeps Machine.LeadsTo (executeTop turns stmt) :=
  executeTop_keeps bearsBinding_leadsTo turns stmt

theorem load_leadsTo (source : String) : Keeps Machine.LeadsTo (load source) :=
  load_keeps (fun machine _ => .refl machine.host) source

/-- A source acts on the world through operations alone. -/
theorem evalSource_leadsTo (turns : Nat) (source : String) :
    Keeps Machine.LeadsTo (evalSource turns source) :=
  .bind (load_leadsTo source) fun program => runProgram_keeps (executeTop_leadsTo turns) _ program

end Run

end DotScript
