import DotScript.Proofs.Run.Sound

/-!
# Values are well formed at every moment

The property of statements that runs keep is the one the parser makes sure of.  So every machine
that comes about by running sources is sound, and it stays sound at every moment of a run: each task
begins on a sound machine with sound values in its hands.
-/

namespace DotScript

theorem Stmt.isAccepted_number (stmt : Stmt) (next : Nat) (accepted : stmt.IsAccepted) :
    (stmt.number next).1.IsAccepted := by
  cases stmt with
  | define label name params body span =>
      refine ⟨accepted.1, ?_⟩
      match body with
      | none => exact nofun
      | some [] => exact (accepted.2 rfl).elim
      | some (stmt :: rest) => simp [numberBody, numberBlock]
  | _ => exact accepted

/-- The statements that are executed are accepted, whatever numbers their declarations get. -/
theorem Program.every_of_parse {source : String} {program : Program} {label : Nat} {stmt : Stmt}
    (parsed : Program.parse source = .ok program) (part : stmt ∈ (program.number label).1) :
    stmt.Every Stmt.IsAccepted := by
  have numbered := everyStmt_number Stmt.isAccepted_number program label
    (Program.everyStmt_of_parse parsed)
  exact (everyStmt_iff _).1 numbered stmt part

namespace Run

theorem requiresDistinctParams_isAccepted : RequiresDistinctParams Stmt.IsAccepted :=
  fun _ _ _ _ _ accepted => accepted.1

theorem bodyRunner_runsAccepted (turns levels : Nat) :
    RunsSoundly Stmt.IsAccepted (bodyRunner turns levels) :=
  bodyRunner_runsSoundly requiresDistinctParams_isAccepted turns levels

end Run

/-- Machines that come about by running sources keep what the statements of all sources have in
common. -/
theorem Machine.Reachable.soundFor {property : Stmt → Prop}
    (distinct : Run.RequiresDistinctParams property)
    (every : ∀ {source : String} {program : Program} {label : Nat} {stmt : Stmt},
      Program.parse source = .ok program → stmt ∈ (program.number label).1 → stmt.Every property)
    {machine : Machine} (reachable : machine.Reachable) : machine.Sound property := by
  induction reachable with
  | start host => exact Machine.sound_start host
  | world host _ ih => exact ih
  | @load machine source _ ih =>
      rcases Run.load_on source machine with ⟨program, _, loaded⟩ | ⟨diagnostic, _, refused⟩
      · rw [loaded]
        exact ih
      · rw [refused]
        exact ih
  | @execute machine _ _ _ stmt turns _ parsed part ih =>
      have runs := Run.bodyRunner_runsSoundly distinct turns maxCallDepth
      have preserves := Run.execute_preserves distinct runs turns stmt (every parsed part)
      exact (preserves machine ih).2

/-- Machines that come about by running sources are sound. -/
theorem Machine.Reachable.sound {machine : Machine} (reachable : machine.Reachable) :
    machine.Sound Stmt.IsAccepted :=
  reachable.soundFor Run.requiresDistinctParams_isAccepted Program.every_of_parse

namespace Run

variable {property : Stmt → Prop}

theorem Preserves.of_on_eq {α : Type} {computation : Run α} {post : α → Prop}
    (preserves : Preserves property computation post) {machine after : Machine} {value : α}
    (sound : machine.Sound property) (result : computation.on machine = (.ok value, after)) :
    post value ∧ after.Sound property := by
  obtain ⟨answer, kept⟩ := preserves machine sound
  rw [result] at answer kept
  exact ⟨answer value rfl, kept⟩

/-- The statements of a task have the property, and the values it works on are sound. -/
def Task.Sound (property : Stmt → Prop) : Task → Prop
  | .call _ args _ => ∀ arg ∈ args, arg.Sound property
  | .function functions args _ =>
    (Value.function functions).Sound property ∧ ∀ arg ∈ args, arg.Sound property
  | .mapping callee items _ => callee.Sound property ∧ ∀ item ∈ items, item.Sound property
  | .statement stmt => stmt.Every property
  | .block stmts => EveryStmt property stmts
  | .arms choice => choice.Every property
  | .itemLoop _ items body => (∀ item ∈ items, item.Sound property) ∧ EveryStmt property body
  | .whileLoop _ body _ | .termLoop _ _ _ _ body | .floatLoop _ _ _ _ _ body =>
    EveryStmt property body
  | _ => True

theorem Task.Sound.ofRange (turns : Nat) (name : String) (first last : Number)
    (step : Option Number) {body : List Stmt} (holds : EveryStmt property body) :
    (Task.ofRange turns name first last step body).Sound property := by
  unfold Task.ofRange
  split <;> exact holds

/-- A task on a sound machine begins sound tasks on sound machines. -/
theorem Begins.sound {turns : Nat} {run : BodyRunner} {machine after : Machine} {task next : Task}
    (distinct : RequiresDistinctParams property) (runs : RunsSoundly property run)
    (begins : Begins turns run machine task after next) (sound : machine.Sound property)
    (task_sound : task.Sound property) : after.Sound property ∧ next.Sound property := by
  have evaluates (expr : Expr) := evaluate_preserves runs expr
  have executes {block : List Stmt} (holds : EveryStmt property block) :=
    executeBlock_preserves distinct runs turns block holds
  cases begins with
  | right _ _ _ _ _ _ evaluated => exact ⟨((evaluates _).of_on_eq sound evaluated).2, trivial⟩
  | called _ _ _ _ _ evaluated =>
      exact ((evaluateAll_preserves runs _).of_on_eq sound evaluated).symm
  | methodArguments _ _ _ _ _ _ evaluated =>
      exact ⟨((evaluates _).of_on_eq sound evaluated).2, trivial⟩
  | laterExpressions _ _ _ _ evaluated =>
      exact ⟨((evaluates _).of_on_eq sound evaluated).2, trivial⟩
  | bound _ functions _ _ _ _ found => exact ⟨sound, sound.lookup found, task_sound⟩
  | mapped function collection items _ found =>
      obtain ⟨function_sound, later⟩ := List.forall_mem_cons.1 task_sound
      exact ⟨sound, function_sound, (later collection List.mem_cons_self).elements found⟩
  | mappedFunction functions item rest _ =>
      obtain ⟨first, _⟩ := List.forall_mem_cons.1 task_sound.2
      exact ⟨sound, task_sound.1, List.forall_mem_singleton.2 first⟩
  | mappedName name item rest _ _ =>
      obtain ⟨first, _⟩ := List.forall_mem_cons.1 task_sound.2
      exact ⟨sound, List.forall_mem_singleton.2 first⟩
  | laterItems _ function item rest span _ applied =>
      obtain ⟨first, later⟩ := List.forall_mem_cons.1 task_sound.2
      have kept := (applyTo_preserves runs span task_sound.1 first).of_on_eq sound applied
      exact ⟨kept.2, task_sound.1, later⟩
  | laterDeclarations _ name _ _ _ evaluated =>
      have kept := (evaluateOptional_preserves runs _).of_on_eq sound evaluated
      exact ⟨kept.2.define name kept.1, trivial⟩
  | arms => exact ⟨sound, task_sound.2⟩
  | chosen _ _ _ _ _ evaluated =>
      exact ⟨((evaluates _).of_on_eq sound evaluated).2, task_sound.1⟩
  | others _ _ _ _ _ evaluated =>
      exact ⟨((evaluates _).of_on_eq sound evaluated).2, task_sound.2⟩
  | otherwise => exact ⟨sound, task_sound⟩
  | firstStatement => exact ⟨sound, task_sound.1⟩
  | laterStatements _ stmt _ _ executed =>
      have kept := (execute_preserves distinct runs turns stmt task_sound.1).of_on_eq sound executed
      exact ⟨kept.2, task_sound.2⟩
  | whileLoop => exact ⟨sound, task_sound.2⟩
  | whileBody _ _ _ _ _ evaluated =>
      exact ⟨((evaluates _).of_on_eq sound evaluated).2, task_sound⟩
  | whileAgain _ _ _ _ _ _ _ evaluated _ executed =>
      have kept := (evaluates _).of_on_eq sound evaluated
      exact ⟨((executes task_sound).of_on_eq kept.2 executed).2, task_sound⟩
  | rangeLast _ _ _ _ _ _ _ _ lower =>
      exact ⟨((rangeBound_preserves runs _).of_on_eq sound lower).2, trivial⟩
  | rangeStep _ _ _ _ _ _ _ _ _ _ lower upper =>
      have lowered := (rangeBound_preserves runs _).of_on_eq sound lower
      exact ⟨((rangeBound_preserves runs _).of_on_eq lowered.2 upper).2, trivial⟩
  | rangeLoop _ _ _ _ _ _ _ _ _ _ _ _ lower upper stride =>
      have lowered := (rangeBound_preserves runs _).of_on_eq sound lower
      have raised := (rangeBound_preserves runs _).of_on_eq lowered.2 upper
      have stepped := (rangeStep_preserves runs _ _).of_on_eq raised.2 stride
      exact ⟨stepped.2, .ofRange _ _ _ _ _ task_sound.2⟩
  | termBody name => exact ⟨sound.define name (Value.sound_int _), task_sound⟩
  | laterTerms _ name _ _ term _ _ executed =>
      have bound := sound.define name (Value.sound_int (.ofInt term))
      exact ⟨((executes task_sound).of_on_eq bound executed).2, task_sound⟩
  | floatBody name => exact ⟨sound.define name (Value.sound_float _), task_sound⟩
  | laterFloats _ name _ _ _ term _ _ _ executed =>
      have bound := sound.define name (Value.sound_float term)
      exact ⟨((executes task_sound).of_on_eq bound executed).2, task_sound⟩
  | itemLoop _ _ _ _ _ _ _ evaluated found =>
      have kept := (evaluates _).of_on_eq sound evaluated
      exact ⟨kept.2, kept.1.elements found, task_sound.2⟩
  | itemBody name item rest =>
      obtain ⟨first, _⟩ := List.forall_mem_cons.1 task_sound.1
      exact ⟨sound.define name first, task_sound.2⟩
  | laterItemTurns _ name item rest _ _ executed =>
      obtain ⟨first, later⟩ := List.forall_mem_cons.1 task_sound.1
      have bound := sound.define name first
      exact ⟨((executes task_sound.2).of_on_eq bound executed).2, later, task_sound.2⟩
  | _ => exact ⟨sound, trivial⟩

/-- What is sound at one moment is sound at the next one. -/
theorem Next.sound {turns : Nat} {moment later : Moment}
    (distinct : RequiresDistinctParams property) (next : Next turns moment later)
    (sound : moment.machine.Sound property) (task_sound : moment.task.Sound property) :
    later.machine.Sound property ∧ later.task.Sound property := by
  cases next with
  | task begins =>
      exact begins.sound distinct (bodyRunner_runsSoundly distinct turns _) sound task_sound
  | @body calls machine functions args span closure body resolved defined room =>
      have member : closure ∈ functions.overloads := List.mem_of_find?_eq_some resolved
      have body_holds := task_sound.1.2 closure member
      rw [defined] at body_holds
      exact ⟨sound.enter closure task_sound.2, body_holds⟩

/-- What is sound at one moment is sound at all moments that follow. -/
theorem sound_of_reaches {turns : Nat} {moment later : Moment}
    (distinct : RequiresDistinctParams property)
    (reaches : Relation.ReflTransGen (Next turns) moment later)
    (sound : moment.machine.Sound property) (task_sound : moment.task.Sound property) :
    later.machine.Sound property ∧ later.task.Sound property := by
  induction reaches with
  | refl => exact ⟨sound, task_sound⟩
  | tail _ next ih => exact next.sound distinct ih.1 ih.2

namespace Moment

/-- The machine is sound, and so is what begins. -/
structure Sound (moment : Moment) : Prop where
  machine : moment.machine.Sound Stmt.IsAccepted
  task : moment.task.Sound Stmt.IsAccepted

theorem Sound.of_reaches {turns : Nat} {moment later : Moment} (sound : moment.Sound)
    (reaches : Relation.ReflTransGen (Next turns) moment later) : later.Sound := by
  obtain ⟨machine_sound, task_sound⟩ :=
    sound_of_reaches requiresDistinctParams_isAccepted reaches sound.machine sound.task
  exact ⟨machine_sound, task_sound⟩

end Moment

theorem runProgram_preserves (turns : Nat) {last : Value} {stmts : List Stmt}
    (last_sound : last.Sound Stmt.IsAccepted) (accepted : EveryStmt Stmt.IsAccepted stmts) :
    Preserves Stmt.IsAccepted (runProgram turns last stmts) (Value.Sound Stmt.IsAccepted) := by
  induction stmts generalizing last with
  | nil => exact .pure last_sound
  | cons stmt rest ih =>
      have runs := bodyRunner_runsAccepted turns maxCallDepth
      refine .bind (execute_preserves requiresDistinctParams_isAccepted runs turns stmt accepted.1)
        fun flow flow_sound => ?_
      cases flow with
      | next => exact ih last_sound accepted.2
      | value result => exact ih flow_sound accepted.2
      | give result => exact .fault _ _

theorem load_preserves (source : String) :
    Preserves Stmt.IsAccepted (load source) (EveryStmt Stmt.IsAccepted) := by
  intro machine sound
  rcases load_on source machine with ⟨program, parsed, loaded⟩ | ⟨diagnostic, _, refused⟩
  · rw [loaded]
    refine ⟨.ok ((everyStmt_iff _).2 fun stmt part => ?_), sound⟩
    exact Program.every_of_parse parsed part
  · rw [refused]
    exact ⟨.error _, sound⟩

theorem evalSource_preserves (turns : Nat) (source : String) :
    Preserves Stmt.IsAccepted (evalSource turns source) (Value.Sound Stmt.IsAccepted) :=
  .bind (load_preserves source) fun _ accepted =>
    runProgram_preserves turns Value.sound_none accepted

/-- Every value is well formed, at every depth: those in the frames of a machine that has run any
sources, those that a source or an expression evaluates to on it, and those in the frames and from
the expressions at every moment of its next statement.  A well-formed integer is wide only if no
word holds it, a well-formed set holds no item twice, and a well-formed function value has at least
one function, at most one for each number of parameters, and none with two parameters of one
name. -/
theorem values_stay_well_formed {machine : Machine} (reachable : machine.Reachable) (turns : Nat) :
    machine.scopes.EveryValue (Value.Every Value.IsWellFormed) ∧
    (∀ (source : String) (value : Value) (after : Machine),
      (evalSource turns source).on machine = (.ok value, after) →
      value.Every Value.IsWellFormed) ∧
    (∀ (expr : Expr) (value : Value) (after : Machine),
      (evaluate (bodyRunner turns maxCallDepth) expr).on machine = (.ok value, after) →
      value.Every Value.IsWellFormed) ∧
    (∀ (source : String) (program : Program) (label : Nat) (stmt : Stmt) (moment : Moment),
      Program.parse source = .ok program → stmt ∈ (program.number label).1 →
      Relation.ReflTransGen (Next turns) ⟨0, machine, .statement stmt⟩ moment →
      moment.machine.scopes.EveryValue (Value.Every Value.IsWellFormed) ∧
      ∀ (expr : Expr) (value : Value) (after : Machine),
        (evaluate (runnerAt turns moment.calls) expr).on moment.machine = (.ok value, after) →
        value.Every Value.IsWellFormed) := by
  have frames {machine : Machine} (sound : machine.Sound Stmt.IsAccepted) :
      machine.scopes.EveryValue (Value.Every Value.IsWellFormed) :=
    fun id binding member => (sound id binding member).every_isWellFormed
  have evaluated {machine : Machine} (sound : machine.Sound Stmt.IsAccepted) (levels : Nat)
      (expr : Expr) (value : Value) (after : Machine)
      (result : (evaluate (bodyRunner turns levels) expr).on machine = (.ok value, after)) :
      value.Every Value.IsWellFormed := by
    have preserves := evaluate_preserves (bodyRunner_runsAccepted turns levels) expr
    exact (preserves.of_on_eq sound result).1.every_isWellFormed
  have sound := reachable.sound
  refine ⟨frames sound, ?_, evaluated sound maxCallDepth, ?_⟩
  · intro source value after result
    exact ((evalSource_preserves turns source).of_on_eq sound result).1.every_isWellFormed
  · intro source program label stmt moment parsed part reaches
    have start : Moment.Sound ⟨0, machine, .statement stmt⟩ :=
      ⟨sound, Program.every_of_parse parsed part⟩
    have later := start.of_reaches reaches
    exact ⟨frames later.machine, evaluated later.machine _⟩

/-- A machine that has run a declaration, and a set that is written with an item twice. -/
theorem set_without_second_item_is_well_formed :
    let fresh := Machine.start (.start .closed .empty false .strict)
    let machine := ((evalSource 1 "fn f(a, b): give [a, b]. ;").on fresh).2
    let one : Expr := .literal (.int "1") default
    machine.Reachable ∧
      machine.scopes.EveryValue (Value.Every Value.IsWellFormed) ∧
      (evaluate (bodyRunner 1 maxCallDepth) (.set [one, one] default)).on machine =
        (.ok (.set [.int 1]), machine) ∧
      (Value.set [.int 1]).Every Value.IsWellFormed := by
  intro fresh machine one
  have reachable : machine.Reachable := (Machine.Reachable.start _).evalSource 1 _
  have formed := values_stay_well_formed reachable 1
  have read (run : BodyRunner) (machine : Machine) :
      (evaluate run one).on machine = (.ok (.int 1), machine) := by
    rw [evaluate]
    rfl
  have once : Value.distinct [.int 1, .int 1] = [.int 1] := by
    simp [Value.distinct, Value.memberOf, Value.looseEq, Value.numericEq, Value.number?,
      Number.compare?, Integer.order_eq]
  have evaluated : (evaluate (bodyRunner 1 maxCallDepth) (.set [one, one] default)).on machine =
      (.ok (.set [.int 1]), machine) := by
    rw [evaluate, evaluateAll, evaluateAll, evaluateAll]
    simp only [on_bind, read, on_pure, Value.ofSet, once]
  exact ⟨reachable, formed.1, evaluated, formed.2.2.1 _ _ _ evaluated⟩

end Run
end DotScript
