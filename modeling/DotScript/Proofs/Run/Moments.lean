import DotScript.Proofs.Run.Frames
import Mathlib.Logic.Relation

/-!
# The moments of a run

A run begins one task after the other: expressions, calls, statements, blocks and the turns of
loops.  `Begins` says which task begins which other task, and on which machine; a call whose body
runs is the one step that puts one more call in progress.  The calls in progress are counted from
these steps alone, so that the depth a machine keeps can be compared with them at every moment.
-/

namespace DotScript

/-- Whether a block or a loop goes on after a statement. -/
def Flow.goesOn : Flow → Bool
  | .give _ => false
  | _ => true

namespace Run

/-- Something that a machine does. -/
inductive Task
  | expression (expr : Expr)
  /-- Evaluates expressions from left to right. -/
  | expressions (exprs : List Expr)
  /-- Calls by name. -/
  | call (name : String) (args : List Value) (span : Span)
  /-- Calls a function of a set. -/
  | function (functions : FunctionSet) (args : List Value) (span : Span)
  /-- Calls a function on one item after the other. -/
  | mapping (function : Value) (items : List Value) (span : Span)
  | statement (stmt : Stmt)
  | block (stmts : List Stmt)
  | arms (arms : Arms)
  /-- Declares variables one after the other. -/
  | declarations (bindings : List (String × Option Expr))
  | whileLoop (condition : Expr) (body : List Stmt) (turns : Nat)
  | itemLoop (name : String) (items : List Value) (body : List Stmt)
  | termLoop (name : String) (step : Int) (terms : Nat) (term : Int) (body : List Stmt)
  | floatLoop (name : String) (last step : Float) (turns : Nat) (term : Float) (body : List Stmt)

namespace Task

/-- The loop over a range. -/
def ofRange (turns : Nat) (name : String) (first last : Number) (step : Option Number)
    (body : List Stmt) : Task :=
  match first, last, step with
  | .int first, .int last, none =>
    let step := defaultStep first.toInt last.toInt
    .termLoop name step (termCount first.toInt last.toInt step) first.toInt body
  | .int first, .int last, some (.int step) =>
    .termLoop name step.toInt (termCount first.toInt last.toInt step.toInt) first.toInt body
  | first, last, step =>
    .floatLoop name last.toFloat
      ((step.map Number.toFloat).getD (defaultFloatStep first.toFloat last.toFloat)) turns
      first.toFloat body

/-- The machine that a task leaves behind, whether it ends or halts. -/
def leaves (turns : Nat) (run : BodyRunner) (machine : Machine) : Task → Machine
  | .expression expr => ((evaluate run expr).on machine).2
  | .expressions exprs => ((evaluateAll run exprs).on machine).2
  | .call name args span => ((Run.call run name args span).on machine).2
  | .function functions args span => ((callFunction run functions args span).on machine).2
  | .mapping callee items span => ((applyToAll run callee span [] items).on machine).2
  | .statement stmt => ((execute turns run stmt).on machine).2
  | .block stmts => ((executeBlock turns run stmts).on machine).2
  | .arms choice => ((executeArms turns run choice).on machine).2
  | .declarations bindings => ((declareAll run bindings).on machine).2
  | .whileLoop condition body left =>
    ((repeatWhile (evaluate run condition) (executeBlock turns run body) left).on machine).2
  | .itemLoop name items body => ((forEach name (executeBlock turns run body) items).on machine).2
  | .termLoop name step terms term body =>
    ((countFrom name (executeBlock turns run body) step terms term).on machine).2
  | .floatLoop name last step left term body =>
    ((countFloats name (executeBlock turns run body) last step left term).on machine).2

end Task

/-- Whether an operator evaluates its right operand after a left operand with this value. -/
def needsRight : BinaryOp → Value → Bool
  | .and, left => left.truthy
  | .or, left => !left.truthy
  | _, _ => true

/-- A task on a machine begins another task on another machine.  Bodies of functions are run by
`run` and are not begun by anything here. -/
inductive Begins (turns : Nat) (run : BodyRunner) : Machine → Task → Machine → Task → Prop
  | left (machine op left right span) :
      Begins turns run machine (.expression (.binary op left right span))
        machine (.expression left)
  | right (machine after op left right span value) :
      (evaluate run left).on machine = (.ok value, after) → needsRight op value →
      Begins turns run machine (.expression (.binary op left right span))
        after (.expression right)
  | operand (machine op operand span) :
      Begins turns run machine (.expression (.unary op operand span))
        machine (.expression operand)
  | arguments (machine name args span) :
      Begins turns run machine (.expression (.call name args span)) machine (.expressions args)
  | called (machine after name args span values) :
      (evaluateAll run args).on machine = (.ok values, after) →
      Begins turns run machine (.expression (.call name args span)) after (.call name values span)
  | receiver (machine receiver name args span) :
      Begins turns run machine (.expression (.method receiver name args span))
        machine (.expression receiver)
  | methodArguments (machine after receiver name args span value) :
      (evaluate run receiver).on machine = (.ok value, after) →
      Begins turns run machine (.expression (.method receiver name args span))
        after (.expressions args)
  | listItems (machine items span) :
      Begins turns run machine (.expression (.list items span)) machine (.expressions items)
  | setItems (machine items span) :
      Begins turns run machine (.expression (.set items span)) machine (.expressions items)
  | firstExpression (machine expr rest) :
      Begins turns run machine (.expressions (expr :: rest)) machine (.expression expr)
  | laterExpressions (machine after expr rest value) :
      (evaluate run expr).on machine = (.ok value, after) →
      Begins turns run machine (.expressions (expr :: rest)) after (.expressions rest)
  | bound (machine name functions args span) :
      name ≠ mapName → Builtin.ofName? name = none →
      machine.lookup name = some (.function functions) →
      Begins turns run machine (.call name args span) machine (.function functions args span)
  | mapped (machine function collection items span) :
      collection.elements? = some items →
      Begins turns run machine (.call mapName [function, collection] span)
        machine (.mapping function items span)
  | mappedFunction (machine functions item rest span) :
      Begins turns run machine (.mapping (.function functions) (item :: rest) span)
        machine (.function functions [item] span)
  | mappedName (machine name item rest span) :
      name ≠ mapName →
      Begins turns run machine (.mapping (.string name) (item :: rest) span)
        machine (.call name [item] span)
  | laterItems (machine after function item rest span value) :
      (applyTo run function item span).on machine = (.ok value, after) →
      Begins turns run machine (.mapping function (item :: rest) span)
        after (.mapping function rest span)
  | declarations (machine bindings span) :
      Begins turns run machine (.statement (.var bindings span)) machine (.declarations bindings)
  | initial (machine name expr rest) :
      Begins turns run machine (.declarations ((name, some expr) :: rest))
        machine (.expression expr)
  | laterDeclarations (machine after name initial rest value) :
      (evaluateOptional run initial).on machine = (.ok value, after) →
      Begins turns run machine (.declarations ((name, initial) :: rest))
        (after.define name value) (.declarations rest)
  | letValue (machine name value span) :
      Begins turns run machine (.statement (.letBe name value span)) machine (.expression value)
  | assignedValue (machine name op value span) :
      Begins turns run machine (.statement (.assign name op value span))
        machine (.expression value)
  | statementValue (machine value span) :
      Begins turns run machine (.statement (.expression value span)) machine (.expression value)
  | givenValue (machine value span) :
      Begins turns run machine (.statement (.give (some value) span)) machine (.expression value)
  | arms (machine arms span) :
      Begins turns run machine (.statement (.choose arms span)) machine (.arms arms)
  | condition (machine condition body others) :
      Begins turns run machine (.arms (.arm condition body others)) machine (.expression condition)
  | chosen (machine after condition body others value) :
      (evaluate run condition).on machine = (.ok value, after) → value.truthy →
      Begins turns run machine (.arms (.arm condition body others)) after (.block body)
  | others (machine after condition body others value) :
      (evaluate run condition).on machine = (.ok value, after) → ¬ value.truthy →
      Begins turns run machine (.arms (.arm condition body others)) after (.arms others)
  | otherwise (machine body) :
      Begins turns run machine (.arms (.otherwise body)) machine (.block body)
  | firstStatement (machine stmt rest) :
      Begins turns run machine (.block (stmt :: rest)) machine (.statement stmt)
  | laterStatements (machine after stmt rest flow) :
      (execute turns run stmt).on machine = (.ok flow, after) → flow.goesOn →
      Begins turns run machine (.block (stmt :: rest)) after (.block rest)
  | whileLoop (machine condition body span) :
      Begins turns run machine (.statement (.whileLoop condition body span))
        machine (.whileLoop condition body turns)
  | whileCondition (machine condition body left) :
      Begins turns run machine (.whileLoop condition body (left + 1))
        machine (.expression condition)
  | whileBody (machine after condition body left value) :
      (evaluate run condition).on machine = (.ok value, after) → value.truthy →
      Begins turns run machine (.whileLoop condition body (left + 1)) after (.block body)
  | whileAgain (machine middle after condition body left value flow) :
      (evaluate run condition).on machine = (.ok value, middle) → value.truthy →
      (executeBlock turns run body).on middle = (.ok flow, after) → flow.goesOn →
      Begins turns run machine (.whileLoop condition body (left + 1))
        after (.whileLoop condition body left)
  | rangeFirst (machine name first last step body span) :
      Begins turns run machine (.statement (.forRange name first last step body span))
        machine (.expression first)
  | rangeLast (machine after name first last step body span lower) :
      (rangeBound run first).on machine = (.ok lower, after) →
      Begins turns run machine (.statement (.forRange name first last step body span))
        after (.expression last)
  | rangeStep (machine middle after name first last step body span lower upper) :
      (rangeBound run first).on machine = (.ok lower, middle) →
      (rangeBound run last).on middle = (.ok upper, after) →
      Begins turns run machine (.statement (.forRange name first last (some step) body span))
        after (.expression step)
  | rangeLoop (machine lowered middle after name first last step body span lower upper stride) :
      (rangeBound run first).on machine = (.ok lower, lowered) →
      (rangeBound run last).on lowered = (.ok upper, middle) →
      (Run.rangeStep run step span).on middle = (.ok stride, after) →
      Begins turns run machine (.statement (.forRange name first last step body span))
        after (.ofRange turns name lower upper stride body)
  | termBody (machine name step terms term body) :
      Begins turns run machine (.termLoop name step (terms + 1) term body)
        (machine.define name (.int (.ofInt term))) (.block body)
  | laterTerms (machine after name step terms term body flow) :
      (executeBlock turns run body).on (machine.define name (.int (.ofInt term))) = (.ok flow, after) →
      flow.goesOn →
      Begins turns run machine (.termLoop name step (terms + 1) term body)
        after (.termLoop name step terms (term + step) body)
  | floatBody (machine name last step left term body) :
      inFloatRange last step term →
      Begins turns run machine (.floatLoop name last step (left + 1) term body)
        (machine.define name (.float term)) (.block body)
  | laterFloats (machine after name last step left term body flow) :
      inFloatRange last step term →
      (executeBlock turns run body).on (machine.define name (.float term)) = (.ok flow, after) →
      flow.goesOn →
      Begins turns run machine (.floatLoop name last step (left + 1) term body)
        after (.floatLoop name last step left (term + step) body)
  | iterated (machine name items body span) :
      Begins turns run machine (.statement (.forIn name items body span))
        machine (.expression items)
  | itemLoop (machine after name items body span value elements) :
      (evaluate run items).on machine = (.ok value, after) → value.elements? = some elements →
      Begins turns run machine (.statement (.forIn name items body span))
        after (.itemLoop name elements body)
  | itemBody (machine name item rest body) :
      Begins turns run machine (.itemLoop name (item :: rest) body)
        (machine.define name item) (.block body)
  | laterItemTurns (machine after name item rest body flow) :
      (executeBlock turns run body).on (machine.define name item) = (.ok flow, after) →
      flow.goesOn →
      Begins turns run machine (.itemLoop name (item :: rest) body)
        after (.itemLoop name rest body)

section Steps

open Machine

variable {run : BodyRunner}

/-- A task leaves the place in the program and the frames around it alone. -/
theorem Task.leaves_changesOnlyCurrent (bodies : ∀ body, Keeps ChangesOnlyCurrent (run body))
    (turns : Nat) (machine : Machine) (task : Task) :
    machine.ChangesOnlyCurrent (task.leaves turns run machine) := by
  have binding := bearsBinding_of_bodies bodies
  have bears := binding.toBears
  cases task with
  | expression expr => exact evaluate_keeps bears expr machine
  | expressions exprs => exact evaluateAll_keeps bears exprs machine
  | call name args span => exact bears.callByName name args span machine
  | function functions args span => exact bears.callFunction functions args span machine
  | mapping callee items span => exact bears.applyToAll callee span items [] machine
  | statement stmt => exact execute_keeps binding turns stmt machine
  | block stmts => exact executeBlock_keeps binding turns stmts machine
  | arms arms => exact executeArms_keeps binding turns arms machine
  | declarations bindings => exact binding.declareAll bindings machine
  | whileLoop condition body left =>
      exact Keeps.repeatWhile (evaluate_keeps bears condition)
        (executeBlock_keeps binding turns body) left machine
  | itemLoop name items body =>
      exact binding.forEach name (executeBlock_keeps binding turns body) items machine
  | termLoop name step terms term body =>
      exact binding.countFrom name (executeBlock_keeps binding turns body) step terms term machine
  | floatLoop name last step left term body =>
      exact binding.countFloats name (executeBlock_keeps binding turns body) last step left term
        machine

/-- Between the beginning of a task and that of a task it begins, the place in the program and the
frames around it stay the same. -/
theorem Begins.changesOnlyCurrent {turns : Nat} {machine after : Machine} {task next : Task}
    (bodies : ∀ body, Keeps ChangesOnlyCurrent (run body))
    (begins : Begins turns run machine task after next) : machine.ChangesOnlyCurrent after := by
  have binding := bearsBinding_of_bodies bodies
  have bears := binding.toBears
  have refl : machine.ChangesOnlyCurrent machine := Std.Refl.refl machine
  cases begins with
  | right | methodArguments | laterExpressions | chosen | others | whileBody | itemLoop =>
      exact (evaluate_keeps bears _).of_on_eq ‹_›
  | called => exact (evaluateAll_keeps bears _).of_on_eq ‹_›
  | laterItems => exact (bears.applyTo _ _ _).of_on_eq ‹_›
  | laterStatements => exact (execute_keeps binding turns _).of_on_eq ‹_›
  | laterDeclarations =>
      have evaluated := (bears.evaluateOptional _).of_on_eq ‹_›
      exact IsTrans.trans _ _ _ evaluated (changesOnlyCurrent_define _ _ _)
  | whileAgain =>
      have evaluated := (evaluate_keeps bears _).of_on_eq ‹_›
      have executed := (executeBlock_keeps binding turns _).of_on_eq ‹_›
      exact IsTrans.trans _ _ _ evaluated executed
  | rangeLast => exact (bears.rangeBound _).of_on_eq ‹_›
  | rangeStep _ _ _ _ _ _ _ _ _ _ lower upper =>
      have lowered := (bears.rangeBound _).of_on_eq lower
      exact IsTrans.trans _ _ _ lowered ((bears.rangeBound _).of_on_eq upper)
  | rangeLoop _ _ _ _ _ _ _ _ _ _ _ _ lower upper stride =>
      have lowered := (bears.rangeBound _).of_on_eq lower
      have raised := (bears.rangeBound _).of_on_eq upper
      have stepped := (bears.rangeStep _ _).of_on_eq stride
      exact IsTrans.trans _ _ _ lowered (IsTrans.trans _ _ _ raised stepped)
  | termBody | floatBody | itemBody => exact changesOnlyCurrent_define _ _ _
  | laterTerms | laterFloats | laterItemTurns =>
      have executed := (executeBlock_keeps binding turns _).of_on_eq ‹_›
      exact IsTrans.trans _ _ _ (changesOnlyCurrent_define _ _ _) executed
  | _ => exact refl

end Steps

/-! ## Calls in progress -/

/-- Something that a machine begins to do while some calls are in progress. -/
structure Moment where
  /-- The number of function bodies that have begun and are not done. -/
  calls : Nat
  /-- The machine at the moment. -/
  machine : Machine
  /-- What begins. -/
  task : Task

/-- Runs the bodies of the functions that are called while a number of calls is in progress. -/
def runnerAt (turns calls : Nat) : BodyRunner :=
  bodyRunner turns (maxCallDepth - calls)

/-- One moment leads to another one: a task begins, or the body of a called function. -/
inductive Next (turns : Nat) : Moment → Moment → Prop
  | task {calls machine after task next} :
      Begins turns (runnerAt turns calls) machine task after next →
      Next turns ⟨calls, machine, task⟩ ⟨calls, after, next⟩
  | body {calls machine functions args span closure body} :
      functions.resolve args.length = some closure → closure.declaration.body = some body →
      machine.depth < maxCallDepth →
      Next turns ⟨calls, machine, .function functions args span⟩
        ⟨calls + 1, machine.enter closure args, .block body⟩

namespace Moment

/-- The depth that the machine keeps is the number of calls in progress, and within its bound. -/
structure Counted (moment : Moment) : Prop where
  depth : moment.machine.depth = moment.calls
  bound : moment.calls ≤ maxCallDepth

theorem Counted.next {turns : Nat} {moment later : Moment} (counted : moment.Counted)
    (next : Next turns moment later) : later.Counted := by
  cases next with
  | task begins =>
      have same := (begins.changesOnlyCurrent (bodyRunner_keeps turns _)).depth
      exact ⟨same.trans counted.depth, counted.bound⟩
  | @body calls machine _ _ _ _ _ _ _ room =>
      have deeper : machine.depth = calls := counted.depth
      exact ⟨congrArg (· + 1) deeper, Nat.succ_le_of_lt (deeper ▸ room)⟩

theorem Counted.of_reaches {turns : Nat} {moment later : Moment} (counted : moment.Counted)
    (reaches : Relation.ReflTransGen (Next turns) moment later) : later.Counted := by
  induction reaches with
  | refl => exact counted
  | tail _ next ih => exact ih.next next

end Moment

section Calls

variable {functions : FunctionSet} {args : List Value} {closure : Closure} {body : List Stmt}

/-- At the greatest depth a call is refused and nothing changes. -/
theorem callFunction_on_of_full (run : BodyRunner) (span : Span) {machine : Machine}
    (resolved : functions.resolve args.length = some closure)
    (defined : closure.declaration.body = some body) (full : maxCallDepth ≤ machine.depth) :
    (callFunction run functions args span).on machine =
      (.error (.ofFault span (.running (.callDepth closure.declaration.name))), machine) := by
  simp only [callFunction, resolved, callClosure, defined]
  rw [on_bind_of_ok (on_get machine), if_pos full]
  rfl

/-- Below the greatest depth a call runs the body, and its outcome is that of the body. -/
theorem callFunction_on_of_room (run : BodyRunner) (span : Span) {machine : Machine}
    (resolved : functions.resolve args.length = some closure)
    (defined : closure.declaration.body = some body) (room : machine.depth < maxCallDepth) :
    (callFunction run functions args span).on machine =
      (((run body).on (machine.enter closure args)).1.map Flow.callResult,
        ((run body).on (machine.enter closure args)).2.leave machine.current) := by
  simp only [callFunction, resolved, callClosure, defined]
  rw [on_bind_of_ok (on_get machine), if_neg (Nat.not_le_of_lt room)]
  cases result : (run body).on (machine.enter closure args) with
  | mk outcome after =>
      have called : (inCall closure args (run body)).on machine =
          (outcome, after.leave machine.current) := by rw [on_inCall, result]
      cases outcome with
      | error halt => exact on_bind_of_error called _
      | ok flow => exact on_bind_of_ok called _

/-- A call is refused exactly at the greatest depth: a call that runs its body makes a frame. -/
theorem callFunction_refused_iff (turns levels : Nat) (span : Span) {machine : Machine}
    (resolved : functions.resolve args.length = some closure)
    (defined : closure.declaration.body = some body) :
    (callFunction (bodyRunner turns levels) functions args span).on machine =
        (.error (.ofFault span (.running (.callDepth closure.declaration.name))), machine) ↔
      maxCallDepth ≤ machine.depth := by
  constructor
  · intro refused
    refine Nat.le_of_not_lt fun room => ?_
    rw [callFunction_on_of_room _ span resolved defined room] at refused
    have same := congrArg (fun result => result.2.scopes.frames.size) refused
    have entered : (machine.enter closure args).scopes.frames.size =
        machine.scopes.frames.size + 1 := Array.size_push _
    have grown := (bodyRunner_keeps turns levels body (machine.enter closure args)).grows
    simp only [Machine.leave] at same
    omega
  · exact callFunction_on_of_full _ span resolved defined

/-- A call is refused exactly if the greatest number of calls is in progress. -/
theorem Moment.Counted.refused_iff {moment : Moment} (counted : moment.Counted) (turns : Nat)
    (span : Span) (resolved : functions.resolve args.length = some closure)
    (defined : closure.declaration.body = some body) :
    (callFunction (runnerAt turns moment.calls) functions args span).on moment.machine =
        (.error (.ofFault span (.running (.callDepth closure.declaration.name))),
          moment.machine) ↔
      moment.calls = maxCallDepth := by
  have bound := counted.bound
  rw [runnerAt, callFunction_refused_iff turns _ span resolved defined, counted.depth]
  omega

/-- Otherwise the body runs with one more call in progress. -/
theorem Moment.Counted.outcome_of_room {moment : Moment} (counted : moment.Counted) (turns : Nat)
    (span : Span) (resolved : functions.resolve args.length = some closure)
    (defined : closure.declaration.body = some body) (room : moment.calls < maxCallDepth) :
    ((callFunction (runnerAt turns moment.calls) functions args span).on moment.machine).1 =
      ((executeBlock turns (runnerAt turns (moment.calls + 1)) body).on
        (moment.machine.enter closure args)).1.map Flow.callResult := by
  have deeper : maxCallDepth - moment.calls = maxCallDepth - (moment.calls + 1) + 1 := by omega
  have shallow : moment.machine.depth < maxCallDepth := by
    rw [counted.depth]
    exact room
  rw [callFunction_on_of_room _ span resolved defined shallow, runnerAt, deeper]
  rfl

end Calls

end Run

/-! ## Machines that run sources -/

/-- The machines that come about by loading sources and executing their statements, whatever comes
out, and by changes of the world in between. -/
inductive Machine.Reachable : Machine → Prop
  | start (host : Host) : Reachable (.start host)
  | world {machine : Machine} (host : Host) : Reachable machine → Reachable { machine with host }
  | load {machine : Machine} (source : String) :
      Reachable machine → Reachable ((Run.load source).on machine).2
  | execute {machine : Machine} {source : String} {program : Program} {label : Nat} {stmt : Stmt}
      (turns : Nat) :
      Reachable machine → Program.parse source = .ok program → stmt ∈ (program.number label).1 →
      Reachable ((Run.executeTop turns stmt).on machine).2

/-- Loading a source changes the next label at most. -/
theorem Run.load_on (source : String) (machine : Machine) :
    (∃ program, Program.parse source = .ok program ∧
      (load source).on machine =
        (.ok (program.number machine.nextLabel).1,
          { machine with nextLabel := (program.number machine.nextLabel).2 })) ∨
    (∃ diagnostic, Program.parse source = .error diagnostic ∧
      (load source).on machine = (.error (.failed diagnostic), machine)) := by
  cases parsed : Program.parse source with
  | ok program =>
      left
      refine ⟨program, rfl, ?_⟩
      simp only [load, parsed]
      rw [on_bind_of_ok (on_get machine)]
      rfl
  | error diagnostic =>
      right
      refine ⟨diagnostic, rfl, ?_⟩
      simp only [load, parsed, on_throw]

namespace Machine.Reachable

open Run

theorem idle {machine : Machine} (reachable : machine.Reachable) :
    machine.current = Scopes.globalId ∧ machine.depth = 0 := by
  induction reachable with
  | start host => exact ⟨rfl, rfl⟩
  | world host _ ih => exact ih
  | @load machine source _ ih =>
      rcases load_on source machine with ⟨program, _, loaded⟩ | ⟨diagnostic, _, refused⟩
      · rw [loaded]
        exact ih
      · rw [refused]
        exact ih
  | @execute machine _ _ _ stmt turns _ _ _ ih =>
      have kept := execute_changesOnlyCurrent turns maxCallDepth stmt machine
      exact ⟨kept.current.trans ih.1, kept.depth.trans ih.2⟩

theorem runProgram {machine : Machine} {source : String} {program : Program}
    {label : Nat} {stmts : List Stmt} {last : Value} (turns : Nat) (reachable : machine.Reachable)
    (parsed : Program.parse source = .ok program) (part : stmts ⊆ (program.number label).1) :
    ((runProgram turns last stmts).on machine).2.Reachable := by
  induction stmts generalizing machine last with
  | nil => exact reachable
  | cons stmt rest ih =>
      have executed := reachable.execute turns parsed (part List.mem_cons_self)
      have later := List.subset_of_cons_subset part
      rw [Run.runProgram]
      cases result : (executeTop turns stmt).on machine with
      | mk outcome after =>
          rw [result] at executed
          cases outcome with
          | error halt => rwa [on_bind_of_error result]
          | ok flow =>
              rw [on_bind_of_ok result]
              cases flow with
              | next => exact ih executed later
              | value result => exact ih executed later
              | give result => exact executed

/-- A machine that runs one more source is still reachable. -/
theorem evalSource {machine : Machine} (turns : Nat) (source : String)
    (reachable : machine.Reachable) : ((evalSource turns source).on machine).2.Reachable := by
  have loaded := reachable.load source
  rw [Run.evalSource]
  rcases load_on source machine with ⟨program, parsed, result⟩ | ⟨diagnostic, _, result⟩
  · rw [result] at loaded
    rw [on_bind_of_ok result]
    exact loaded.runProgram turns parsed (List.Subset.refl _)
  · rwa [on_bind_of_error result]

end Machine.Reachable

namespace Run

/-- The depth counts the calls in progress at every moment of a run, a call is refused exactly if
the greatest number of calls is in progress, and every statement leaves the machine as it has to be
for the next one: outside all calls and in the outermost frame. -/
theorem calls_are_counted {machine : Machine} (reachable : machine.Reachable) (turns : Nat) :
    (∀ (stmt : Stmt) (moment : Moment),
      Relation.ReflTransGen (Next turns) ⟨0, machine, .statement stmt⟩ moment →
      moment.machine.depth = moment.calls ∧ moment.calls ≤ maxCallDepth ∧
      (moment.task.leaves turns (runnerAt turns moment.calls) moment.machine).depth =
        moment.calls ∧
      ∀ functions args span closure body,
        moment.task = .function functions args span →
        functions.resolve args.length = some closure → closure.declaration.body = some body →
        ((callFunction (runnerAt turns moment.calls) functions args span).on moment.machine =
            (.error (.ofFault span (.running (.callDepth closure.declaration.name))),
              moment.machine) ↔
          moment.calls = maxCallDepth) ∧
        (moment.calls < maxCallDepth →
          Next turns moment
            ⟨moment.calls + 1, moment.machine.enter closure args, .block body⟩ ∧
          ((callFunction (runnerAt turns moment.calls) functions args span).on
              moment.machine).1 =
            ((executeBlock turns (runnerAt turns (moment.calls + 1)) body).on
              (moment.machine.enter closure args)).1.map Flow.callResult)) ∧
    (∀ stmt, ((executeTop turns stmt).on machine).2.current = Scopes.globalId ∧
      ((executeTop turns stmt).on machine).2.depth = 0) ∧
    (∀ source, ((evalSource turns source).on machine).2.Reachable ∧
      ((evalSource turns source).on machine).2.current = Scopes.globalId ∧
      ((evalSource turns source).on machine).2.depth = 0) := by
  have idle := reachable.idle
  refine ⟨fun stmt moment reaches => ?_, fun stmt => ?_, fun source => ?_⟩
  · have counted : moment.Counted := Moment.Counted.of_reaches ⟨idle.2, Nat.zero_le _⟩ reaches
    have bodies := bodyRunner_keeps turns (maxCallDepth - moment.calls)
    have left := (Task.leaves_changesOnlyCurrent bodies turns moment.machine moment.task).depth
    refine ⟨counted.depth, counted.bound, left.trans counted.depth, ?_⟩
    intro functions args span closure body task resolved defined
    refine ⟨?_, fun room => ⟨?_, ?_⟩⟩
    · exact counted.refused_iff turns span resolved defined
    · obtain ⟨calls, machine, _⟩ := moment
      subst task
      exact .body resolved defined (counted.depth ▸ room)
    · exact counted.outcome_of_room turns span resolved defined room
  · have kept := execute_changesOnlyCurrent turns maxCallDepth stmt machine
    exact ⟨kept.current.trans idle.1, kept.depth.trans idle.2⟩
  · have later := reachable.evalSource turns source
    exact ⟨later, later.idle⟩

/-- A new machine is outside all calls, also while it evaluates the value of a statement and after
a function that calls itself without end. -/
theorem new_machine_calls_are_counted :
    let machine := Machine.start (.start .closed .empty false .strict)
    let value : Expr := .call "f" [] default
    machine.Reachable ∧
      Next 1 ⟨0, machine, .statement (.expression value default)⟩ ⟨0, machine, .expression value⟩ ∧
      ((Task.expression value).leaves 1 (runnerAt 1 0) machine).depth = 0 ∧
      ((evalSource 1 "fn f(): give f(). ; f().").on machine).2.depth = 0 := by
  intro machine value
  have reachable : machine.Reachable := .start _
  have counted := calls_are_counted reachable 1
  have begun : Next 1 ⟨0, machine, .statement (.expression value default)⟩
      ⟨0, machine, .expression value⟩ :=
    .task (.statementValue _ _ _)
  exact ⟨reachable, begun, (counted.1 _ _ (.single begun)).2.2.1, (counted.2.2 _).2.2⟩

end Run
end DotScript
