import DotScript.Proofs.Run.BreakingOff
import DotScript.Proofs.Run.WellFormed

/-!
# Which runs come to an end

A run is left unfinished only where nothing is sure to end: at a loop under a condition, at a loop
over a range that counts in doubles, or at a sort of many items whose comparisons contradict each
other.  The limit on calls within calls is never used up, because a call at the greatest depth is
refused before its body begins.  `Moment.ComesTo` follows the run to the loop or the sort; so a source
without loops under conditions ends, unless it comes to a range with a double or to such a sort.
-/

namespace DotScript
namespace Run

/-! ## Loops and sorts that stay open -/

namespace Moment

/-- A loop over a range begins whose first term, last term or step is a double. -/
inductive CountsInDoubles (turns : Nat) : Moment → Prop
  | range {calls machine lowered middle after name first last step body span lower upper stride} :
      (rangeBound (runnerAt turns calls) first).on machine = (.ok lower, lowered) →
      (rangeBound (runnerAt turns calls) last).on lowered = (.ok upper, middle) →
      (rangeStep (runnerAt turns calls) step span).on middle = (.ok stride, after) →
      (∃ double, lower = .float double ∨ upper = .float double ∨ stride = some (.float double)) →
      CountsInDoubles turns ⟨calls, machine, .statement (.forRange name first last step body span)⟩

/-- A sort begins, of many items whose comparisons contradict each other. -/
inductive SortsContradictions (turns : Nat) : Moment → Prop
  | builtin {calls machine name collection rest span items} :
      Builtin.ofName? name = some .sorted → collection.expectItems "sorted" = .ok items →
      Value.Contradict items →
      SortsContradictions turns ⟨calls, machine, .call name (collection :: rest) span⟩
  | method {calls machine middle after receiver name args span value values items} :
      (evaluate (runnerAt turns calls) receiver).on machine = (.ok value, middle) →
      (evaluateAll (runnerAt turns calls) args).on middle = (.ok values, after) →
      value.toSort? name values = some items → Value.Contradict items →
      SortsContradictions turns ⟨calls, machine, .expression (.method receiver name args span)⟩

/-- A loop or a sort begins that nothing is sure to end. -/
def IsOpen (turns : Nat) (moment : Moment) : OpenEnd → Prop
  | .condition => ∃ condition body span, moment.task = .statement (.whileLoop condition body span)
  | .floatRange => moment.CountsInDoubles turns
  | .sort => moment.SortsContradictions turns
  | .calls => False

/-- A run from the moment on comes to an open loop or sort. -/
def ComesTo (turns : Nat) (moment : Moment) (cause : OpenEnd) : Prop :=
  ∃ later, Relation.ReflTransGen (Next turns) moment later ∧ later.IsOpen turns cause

theorem ComesTo.of_next {turns : Nat} {moment later : Moment} {cause : OpenEnd}
    (next : Next turns moment later) (comes : later.ComesTo turns cause) :
    moment.ComesTo turns cause := by
  obtain ⟨last, reaches, opened⟩ := comes
  exact ⟨last, .head next reaches, opened⟩

end Moment

section Evaluation

open Moment

variable {turns calls : Nat} {cause : OpenEnd}

/-- A task comes to the loops and sorts that the tasks it begins come to, with as many calls in
progress. -/
theorem Begins.comesTo {machine after : Machine} {task next : Task}
    (begins : Begins turns (runnerAt turns calls) machine task after next)
    (depth : machine.depth = calls)
    (later : after.depth = calls → ComesTo turns ⟨calls, after, next⟩ cause) :
    ComesTo turns ⟨calls, machine, task⟩ cause := by
  have same := (begins.changesOnlyCurrent (bodyRunner_keeps turns _)).depth
  exact .of_next (.task begins) (later (same.trans depth))

/-- A body that breaks off comes to an open loop or sort. -/
def BodiesComeTo (turns calls : Nat) : Prop :=
  calls < maxCallDepth → ∀ (body : List Stmt) (machine : Machine) (cause : OpenEnd),
    machine.depth = calls + 1 → BreaksOff (runnerAt turns calls body) machine cause →
    ComesTo turns ⟨calls + 1, machine, .block body⟩ cause

section Calls

variable (bodies : BodiesComeTo turns calls)

include bodies

theorem callFunction_comesTo {functions : FunctionSet} {args : List Value} {span : Span}
    {machine : Machine} (depth : machine.depth = calls)
    (out : BreaksOff (callFunction (runnerAt turns calls) functions args span) machine cause) :
    ComesTo turns ⟨calls, machine, .function functions args span⟩ cause := by
  cases resolved : functions.resolve args.length with
  | none =>
      rw [callFunction, resolved] at out
      exact absurd out (NeverBreaksOff.fault _ _ _ _)
  | some closure =>
      cases defined : closure.declaration.body with
      | none =>
          simp only [callFunction, resolved, callClosure, defined] at out
          exact absurd out (NeverBreaksOff.fault _ _ _ _)
      | some body =>
          by_cases room : machine.depth < maxCallDepth
          · rw [BreaksOff, callFunction_on_of_room _ span resolved defined room] at out
            have body_out :
                BreaksOff (runnerAt turns calls body) (machine.enter closure args) cause := by
              unfold BreaksOff
              cases outcome : ((runnerAt turns calls body).on (machine.enter closure args)).1 with
              | ok flow =>
                  rw [outcome] at out
                  cases out
              | error halt =>
                  rw [outcome] at out
                  cases out
                  rfl
            have deeper : (machine.enter closure args).depth = calls + 1 :=
              congrArg (· + 1) depth
            exact .of_next (.body resolved defined room)
              (bodies (depth ▸ room) body _ cause deeper body_out)
          · have refused := callFunction_on_of_full (runnerAt turns calls) span resolved defined
              (Nat.le_of_not_lt room)
            rw [BreaksOff, refused] at out
            cases out

/-- A call of another function than `map`. -/
theorem callNamed_comesTo {name : String} {args : List Value} {span : Span} {machine : Machine}
    (not_map : name ≠ mapName) (depth : machine.depth = calls)
    (out : BreaksOff (callNamed (runnerAt turns calls) name args span) machine cause) :
    ComesTo turns ⟨calls, machine, .call name args span⟩ cause := by
  cases found : Builtin.ofName? name with
  | some builtin =>
      rw [callNamed, found] at out
      obtain ⟨rfl, off⟩ := out.of_ofHost
      obtain ⟨rfl, _, _, _, rfl, expected, contradict⟩ := Builtin.contradict_of_call off
      exact ⟨_, .refl, .builtin found expected contradict⟩
  | none =>
      rw [callNamed, found] at out
      obtain ⟨_, _, ⟨⟩, out⟩ := BreaksOff.of_bind_next .get out
      split at out
      next functions bound =>
        exact (Begins.bound machine name functions args span not_map found bound).comesTo depth
          fun depth => callFunction_comesTo bodies depth out
      next => exact absurd out (NeverBreaksOff.fault _ _ _ _)
      next => exact absurd out (NeverBreaksOff.fault _ _ _ _)

theorem applyTo_comesTo {function item : Value} {rest : List Value} {span : Span}
    {machine : Machine} (depth : machine.depth = calls)
    (out : BreaksOff (applyTo (runnerAt turns calls) function item span) machine cause) :
    ComesTo turns ⟨calls, machine, .mapping function (item :: rest) span⟩ cause := by
  unfold applyTo at out
  split at out
  next functions =>
    exact (Begins.mappedFunction machine functions item rest span).comesTo depth fun depth =>
      callFunction_comesTo bodies depth out
  next name =>
    split at out
    next => exact absurd out (NeverBreaksOff.fault _ _ _ _)
    next not_map =>
      exact (Begins.mappedName machine name item rest span not_map).comesTo depth fun depth =>
        callNamed_comesTo bodies not_map depth out
  next => exact absurd out (NeverBreaksOff.fault _ _ _ _)

theorem applyToAll_comesTo {function : Value} {span : Span} {items : List Value}
    (results : List Value) {machine : Machine} (depth : machine.depth = calls)
    (out : BreaksOff (applyToAll (runnerAt turns calls) function span results items) machine cause) :
    ComesTo turns ⟨calls, machine, .mapping function items span⟩ cause := by
  induction items generalizing results machine with
  | nil => exact absurd out (NeverBreaksOff.pure _ _ _)
  | cons item rest ih =>
      rcases out.of_bind with out | ⟨value, after, applied, out⟩
      · exact applyTo_comesTo bodies depth out
      · exact (Begins.laterItems machine after function item rest span value applied).comesTo depth
          fun depth => ih _ depth out

theorem call_comesTo {name : String} {args : List Value} {span : Span} {machine : Machine}
    (depth : machine.depth = calls)
    (out : BreaksOff (Run.call (runnerAt turns calls) name args span) machine cause) :
    ComesTo turns ⟨calls, machine, .call name args span⟩ cause := by
  by_cases is_map : name = mapName
  · subst is_map
    unfold Run.call mapCall at out
    rw [if_pos rfl] at out
    split at out
    next function collection =>
      split at out
      next items found =>
        have out := out.of_bind_first fun _ => .pure _
        exact (Begins.mapped machine function collection items span found).comesTo depth
          fun depth => applyToAll_comesTo bodies [] depth out
      next => exact absurd out (NeverBreaksOff.fault _ _ _ _)
    next => exact absurd out (NeverBreaksOff.fault _ _ _ _)
  · rw [Run.call, if_neg is_map] at out
    exact callNamed_comesTo bodies is_map depth out

end Calls

mutual

/-- An expression that breaks off comes to an open sort, or to an open loop in a function that it
calls. -/
theorem evaluate_comesTo (bodies : BodiesComeTo turns calls) : ∀ (expr : Expr) {machine : Machine},
    machine.depth = calls → BreaksOff (evaluate (runnerAt turns calls) expr) machine cause →
    ComesTo turns ⟨calls, machine, .expression expr⟩ cause
  | .literal value span, machine, _, out => by
      rw [evaluate] at out
      exact absurd out (NeverBreaksOff.ofExcept _ _ _ _)
  | .variable name span, machine, _, out => by
      rw [evaluate] at out
      exact absurd out (NeverBreaksOff.readName _ _ _ _)
  | .binary op left right span, machine, depth, out => by
      -- whichever the operator, the left operand runs out, or the right one where it is needed
      have parts : BreaksOff (evaluate (runnerAt turns calls) left) machine cause ∨
          ∃ value after, (evaluate (runnerAt turns calls) left).on machine = (.ok value, after) ∧
            needsRight op value ∧ BreaksOff (evaluate (runnerAt turns calls) right) after cause := by
        by_cases is_and : op = .and
        · subst is_and
          rw [evaluate] at out
          refine out.of_bind.imp_right fun ⟨value, after, ended, out⟩ => ⟨value, after, ended, ?_⟩
          split at out
          next holds => exact ⟨holds, out.of_bind_first fun _ => .pure _⟩
          next => exact absurd out (NeverBreaksOff.pure _ _ _)
        by_cases is_or : op = .or
        · subst is_or
          rw [evaluate] at out
          refine out.of_bind.imp_right fun ⟨value, after, ended, out⟩ => ⟨value, after, ended, ?_⟩
          split at out
          next => exact absurd out (NeverBreaksOff.pure _ _ _)
          next fails =>
            exact ⟨by simpa [needsRight] using fails, out.of_bind_first fun _ => .pure _⟩
        rw [evaluate_binary _ is_and is_or] at out
        refine out.of_bind.imp_right fun ⟨value, after, ended, out⟩ => ⟨value, after, ended, ?_⟩
        refine ⟨?_, out.of_bind_first fun _ => .ofExcept _ _⟩
        cases op <;> first | contradiction | rfl
      rcases parts with out | ⟨value, after, ended, needed, out⟩
      · exact (Begins.left machine op left right span).comesTo depth fun depth =>
          evaluate_comesTo bodies left depth out
      · exact (Begins.right machine after op left right span value ended needed).comesTo depth
          fun depth => evaluate_comesTo bodies right depth out
  | .unary op operand span, machine, depth, out => by
      rw [evaluate] at out
      exact (Begins.operand machine op operand span).comesTo depth fun depth =>
        evaluate_comesTo bodies operand depth (out.of_bind_first fun _ => .ofExcept _ _)
  | .call name args span, machine, depth, out => by
      rw [evaluate] at out
      rcases out.of_bind with out | ⟨values, after, ended, out⟩
      · exact (Begins.arguments machine name args span).comesTo depth fun depth =>
          evaluateAll_comesTo bodies args depth out
      · exact (Begins.called machine after name args span values ended).comesTo depth fun depth =>
          call_comesTo bodies depth out
  | .method receiver name args span, machine, depth, out => by
      rw [evaluate] at out
      rcases out.of_bind with out | ⟨value, after, ended, out⟩
      · exact (Begins.receiver machine receiver name args span).comesTo depth fun depth =>
          evaluate_comesTo bodies receiver depth out
      rcases out.of_bind with out | ⟨values, last, given, out⟩
      · exact (Begins.methodArguments machine after receiver name args span value ended).comesTo
          depth fun depth => evaluateAll_comesTo bodies args depth out
      · obtain ⟨rfl, off⟩ := out.of_ofHost
        obtain ⟨items, to_sort, contradict⟩ := Value.contradict_of_invoke off
        exact ⟨_, .refl, .method ended given to_sort contradict⟩
  | .list items span, machine, depth, out => by
      rw [evaluate] at out
      exact (Begins.listItems machine items span).comesTo depth fun depth =>
        evaluateAll_comesTo bodies items depth (out.of_bind_first fun _ => .pure _)
  | .set items span, machine, depth, out => by
      rw [evaluate] at out
      exact (Begins.setItems machine items span).comesTo depth fun depth =>
        evaluateAll_comesTo bodies items depth (out.of_bind_first fun _ => .pure _)

theorem evaluateAll_comesTo (bodies : BodiesComeTo turns calls) : ∀ (exprs : List Expr)
    {machine : Machine}, machine.depth = calls →
    BreaksOff (evaluateAll (runnerAt turns calls) exprs) machine cause →
    ComesTo turns ⟨calls, machine, .expressions exprs⟩ cause
  | [], machine, _, out => by
      rw [evaluateAll] at out
      exact absurd out (NeverBreaksOff.pure _ _ _)
  | expr :: rest, machine, depth, out => by
      rw [evaluateAll] at out
      rcases out.of_bind with out | ⟨value, after, ended, out⟩
      · exact (Begins.firstExpression machine expr rest).comesTo depth fun depth =>
          evaluate_comesTo bodies expr depth out
      · exact (Begins.laterExpressions machine after expr rest value ended).comesTo depth
          fun depth => evaluateAll_comesTo bodies rest depth (out.of_bind_first fun _ => .pure _)

end

theorem rangeBound_comesTo (bodies : BodiesComeTo turns calls) {bound : Expr} {machine : Machine}
    (depth : machine.depth = calls)
    (out : BreaksOff (rangeBound (runnerAt turns calls) bound) machine cause) :
    ComesTo turns ⟨calls, machine, .expression bound⟩ cause := by
  refine evaluate_comesTo bodies bound depth (out.of_bind_first fun value => ?_)
  split
  · exact .pure _
  · exact .fault _ _

end Evaluation

/-! ## Execution -/

section Execution

open Moment

variable {turns calls : Nat} {cause : OpenEnd}

theorem declareAll_comesTo (bodies : BodiesComeTo turns calls)
    {bindings : List (String × Option Expr)} {machine : Machine} (depth : machine.depth = calls)
    (out : BreaksOff (declareAll (runnerAt turns calls) bindings) machine cause) :
    ComesTo turns ⟨calls, machine, .declarations bindings⟩ cause := by
  induction bindings generalizing machine with
  | nil => exact absurd out (NeverBreaksOff.pure _ _ _)
  | cons binding rest ih =>
      obtain ⟨name, initial⟩ := binding
      rcases out.of_bind with out | ⟨value, after, ended, out⟩
      · cases initial with
        | none => exact absurd out (NeverBreaksOff.pure _ _ _)
        | some expr =>
            exact (Begins.initial machine name expr rest).comesTo depth fun depth =>
              evaluate_comesTo bodies expr depth out
      · obtain ⟨_, _, ⟨⟩, out⟩ := BreaksOff.of_bind_next (.modify _) out
        exact (Begins.laterDeclarations machine after name initial rest value ended).comesTo depth
          fun depth => ih depth out

/-! The body of a loop is a block, and what is known about the block is all a loop needs. -/

section Loops

variable {body : List Stmt}
  (block : ∀ {machine : Machine}, machine.depth = calls →
    BreaksOff (executeBlock turns (runnerAt turns calls) body) machine cause →
    ComesTo turns ⟨calls, machine, .block body⟩ cause)

include block

theorem repeatWhile_comesTo (bodies : BodiesComeTo turns calls) {condition : Expr} {left : Nat}
    {machine : Machine} (inner : cause ≠ .condition) (depth : machine.depth = calls)
    (out : BreaksOff (repeatWhile (evaluate (runnerAt turns calls) condition)
      (executeBlock turns (runnerAt turns calls) body) left) machine cause) :
    ComesTo turns ⟨calls, machine, .whileLoop condition body left⟩ cause := by
  induction left generalizing machine with
  | zero =>
      cases out
      exact absurd rfl inner
  | succ left ih =>
      rcases out.of_bind with out | ⟨value, middle, evaluated, out⟩
      · exact (Begins.whileCondition machine condition body left).comesTo depth fun depth =>
          evaluate_comesTo bodies condition depth out
      · split at out
        next holds =>
          rcases out.of_bind with out | ⟨flow, after, executed, out⟩
          · exact (Begins.whileBody machine middle condition body left value evaluated
              holds).comesTo depth fun depth => block depth out
          · have again (goes_on : flow.goesOn) := Begins.whileAgain machine middle after condition
              body left value flow evaluated holds executed goes_on
            cases flow with
            | give result => exact absurd out (NeverBreaksOff.pure _ _ _)
            | next | value => exact (again rfl).comesTo depth fun depth => ih depth out
        next => exact absurd out (NeverBreaksOff.pure _ _ _)

theorem forEach_comesTo {name : String} {items : List Value} {machine : Machine}
    (depth : machine.depth = calls)
    (out : BreaksOff (forEach name (executeBlock turns (runnerAt turns calls) body) items)
      machine cause) :
    ComesTo turns ⟨calls, machine, .itemLoop name items body⟩ cause := by
  induction items generalizing machine with
  | nil => exact absurd out (NeverBreaksOff.pure _ _ _)
  | cons item rest ih =>
      obtain ⟨_, _, ⟨⟩, out⟩ := BreaksOff.of_bind_next (.modify _) out
      rcases out.of_bind with out | ⟨flow, after, executed, out⟩
      · exact (Begins.itemBody machine name item rest body).comesTo depth fun depth =>
          block depth out
      · have later (goes_on : flow.goesOn) :=
          Begins.laterItemTurns machine after name item rest body flow executed goes_on
        cases flow with
        | give result => exact absurd out (NeverBreaksOff.pure _ _ _)
        | next | value => exact (later rfl).comesTo depth fun depth => ih depth out

theorem countFrom_comesTo {name : String} {step : Int} {terms : Nat} {term : Int}
    {machine : Machine} (depth : machine.depth = calls)
    (out : BreaksOff (countFrom name (executeBlock turns (runnerAt turns calls) body) step terms term)
      machine cause) :
    ComesTo turns ⟨calls, machine, .termLoop name step terms term body⟩ cause := by
  induction terms generalizing term machine with
  | zero => exact absurd out (NeverBreaksOff.pure _ _ _)
  | succ terms ih =>
      obtain ⟨_, _, ⟨⟩, out⟩ := BreaksOff.of_bind_next (.modify _) out
      rcases out.of_bind with out | ⟨flow, after, executed, out⟩
      · exact (Begins.termBody machine name step terms term body).comesTo depth fun depth =>
          block depth out
      · have later (goes_on : flow.goesOn) :=
          Begins.laterTerms machine after name step terms term body flow executed goes_on
        cases flow with
        | give result => exact absurd out (NeverBreaksOff.pure _ _ _)
        | next | value => exact (later rfl).comesTo depth fun depth => ih depth out

theorem countFloats_comesTo {name : String} {last step : Float} {left : Nat} {term : Float}
    {machine : Machine} (inner : cause ≠ .floatRange) (depth : machine.depth = calls)
    (out : BreaksOff (countFloats name (executeBlock turns (runnerAt turns calls) body) last step left
      term) machine cause) :
    ComesTo turns ⟨calls, machine, .floatLoop name last step left term body⟩ cause := by
  induction left generalizing term machine with
  | zero =>
      cases out
      exact absurd rfl inner
  | succ left ih =>
      unfold countFloats at out
      split at out
      next inside =>
        obtain ⟨_, _, ⟨⟩, out⟩ := BreaksOff.of_bind_next (.modify _) out
        rcases out.of_bind with out | ⟨flow, after, executed, out⟩
        · exact (Begins.floatBody machine name last step left term body inside).comesTo depth
            fun depth => block depth out
        · have later (goes_on : flow.goesOn) := Begins.laterFloats machine after name last step left
            term body flow inside executed goes_on
          cases flow with
          | give result => exact absurd out (NeverBreaksOff.pure _ _ _)
          | next | value => exact (later rfl).comesTo depth fun depth => ih depth out
      next => exact absurd out (NeverBreaksOff.pure _ _ _)

/-- A range of integers is never the loop that stays open. -/
theorem countRange_comesTo {name : String} {first last : Number} {step : Option Number}
    {machine : Machine}
    (inner : cause = .floatRange →
      ¬ ∃ double, first = .float double ∨ last = .float double ∨ step = some (.float double))
    (depth : machine.depth = calls)
    (out : BreaksOff (countRange turns name (executeBlock turns (runnerAt turns calls) body) first
      last step) machine cause) :
    ComesTo turns ⟨calls, machine, .ofRange turns name first last step body⟩ cause := by
  rw [countRange_eq] at out
  match first, last, step with
  | .int first, .int last, none => exact countFrom_comesTo block depth out
  | .int first, .int last, some (.int step) => exact countFrom_comesTo block depth out
  | .float double, _, _ =>
      exact countFloats_comesTo block (fun same => inner same ⟨double, .inl rfl⟩) depth out
  | .int first, .float double, _ =>
      exact countFloats_comesTo block (fun same => inner same ⟨double, .inr (.inl rfl)⟩) depth out
  | .int first, .int last, some (.float double) =>
      exact countFloats_comesTo block (fun same => inner same ⟨double, .inr (.inr rfl)⟩) depth out

end Loops

mutual

/-- A statement that breaks off comes to an open loop or sort: itself, one in it, or one in a function
that it calls. -/
theorem execute_comesTo (bodies : BodiesComeTo turns calls) : ∀ (stmt : Stmt) {machine : Machine},
    machine.depth = calls → BreaksOff (execute turns (runnerAt turns calls) stmt) machine cause →
    ComesTo turns ⟨calls, machine, .statement stmt⟩ cause
  | .var bindings span, machine, depth, out => by
      rw [execute] at out
      exact (Begins.declarations machine bindings span).comesTo depth fun depth =>
        declareAll_comesTo bodies depth (out.of_bind_first fun _ => .pure _)
  | .letBe name value span, machine, depth, out => by
      rw [execute] at out
      exact (Begins.letValue machine name value span).comesTo depth fun depth =>
        evaluate_comesTo bodies value depth
          (out.of_bind_first fun _ => .bind (.modify _) fun _ => .pure _)
  | .assign name op value span, machine, depth, out => by
      rw [execute] at out
      exact (Begins.assignedValue machine name op value span).comesTo depth fun depth =>
        evaluate_comesTo bodies value depth
          (out.of_bind_first fun _ => .bind (.assignValue _ _ _ _) fun _ => .pure _)
  | .choose arms span, machine, depth, out => by
      rw [execute] at out
      exact (Begins.arms machine arms span).comesTo depth fun depth =>
        executeArms_comesTo bodies arms depth out
  | .whileLoop condition body span, machine, depth, out => by
      rw [execute] at out
      by_cases outer : cause = .condition
      · subst outer
        exact ⟨_, .refl, condition, body, span, rfl⟩
      · exact (Begins.whileLoop machine condition body span).comesTo depth fun depth =>
          repeatWhile_comesTo (executeBlock_comesTo bodies body) bodies outer depth out
  | .forRange name first last step body span, machine, depth, out => by
      rw [execute] at out
      rcases out.of_bind with out | ⟨lower, lowered, first_ended, out⟩
      · exact (Begins.rangeFirst machine name first last step body span).comesTo depth fun depth =>
          rangeBound_comesTo bodies depth out
      rcases out.of_bind with out | ⟨upper, middle, last_ended, out⟩
      · exact (Begins.rangeLast machine lowered name first last step body span lower
          first_ended).comesTo depth fun depth => rangeBound_comesTo bodies depth out
      rcases out.of_bind with out | ⟨stride, after, step_ended, out⟩
      · cases step with
        | none => exact absurd out (NeverBreaksOff.pure _ _ _)
        | some step =>
            have bound_out := out.of_bind_first fun number => by
              split
              · exact .fault _ _
              · exact .pure _
            exact (Begins.rangeStep machine lowered middle name first last step body span lower
              upper first_ended last_ended).comesTo depth fun depth =>
                rangeBound_comesTo bodies depth bound_out
      by_cases outer : cause = .floatRange ∧
          ∃ double, lower = .float double ∨ upper = .float double ∨ stride = some (.float double)
      · obtain ⟨rfl, doubles⟩ := outer
        exact ⟨_, .refl, .range first_ended last_ended step_ended doubles⟩
      · exact (Begins.rangeLoop machine lowered middle after name first last step body span lower
          upper stride first_ended last_ended step_ended).comesTo depth fun depth =>
            countRange_comesTo (executeBlock_comesTo bodies body) (not_and.1 outer) depth out
  | .forIn name items body span, machine, depth, out => by
      rw [execute] at out
      rcases out.of_bind with out | ⟨value, after, evaluated, out⟩
      · exact (Begins.iterated machine name items body span).comesTo depth fun depth =>
          evaluate_comesTo bodies items depth out
      · split at out
        next elements found =>
          exact (Begins.itemLoop machine after name items body span value elements evaluated
            found).comesTo depth fun depth =>
              forEach_comesTo (executeBlock_comesTo bodies body) depth out
        next => exact absurd out (NeverBreaksOff.fault _ _ _ _)
  | .define label name params body span, machine, _, out => by
      rw [execute] at out
      exact absurd out ((NeverBreaksOff.bind .get fun _ => .modify _).bind (fun _ => .pure _) _ _)
  | .expression value span, machine, depth, out => by
      rw [execute] at out
      exact (Begins.statementValue machine value span).comesTo depth fun depth =>
        evaluate_comesTo bodies value depth
          (out.of_bind_first fun _ => .bind (.echo _) fun _ => .pure _)
  | .give value span, machine, depth, out => by
      rw [execute] at out
      have out := out.of_bind_first fun _ => .pure _
      cases value with
      | none => exact absurd out (NeverBreaksOff.pure _ _ _)
      | some value =>
          exact (Begins.givenValue machine value span).comesTo depth fun depth =>
            evaluate_comesTo bodies value depth out
  | .pass span, machine, _, out => by
      rw [execute] at out
      exact absurd out (NeverBreaksOff.pure _ _ _)

theorem executeBlock_comesTo (bodies : BodiesComeTo turns calls) : ∀ (stmts : List Stmt)
    {machine : Machine}, machine.depth = calls →
    BreaksOff (executeBlock turns (runnerAt turns calls) stmts) machine cause →
    ComesTo turns ⟨calls, machine, .block stmts⟩ cause
  | [], machine, _, out => by
      rw [executeBlock] at out
      exact absurd out (NeverBreaksOff.pure _ _ _)
  | stmt :: rest, machine, depth, out => by
      rw [executeBlock] at out
      rcases out.of_bind with out | ⟨flow, after, executed, out⟩
      · exact (Begins.firstStatement machine stmt rest).comesTo depth fun depth =>
          execute_comesTo bodies stmt depth out
      · have later (goes_on : flow.goesOn) :=
          Begins.laterStatements machine after stmt rest flow executed goes_on
        cases flow with
        | give result => exact absurd out (NeverBreaksOff.pure _ _ _)
        | next | value =>
            exact (later rfl).comesTo depth fun depth => executeBlock_comesTo bodies rest depth out

theorem executeArms_comesTo (bodies : BodiesComeTo turns calls) : ∀ (arms : Arms)
    {machine : Machine}, machine.depth = calls →
    BreaksOff (executeArms turns (runnerAt turns calls) arms) machine cause →
    ComesTo turns ⟨calls, machine, .arms arms⟩ cause
  | .arm condition body others, machine, depth, out => by
      rw [executeArms] at out
      rcases out.of_bind with out | ⟨value, after, evaluated, out⟩
      · exact (Begins.condition machine condition body others).comesTo depth fun depth =>
          evaluate_comesTo bodies condition depth out
      · split at out
        next holds =>
          exact (Begins.chosen machine after condition body others value evaluated holds).comesTo
            depth fun depth => executeBlock_comesTo bodies body depth out
        next fails =>
          exact (Begins.others machine after condition body others value evaluated fails).comesTo
            depth fun depth => executeArms_comesTo bodies others depth out
  | .otherwise body, machine, depth, out => by
      rw [executeArms] at out
      exact (Begins.otherwise machine body).comesTo depth fun depth =>
        executeBlock_comesTo bodies body depth out
  | .nothing, machine, _, out => by
      rw [executeArms] at out
      exact absurd out (NeverBreaksOff.pure _ _ _)

end

/-- The induction is on the calls that there is room for.  Where there is room, a body is run as a
block with one more call in progress. -/
theorem bodiesComeTo (turns calls : Nat) : BodiesComeTo turns calls := by
  induction room : maxCallDepth - calls generalizing calls with
  | zero =>
      intro below
      omega
  | succ levels ih =>
      intro below body machine cause depth out
      have deeper : maxCallDepth - (calls + 1) = levels := by omega
      rw [runnerAt, room, bodyRunner, ← deeper] at out
      exact executeBlock_comesTo (ih (calls + 1) deeper) body depth out

/-- A program that breaks off comes to an open loop or sort. -/
theorem runProgram_comesTo {last : Value} {stmts : List Stmt} {machine : Machine}
    (outside : machine.depth = 0) (out : BreaksOff (runProgram turns last stmts) machine cause) :
    ComesTo turns ⟨0, machine, .block stmts⟩ cause := by
  induction stmts generalizing last machine with
  | nil => exact absurd out (NeverBreaksOff.pure _ _ _)
  | cons stmt rest ih =>
      rcases out.of_bind with out | ⟨flow, after, executed, out⟩
      · exact (Begins.firstStatement machine stmt rest).comesTo outside fun depth =>
          execute_comesTo (bodiesComeTo turns 0) stmt depth out
      · have later (goes_on : flow.goesOn) :=
          Begins.laterStatements machine after stmt rest flow executed goes_on
        cases flow with
        | give result => exact absurd out (NeverBreaksOff.fault _ _ _ _)
        | next | value => exact (later rfl).comesTo outside fun depth => ih depth out

end Execution

/-! ## Ranges of integers -/

/-- Runs a body with a name bound to integers, `step` apart, that are not past `last`, until the
body gives.  Halts after a number of turns. -/
def countWithin (halt : Halt) (name : String) (body : Run Flow) (last step : Int) :
    Nat → Int → Run Flow
  | 0, _ => throw halt
  | turns + 1, term => do
    if inRange last step term then
      define name (.int (.ofInt term))
      match ← body with
      | .give result => return .give result
      | _ => countWithin halt name body last step turns (term + step)
    else
      return .next

/-- A loop over integers comes to its end after all of its terms, however many turns there are. -/
theorem countWithin_eq_countFrom (halt : Halt) (name : String) (body : Run Flow) {step : Int}
    (moves : step ≠ 0) (last : Int) {turns : Nat} {first : Int}
    (enough : termCount first last step < turns) :
    countWithin halt name body last step turns first =
      countFrom name body step (termCount first last step) first := by
  induction turns generalizing first with
  | zero => exact absurd enough (Nat.not_lt_zero _)
  | succ turns ih =>
      have terms := termCount_eq moves first last
      rw [countWithin]
      by_cases inside : inRange last step first
      · rw [if_pos inside] at terms ⊢
        rewrite [terms, countFrom, ih (by omega)]
        rfl
      · rw [if_neg inside] at terms ⊢
        rw [terms, countFrom]

theorem defaultStep_ne_zero (first last : Int) : defaultStep first last ≠ 0 := by
  unfold defaultStep
  split <;> decide

/-- A range of integers runs its body as the loop does that goes on until a term is past the last
one, and no limit on its turns is in the way. -/
theorem countRange_integers (turns : Nat) (name : String) (body : Run Flow) (first last : Integer)
    {step : Option Integer} (moves : ∀ given ∈ step, given.toInt ≠ 0) :
    ∃ enough, ∀ limit ≥ enough, ∀ halt,
      countRange turns name body (.int first) (.int last) (step.map .int) =
        countWithin halt name body last.toInt
          ((step.map Integer.toInt).getD (defaultStep first.toInt last.toInt)) limit
          first.toInt := by
  cases step with
  | none =>
      have moves := defaultStep_ne_zero first.toInt last.toInt
      exact ⟨_, fun _ enough halt => (countRange_eq turns name body _ _ _).trans
        (countWithin_eq_countFrom halt name body moves last.toInt enough).symm⟩
  | some step =>
      have moves := moves step rfl
      exact ⟨_, fun _ enough halt => (countRange_eq turns name body _ _ _).trans
        (countWithin_eq_countFrom halt name body moves last.toInt enough).symm⟩

end Run

/-! ## Sources -/

open Run

/-- Whether a statement is a loop under a condition. -/
def Stmt.isWhile : Stmt → Bool
  | .whileLoop _ _ _ => true
  | _ => false

theorem Stmt.isWhile_number (stmt : Stmt) (next : Nat) :
    (stmt.number next).1.isWhile = stmt.isWhile := by
  cases stmt <;> rfl

/-- The moment when a machine that has loaded a program begins to run it. -/
def Program.beginning (program : Program) (machine : Machine) : Moment where
  calls := 0
  machine := { machine with nextLabel := (program.number machine.nextLabel).2 }
  task := .block (program.number machine.nextLabel).1

/-- The parser accepts the statement, and it is no loop under a condition. -/
def Stmt.IsClosed (stmt : Stmt) : Prop :=
  stmt.IsAccepted ∧ stmt.isWhile = false

theorem requiresDistinctParams_isClosed : RequiresDistinctParams Stmt.IsClosed :=
  fun _ _ _ _ _ closed => closed.1.1

namespace Run

variable {turns : Nat} {source : String} {program : Program}

/-- A source that breaks off comes to an open loop or sort. -/
theorem evalSource_comesTo (parsed : Program.parse source = .ok program) {machine : Machine}
    (outside : machine.depth = 0) {cause : OpenEnd}
    (out : BreaksOff (evalSource turns source) machine cause) :
    (program.beginning machine).ComesTo turns cause := by
  rcases load_on source machine with ⟨found, reparsed, loaded⟩ | ⟨_, failed, _⟩
  · obtain rfl : program = found := Except.ok.inj (parsed.symm.trans reparsed)
    rw [BreaksOff, evalSource, on_bind_of_ok loaded] at out
    exact runProgram_comesTo outside out
  · cases parsed.symm.trans failed

/-- However deep calls are nested, the limit on calls is not what ends them. -/
theorem evalSource_never_exhausts_calls (turns : Nat) (source : String) {machine : Machine}
    (outside : machine.depth = 0) : ¬ BreaksOff (evalSource turns source) machine .calls := by
  intro out
  rcases load_on source machine with ⟨program, parsed, _⟩ | ⟨_, _, refused⟩
  · obtain ⟨_, _, opened⟩ := evalSource_comesTo parsed outside out
    exact opened
  · rw [BreaksOff, evalSource, on_bind_of_error refused] at out
    cases out

/-- A source without a loop under a condition, in the bodies of its functions as well, ends with a
value or an error on a fresh machine, whatever the limit on turns, unless it comes to a range whose
first term, last term or step is a double, or to a sort of more than twenty items whose comparisons
contradict each other.  Ranges of integers do not need the limit: with any integers and any step but
zero, the loop that goes on until a term is past the last one takes some number of turns. -/
theorem closed_runs_end (parsed : Program.parse source = .ok program)
    (closed : EveryStmt (fun stmt => stmt.isWhile = false) program) (turns : Nat) (host : Host) :
    (((evalSource turns source).on (.start host)).1.isOk ∨
      (∃ diagnostic, ((evalSource turns source).on (.start host)).1 = .error (.failed diagnostic)) ∨
      (∃ error, ((evalSource turns source).on (.start host)).1 = .error (.system error)) ∨
      ∃ moment, Relation.ReflTransGen (Next turns) (program.beginning (.start host)) moment ∧
        (moment.CountsInDoubles turns ∨ moment.SortsContradictions turns)) ∧
    ∀ (name : String) (body : Run Flow) (first last : Integer) (step : Option Integer),
      (∀ given ∈ step, given.toInt ≠ 0) →
      ∃ enough, ∀ limit ≥ enough, ∀ halt,
        countRange turns name body (.int first) (.int last) (step.map .int) =
          countWithin halt name body last.toInt
            ((step.map Integer.toInt).getD (defaultStep first.toInt last.toInt)) limit
            first.toInt := by
  refine ⟨?_, fun name body first last step moves =>
    countRange_integers turns name body first last moves⟩
  have stmts_closed : EveryStmt Stmt.IsClosed (program.number 0).1 :=
    everyStmt_number (fun stmt next holds =>
        ⟨stmt.isAccepted_number next holds.1, (stmt.isWhile_number next).trans holds.2⟩)
      program 0 (everyStmt_and program (Program.everyStmt_of_parse parsed) closed)
  cases outcome : ((evalSource turns source).on (.start host)).1 with
  | ok value => exact .inl rfl
  | error halt =>
      match halt with
      | .failed diagnostic => exact .inr (.inl ⟨diagnostic, rfl⟩)
      | .system error => exact .inr (.inr (.inl ⟨error, rfl⟩))
      | .unfinished cause =>
          obtain ⟨moment, reaches, opened⟩ := evalSource_comesTo parsed rfl outcome
          have task_closed := (sound_of_reaches requiresDistinctParams_isClosed reaches
            (Machine.sound_start host) stmts_closed).2
          match cause with
          | .condition =>
              obtain ⟨condition, body, span, task⟩ := opened
              rw [task] at task_closed
              cases task_closed.1.2
          | .floatRange => exact .inr (.inr (.inr ⟨moment, reaches, .inl opened⟩))
          | .sort => exact .inr (.inr (.inr ⟨moment, reaches, .inr opened⟩))
          | .calls => exact opened.elim

/-- A function that calls itself for each term of a range that counts down. -/
theorem recursion_in_descending_range_ends :
    let source := "fn f(n): for i in range(from n to 1 step -2): f(i - 1). ; give n. ; f(3)."
    let host := Host.start .closed .empty false .strict
    ∃ program, Program.parse source = .ok program ∧
      EveryStmt (fun stmt => stmt.isWhile = false) program ∧
      ((evalSource 0 source).on (.start host)).1.isOk ∧
      ∃ enough, ∀ limit ≥ enough, ∀ halt,
        countRange 0 "i" (pure .next) (.int 4) (.int 1) (some (.int (.ofInt (-2)))) =
          countWithin halt "i" (pure .next) 1 (-2) limit 4 := by
  intro source host
  have closed : (Program.parse source).toOption.any
      fun program => EveryStmt (fun stmt => stmt.isWhile = false) program := by decide +kernel
  cases parsed : Program.parse source with
  | error diagnostic =>
      rw [parsed] at closed
      cases closed
  | ok program =>
      rw [parsed] at closed
      have closed : EveryStmt (fun stmt => stmt.isWhile = false) program := of_decide_eq_true closed
      have ends := closed_runs_end parsed closed 0 host
      refine ⟨program, rfl, closed, by decide +kernel, ?_⟩
      refine ends.2 "i" (pure .next) 4 1 (some (.ofInt (-2))) ?_
      rintro _ ⟨⟩
      decide +kernel

end Run

/-! ## A sort that breaks off -/

/-- Whether an expression is a literal. -/
def Expr.isLiteral : Expr → Bool
  | .literal _ _ => true
  | _ => false

/-- Whether a program does nothing but sort a list of literals. -/
def Program.sortsLiterals : Program → Bool
  | [.expression (.call name [.list items _] _) _] =>
    name == Builtin.sorted.name && items.all Expr.isLiteral
  | _ => false

theorem Program.eq_of_sortsLiterals {program : Program} (sorts : program.sortsLiterals) :
    ∃ items list_span call_span span, items.all Expr.isLiteral ∧
      program = [.expression (.call Builtin.sorted.name [.list items list_span] call_span) span] := by
  unfold sortsLiterals at sorts
  split at sorts
  next name items list_span call_span span =>
    obtain ⟨same, literals⟩ := (Bool.and_eq_true _ _).mp sorts
    obtain rfl := eq_of_beq same
    exact ⟨items, list_span, call_span, span, literals, rfl⟩
  next => cases sorts

/-- The statement is an expression. -/
def Stmt.IsExpression (stmt : Stmt) : Prop :=
  ∃ value span, stmt = .expression value span

theorem requiresDistinctParams_isExpression : RequiresDistinctParams Stmt.IsExpression := by
  rintro _ _ _ _ _ ⟨_, _, ⟨⟩⟩

namespace Run

/-- Literals have no functions to run. -/
theorem evaluateAll_literals (run other : BodyRunner) {items : List Expr}
    (literals : items.all Expr.isLiteral) : evaluateAll run items = evaluateAll other items := by
  induction items with
  | nil => rw [evaluateAll, evaluateAll]
  | cons item rest ih =>
      obtain ⟨literal, rest_literals⟩ := (Bool.and_eq_true _ _).mp literals
      cases item with
      | literal value span =>
          rw [evaluateAll, evaluateAll, evaluate, evaluate, ih rest_literals]
      | _ => cases literal

/-- The limit on turns does not matter where nothing is done but to sort literals. -/
theorem evalSource_of_sortsLiterals (parsed : Program.parse source = .ok program)
    (sorts : program.sortsLiterals) (turns limit : Nat) (machine : Machine) :
    (evalSource turns source).on machine = (evalSource limit source).on machine := by
  rcases load_on source machine with ⟨found, reparsed, loaded⟩ | ⟨_, failed, _⟩
  swap
  · cases parsed.symm.trans failed
  obtain rfl : program = found := Except.ok.inj (parsed.symm.trans reparsed)
  obtain ⟨items, list_span, call_span, span, literals, rfl⟩ := program.eq_of_sortsLiterals sorts
  rw [evalSource, evalSource, on_bind_of_ok loaded, on_bind_of_ok loaded]
  have sorted (run : BodyRunner) (args : List Value) :
      Run.call run Builtin.sorted.name args call_span = ofHost call_span (Builtin.sorted.call args) :=
    rfl
  have same := evaluateAll_literals (bodyRunner turns maxCallDepth) (bodyRunner limit maxCallDepth)
    literals
  simp only [Program.number, numberBlock, Stmt.number, runProgram, executeTop, execute, evaluate,
    evaluateAll, sorted, same]

/-- A sort of twenty-one items, one of them a text among numbers, breaks off with a sorter that is
strict. -/
theorem sort_of_mixed_items_breaksOff (turns : Nat) :
    BreaksOff (evalSource turns
        "sorted([2, 2, 2, 2, \"a\", 1, 1, 1, 0, 0, 0, 0, 0, 0, 0, 0, 0, 0, 0, 0, 0]).")
      (.start (.start .closed .empty false .strict)) .sort := by
  generalize text : "sorted([2, 2, 2, 2, \"a\", 1, 1, 1, 0, 0, 0, 0, 0, 0, 0, 0, 0, 0, 0, 0, 0])." =
    source
  have sorts : (Program.parse source).toOption.any Program.sortsLiterals := by
    rw [← text]
    decide +kernel
  have halts : BreaksOff (evalSource 0 source) (.start (.start .closed .empty false .strict))
      .sort := by
    rw [← text]
    exact on_eq_error_of_map (by decide +kernel)
  cases parsed : Program.parse source with
  | error diagnostic =>
      rw [parsed] at sorts
      cases sorts
  | ok program =>
      rw [parsed] at sorts
      rw [BreaksOff, evalSource_of_sortsLiterals parsed sorts turns 0]
      exact halts

/-- Twenty-one items, one of them a text among numbers: a sorter may break off, and then the run ends
with neither a value nor an error, although it comes to no range at all. -/
theorem sort_of_text_among_numbers_breaks_off :
    let source := "sorted([2, 2, 2, 2, \"a\", 1, 1, 1, 0, 0, 0, 0, 0, 0, 0, 0, 0, 0, 0, 0, 0])."
    let host := Host.start .closed .empty false .strict
    ∃ program, Program.parse source = .ok program ∧
      EveryStmt (fun stmt => stmt.isWhile = false) program ∧
      ∀ turns, ¬ (((evalSource turns source).on (.start host)).1.isOk ∨
        (∃ diagnostic, ((evalSource turns source).on (.start host)).1 = .error (.failed diagnostic)) ∨
        (∃ error, ((evalSource turns source).on (.start host)).1 = .error (.system error)) ∨
        ∃ moment, Relation.ReflTransGen (Next turns) (program.beginning (.start host)) moment ∧
          moment.CountsInDoubles turns) := by
  intro source host
  have breaks_off (turns : Nat) :
      ((evalSource turns source).on (.start host)).1 = .error (.unfinished .sort) :=
    sort_of_mixed_items_breaksOff turns
  have sorts : (Program.parse source).toOption.any Program.sortsLiterals := by decide +kernel
  cases parsed : Program.parse source with
  | error diagnostic =>
      rw [parsed] at sorts
      cases sorts
  | ok program =>
      rw [parsed] at sorts
      obtain ⟨items, list_span, call_span, span, literals, rfl⟩ := program.eq_of_sortsLiterals sorts
      refine ⟨_, rfl, ⟨rfl, trivial⟩, fun turns => ?_⟩
      rintro (ok | ⟨_, failed⟩ | ⟨_, failed⟩ | ⟨moment, reaches, counts⟩)
      · rw [breaks_off] at ok
        cases ok
      · cases (breaks_off turns).symm.trans failed
      · cases (breaks_off turns).symm.trans failed
      · have unranged := (sound_of_reaches requiresDistinctParams_isExpression reaches
          (Machine.sound_start host) ⟨⟨_, _, rfl⟩, trivial⟩).2
        cases counts with
        | range =>
            obtain ⟨_, _, ⟨⟩⟩ := unranged.here

end Run
end DotScript
