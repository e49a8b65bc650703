import DotScript.Proofs.Parser.Accepted
import DotScript.Proofs.Run.Moments
import DotScript.Proofs.Value.Sound

/-!
# Runs keep values sound

A machine is sound if every value in every frame is.  A computation preserves soundness if it leaves
a sound machine sound, whether it ends or halts, and gives results with a property.  Evaluation
preserves it for all expressions, execution for all statements that the parser accepts; the bodies
of functions are such statements because they came from the parser as well.
-/

namespace DotScript

variable {property : Stmt → Prop}

/-! ## Function sets -/

namespace FunctionSet

theorem mem_insertOverload {closure other : Closure} {overloads : List Closure}
    (member : other ∈ insertOverload closure overloads) : other = closure ∨ other ∈ overloads := by
  induction overloads with
  | nil => exact .inl (List.mem_singleton.1 member)
  | cons first rest ih =>
      rw [insertOverload] at member
      split at member
      · exact (List.mem_cons.1 member).imp_right (List.mem_cons_of_mem first)
      · rcases List.mem_cons.1 member with rfl | found
        · exact .inr List.mem_cons_self
        · exact (ih found).imp_right (List.mem_cons_of_mem first)

theorem insertOverload_ne_nil (closure : Closure) (overloads : List Closure) :
    insertOverload closure overloads ≠ [] := by
  cases overloads with
  | nil => simp [insertOverload]
  | cons first rest =>
      rw [insertOverload]
      split <;> simp

/-- A function takes the place of the one with as many parameters, so the numbers of parameters stay
apart. -/
theorem insertOverload_pairwise (closure : Closure) {overloads : List Closure}
    (apart : overloads.Pairwise fun earlier later =>
      earlier.declaration.arity ≠ later.declaration.arity) :
    (insertOverload closure overloads).Pairwise fun earlier later =>
      earlier.declaration.arity ≠ later.declaration.arity := by
  induction overloads with
  | nil => exact List.pairwise_singleton _ _
  | cons first rest ih =>
      obtain ⟨first_apart, rest_apart⟩ := List.pairwise_cons.1 apart
      rw [insertOverload]
      split
      · rename_i same
        have same_arity : first.declaration.arity = closure.declaration.arity := by simpa using same
        exact List.pairwise_cons.2 ⟨fun later member => same_arity ▸ first_apart later member,
          rest_apart⟩
      · rename_i other
        refine List.pairwise_cons.2 ⟨fun later member => ?_, ih rest_apart⟩
        rcases mem_insertOverload member with rfl | found
        · simpa using other
        · exact first_apart later found

theorem IsProper.single {closure : Closure} (distinct : closure.declaration.params.Nodup) :
    (single closure).IsProper where
  nonempty := by simp [FunctionSet.single]
  arities := List.pairwise_singleton _ _
  params other member := List.mem_singleton.1 member ▸ distinct

theorem IsProper.insert {functions : FunctionSet} {closure : Closure} (proper : functions.IsProper)
    (distinct : closure.declaration.params.Nodup) : (functions.insert closure).IsProper := by
  rw [FunctionSet.insert]
  split
  · exact proper
  · refine ⟨insertOverload_ne_nil _ _, insertOverload_pairwise _ proper.arities, ?_⟩
    intro other member
    rcases mem_insertOverload member with rfl | found
    · exact distinct
    · exact proper.params other found

theorem mem_insert {functions : FunctionSet} {closure other : Closure}
    (member : other ∈ (functions.insert closure).overloads) :
    other = closure ∨ other ∈ functions.overloads := by
  rw [FunctionSet.insert] at member
  split at member
  · exact .inr member
  · exact mem_insertOverload member

end FunctionSet

/-! ## Frames -/

namespace Bindings

theorem mem_set {name : String} {value : Value} {bindings : Bindings} {binding : String × Value}
    (member : binding ∈ bindings.set name value) : binding = (name, value) ∨ binding ∈ bindings := by
  induction bindings with
  | nil => exact .inl (List.mem_singleton.1 member)
  | cons first rest ih =>
      rw [set] at member
      split at member
      · exact (List.mem_cons.1 member).imp_right (List.mem_cons_of_mem first)
      · rcases List.mem_cons.1 member with rfl | found
        · exact .inr List.mem_cons_self
        · exact (ih found).imp_right (List.mem_cons_of_mem first)

theorem mem_setAll {bindings : Bindings} {pairs : List (String × Value)} {binding : String × Value}
    (member : binding ∈ bindings.setAll pairs) : binding ∈ bindings ∨ binding ∈ pairs := by
  induction pairs generalizing bindings with
  | nil => exact .inl member
  | cons pair rest ih =>
      rcases ih member with found | found
      · rcases mem_set found with rfl | earlier
        · exact .inr List.mem_cons_self
        · exact .inl earlier
      · exact .inr (List.mem_cons_of_mem pair found)

theorem mem_of_get? {name : String} {value : Value} {bindings : Bindings}
    (found : bindings.get? name = some value) : (name, value) ∈ bindings := by
  induction bindings with
  | nil => cases found
  | cons first rest ih =>
      rw [get?] at found
      split at found
      · rename_i same
        cases found
        exact same ▸ List.mem_cons_self
      · exact List.mem_cons_of_mem first (ih found)

end Bindings

namespace Scopes

/-- Every value that is bound in some frame has the property. -/
def EveryValue (scopes : Scopes) (holds : Value → Prop) : Prop :=
  ∀ id, ∀ binding ∈ scopes.bindings id, holds binding.2

variable {holds : Value → Prop} {scopes : Scopes}

theorem EveryValue.define (every : scopes.EveryValue holds) (id : FrameId) (name : String)
    {value : Value} (value_holds : holds value) :
    (scopes.define id name value).EveryValue holds := by
  intro other binding member
  by_cases present : id < scopes.frames.size
  · by_cases same : other = id
    · subst same
      rw [define_bindings scopes present] at member
      rcases Bindings.mem_set member with rfl | found
      · exact value_holds
      · exact every other binding found
    · rw [bindings_eq_of_frame_eq (define_frame_of_ne scopes same name value)] at member
      exact every other binding member
  · have unchanged : scopes.frames[id]? = none := by simpa using present
    have same : (scopes.define id name value).frames[other]? = scopes.frames[other]? := by
      simp only [Scopes.define, updateBindings, Array.getElem?_modify]
      by_cases here : id = other
      · simp [← here, unchanged]
      · simp [here]
    rw [bindings_eq_of_frame_eq same] at member
    exact every other binding member

theorem EveryValue.enter (every : scopes.EveryValue holds) (home : FrameId) {locals : Bindings}
    (locals_hold : ∀ binding ∈ locals, holds binding.2) :
    (scopes.enter home locals).2.EveryValue holds := by
  intro id binding member
  by_cases new : id = scopes.frames.size
  · have here : (scopes.enter home locals).2.bindings id = locals := by
      simp [Scopes.enter, bindings, new]
    rw [here] at member
    exact locals_hold binding member
  · have same : (scopes.enter home locals).2.bindings id = scopes.bindings id := by
      simp [Scopes.enter, bindings, Array.getElem?_push, new]
    rw [same] at member
    exact every id binding member

theorem EveryValue.lookup (every : scopes.EveryValue holds) {id : FrameId} {name : String}
    {value : Value} (found : scopes.lookup id name = some value) : holds value := by
  obtain ⟨frame, -, bound⟩ := List.exists_of_findSome?_eq_some found
  exact every frame _ (Bindings.mem_of_get? bound)

end Scopes

/-- Every value in every frame is sound. -/
def Machine.Sound (property : Stmt → Prop) (machine : Machine) : Prop :=
  machine.scopes.EveryValue (Value.Sound property)

theorem Machine.sound_start (host : Host) : (Machine.start host).Sound property := by
  have empty : Scopes.empty.EveryValue (Value.Sound property) := by
    intro id binding member
    cases id <;> simp [Scopes.empty, Scopes.bindings] at member
  have constant (value : Float) : (Value.float value).Sound property := trivial
  exact (empty.define _ _ (constant _)).define _ _ (constant _)

theorem Machine.Sound.define {machine : Machine} (sound : machine.Sound property) (name : String)
    {value : Value} (value_sound : value.Sound property) :
    (machine.define name value).Sound property :=
  Scopes.EveryValue.define sound machine.current name value_sound

theorem Machine.Sound.enter {machine : Machine} (sound : machine.Sound property)
    (closure : Closure) {args : List Value} (args_sound : ∀ arg ∈ args, arg.Sound property) :
    (machine.enter closure args).Sound property := by
  refine Scopes.EveryValue.enter sound closure.home fun binding member => ?_
  rcases Bindings.mem_setAll member with found | found
  · cases found
  · exact args_sound _ (List.of_mem_zip found).2

/-- What a statement leads to is sound. -/
def Flow.Sound (property : Stmt → Prop) : Flow → Prop
  | .next => True
  | .value result | .give result => result.Sound property

theorem Flow.Sound.callResult {flow : Flow} (sound : flow.Sound property) :
    flow.callResult.Sound property := by
  cases flow with
  | give result => exact sound
  | _ => exact trivial

namespace Run

/-- The computation leaves a sound machine sound, and its result has the property. -/
def Preserves {α : Type} (property : Stmt → Prop) (computation : Run α) (post : α → Prop) : Prop :=
  ∀ machine, machine.Sound property →
    Ensures (computation.on machine).1 post ∧ (computation.on machine).2.Sound property

namespace Preserves

variable {α β : Type} {post : α → Prop} {after : β → Prop}

theorem pure {value : α} (holds : post value) : Preserves property (pure value) post :=
  fun _ sound => ⟨.ok holds, sound⟩

theorem throw (halt : Halt) : Preserves property (throw halt : Run α) post :=
  fun _ sound => ⟨.error halt, sound⟩

theorem fault (span : Span) (cause : Fault) : Preserves property (Run.fault span cause) post :=
  .throw _

theorem get : Preserves property (get : Run Machine) (Machine.Sound property) :=
  fun _ sound => ⟨.ok sound, sound⟩

theorem bind {first : Run α} {next : α → Run β} (preserves : Preserves property first post)
    (later : ∀ value, post value → Preserves property (next value) after) :
    Preserves property (first >>= next) after := by
  intro machine sound
  obtain ⟨answer, kept⟩ := preserves machine sound
  cases result : first.on machine with
  | mk outcome middle =>
      rw [result] at answer kept
      cases outcome with
      | error halt =>
          rw [on_bind_of_error result]
          exact ⟨.error halt, kept⟩
      | ok value =>
          rw [on_bind_of_ok result]
          exact later value (answer value rfl) middle kept

theorem mono {computation : Run α} {weaker : α → Prop}
    (preserves : Preserves property computation post) (implies : ∀ value, post value → weaker value) :
    Preserves property computation weaker := by
  intro machine sound
  obtain ⟨answer, kept⟩ := preserves machine sound
  exact ⟨fun value same => implies value (answer value same), kept⟩

theorem ofExcept (span : Span) {result : Except Fault α} (ensures : Ensures result post) :
    Preserves property (ofExcept span result) post := by
  cases result with
  | ok value => exact .pure (ensures value rfl)
  | error cause => exact .fault span cause

theorem ofHost (span : Span) {operation : HostM α} (gives : operation.Gives post) :
    Preserves property (ofHost span operation) post := by
  intro machine sound
  have answer := gives machine.host
  rw [on_ofHost]
  refine ⟨?_, sound⟩
  cases result : (operation.run.run machine.host).1 with
  | error failure => exact .error _
  | ok value =>
      rw [result] at answer
      exact .ok (answer value rfl)

theorem readName (name : String) (span : Span) :
    Preserves property (readName name span) (Value.Sound property) := by
  refine .bind .get fun machine sound => ?_
  rw [Scopes.get]
  cases found : machine.scopes.lookup machine.current name with
  | none => exact .fault _ _
  | some value => exact .pure (sound.lookup found)

theorem define (name : String) {value : Value} (value_sound : value.Sound property) :
    Preserves property (define name value) fun _ => True :=
  fun _ sound => ⟨.any _, sound.define name value_sound⟩

theorem assign (name : String) {value : Value} (value_sound : value.Sound property) (span : Span) :
    Preserves property (assign name value span) fun _ => True := by
  refine .bind .get fun machine sound => ?_
  split
  · exact .define name value_sound
  · exact .fault _ _

theorem print (text : String) : Preserves property (print text) fun _ => True :=
  fun _ sound => ⟨.any _, sound⟩

end Preserves

/-- The bodies of functions are run without harm to soundness. -/
def RunsSoundly (property : Stmt → Prop) (run : BodyRunner) : Prop :=
  ∀ body, EveryStmt property body → Preserves property (run body) (Flow.Sound property)

section Evaluation

variable {run : BodyRunner} (runs : RunsSoundly property run)

include runs

theorem callClosure_preserves {closure : Closure} {args : List Value} (span : Span)
    (body_holds : EveryBody property closure.declaration.body)
    (sound : ∀ arg ∈ args, arg.Sound property) :
    Preserves property (callClosure run closure args span) (Value.Sound property) := by
  unfold Run.callClosure
  split
  · exact .fault _ _
  rename_i body defined
  rw [defined] at body_holds
  refine .bind .get fun _ _ => ?_
  split
  · exact .fault _ _
  have called : Preserves property (inCall closure args (run body)) (Flow.Sound property) :=
    fun _ machine_sound => runs body body_holds _ (machine_sound.enter closure sound)
  exact .bind called fun flow flow_sound => .pure flow_sound.callResult

theorem callFunction_preserves {functions : FunctionSet} {args : List Value} (span : Span)
    (functions_sound : (Value.function functions).Sound property)
    (sound : ∀ arg ∈ args, arg.Sound property) :
    Preserves property (callFunction run functions args span) (Value.Sound property) := by
  unfold Run.callFunction
  split
  · rename_i closure found
    rw [FunctionSet.resolve] at found
    have body_holds := functions_sound.2 closure (List.mem_of_find?_eq_some found)
    exact callClosure_preserves runs span body_holds sound
  · exact .fault _ _

theorem callNamed_preserves (name : String) {args : List Value} (span : Span)
    (sound : ∀ arg ∈ args, arg.Sound property) :
    Preserves property (callNamed run name args span) (Value.Sound property) := by
  unfold Run.callNamed
  split
  · rename_i builtin _
    exact .ofHost span (builtin.call_gives sound)
  · refine .bind .get fun machine machine_sound => ?_
    split
    · rename_i functions found
      exact callFunction_preserves runs span (machine_sound.lookup found) sound
    · exact .fault _ _
    · exact .fault _ _

theorem applyTo_preserves {function item : Value} (span : Span)
    (function_sound : function.Sound property) (item_sound : item.Sound property) :
    Preserves property (applyTo run function item span) (Value.Sound property) := by
  have args_sound : ∀ arg ∈ [item], arg.Sound property := by simpa using item_sound
  unfold Run.applyTo
  split
  · exact callFunction_preserves runs span function_sound args_sound
  · split
    · exact .fault _ _
    · exact callNamed_preserves runs _ span args_sound
  · exact .fault _ _

theorem applyToAll_preserves {function : Value} (span : Span)
    (function_sound : function.Sound property) {items results : List Value}
    (items_sound : ∀ item ∈ items, item.Sound property)
    (results_sound : ∀ result ∈ results, result.Sound property) :
    Preserves property (applyToAll run function span results items) fun values =>
      ∀ value ∈ values, value.Sound property := by
  induction items generalizing results with
  | nil => exact .pure fun value member => results_sound value (List.mem_reverse.1 member)
  | cons item rest ih =>
      obtain ⟨first, later⟩ := List.forall_mem_cons.1 items_sound
      refine .bind (applyTo_preserves runs span function_sound first) fun result result_sound => ?_
      exact ih later (List.forall_mem_cons.2 ⟨result_sound, results_sound⟩)

theorem call_preserves (name : String) {args : List Value} (span : Span)
    (sound : ∀ arg ∈ args, arg.Sound property) :
    Preserves property (Run.call run name args span) (Value.Sound property) := by
  unfold Run.call Run.mapCall
  split
  · split
    · rename_i function collection
      obtain ⟨function_sound, later⟩ := List.forall_mem_cons.1 sound
      have collection_sound := later collection List.mem_cons_self
      split
      · rename_i items found
        have items_sound := collection_sound.elements found
        refine .bind (applyToAll_preserves runs span function_sound items_sound
          (List.forall_mem_nil _)) fun values values_sound => .pure ?_
        exact (Value.sound_list values).2 values_sound
      · exact .fault _ _
    · exact .fault _ _
  · exact callNamed_preserves runs name span sound

omit runs in
theorem literal_ensures (literal : Literal) : Ensures literal.value (Value.Sound property) := by
  cases literal with
  | int digits =>
      rw [Literal.value]
      split
      · exact .ok trivial
      · exact .error _
  | _ => exact .ok trivial

end Evaluation

variable {run : BodyRunner}

mutual

/-- Evaluation gives sound values and leaves the machine sound. -/
theorem evaluate_preserves (runs : RunsSoundly property run) : ∀ expr : Expr,
    Preserves property (evaluate run expr) (Value.Sound property)
  | .literal value span => by
      rw [evaluate]
      exact .ofExcept span (literal_ensures value)
  | .variable name span => by
      rw [evaluate]
      exact .readName name span
  | .binary op left right span => by
      have left_preserves := evaluate_preserves runs left
      have right_preserves := evaluate_preserves runs right
      by_cases is_and : op = .and
      · subst is_and
        rw [evaluate]
        refine .bind left_preserves fun value _ => ?_
        split
        · exact .bind right_preserves fun _ _ => .pure trivial
        · exact .pure trivial
      by_cases is_or : op = .or
      · subst is_or
        rw [evaluate]
        refine .bind left_preserves fun value _ => ?_
        split
        · exact .pure trivial
        · exact .bind right_preserves fun _ _ => .pure trivial
      rw [evaluate_binary run is_and is_or]
      exact .bind left_preserves fun _ left_sound => .bind right_preserves fun _ right_sound =>
        .ofExcept span (left_sound.binary right_sound op)
  | .unary op operand span => by
      rw [evaluate]
      exact .bind (evaluate_preserves runs operand) fun value _ =>
        .ofExcept span (Value.unary_ensures op value)
  | .call name args span => by
      rw [evaluate]
      exact .bind (evaluateAll_preserves runs args) fun values sound =>
        call_preserves runs name span sound
  | .method receiver name args span => by
      rw [evaluate]
      exact .bind (evaluate_preserves runs receiver) fun value value_sound =>
        .bind (evaluateAll_preserves runs args) fun values sound =>
          .ofHost span (value_sound.invoke name sound)
  | .list items span => by
      rw [evaluate]
      exact .bind (evaluateAll_preserves runs items) fun values sound =>
        .pure ((Value.sound_list values).2 sound)
  | .set items span => by
      rw [evaluate]
      exact .bind (evaluateAll_preserves runs items) fun values sound => .pure (Value.sound_ofSet sound)

theorem evaluateAll_preserves (runs : RunsSoundly property run) : ∀ exprs : List Expr,
    Preserves property (evaluateAll run exprs) fun values => ∀ value ∈ values, value.Sound property
  | [] => by
      rw [evaluateAll]
      exact .pure nofun
  | expr :: rest => by
      rw [evaluateAll]
      exact .bind (evaluate_preserves runs expr) fun value value_sound =>
        .bind (evaluateAll_preserves runs rest) fun values sound =>
          .pure (List.forall_mem_cons.2 ⟨value_sound, sound⟩)

end

/-! ## Execution -/

theorem Preserves.repeatWhile {condition : Run Value} {body : Run Flow}
    (condition_preserves : Preserves property condition fun _ => True)
    (body_preserves : Preserves property body (Flow.Sound property)) (turns : Nat) :
    Preserves property (repeatWhile condition body turns) (Flow.Sound property) := by
  induction turns with
  | zero => exact .throw _
  | succ turns ih =>
      refine .bind condition_preserves fun value _ => ?_
      split
      · refine .bind body_preserves fun flow flow_sound => ?_
        cases flow with
        | give result => exact .pure flow_sound
        | _ => exact ih
      · exact .pure trivial

theorem Preserves.forEach (name : String) {body : Run Flow}
    (body_preserves : Preserves property body (Flow.Sound property)) {items : List Value}
    (sound : ∀ item ∈ items, item.Sound property) :
    Preserves property (forEach name body items) (Flow.Sound property) := by
  induction items with
  | nil => exact .pure trivial
  | cons item rest ih =>
      obtain ⟨first, later⟩ := List.forall_mem_cons.1 sound
      refine .bind (.define name first) fun _ _ => .bind body_preserves fun flow flow_sound => ?_
      cases flow with
      | give result => exact .pure flow_sound
      | _ => exact ih later

theorem Preserves.countFrom (name : String) {body : Run Flow}
    (body_preserves : Preserves property body (Flow.Sound property)) (step : Int) (terms : Nat)
    (term : Int) : Preserves property (countFrom name body step terms term) (Flow.Sound property) := by
  induction terms generalizing term with
  | zero => exact .pure trivial
  | succ terms ih =>
      refine .bind (.define name (Value.sound_int _)) fun _ _ => ?_
      refine .bind body_preserves fun flow flow_sound => ?_
      cases flow with
      | give result => exact .pure flow_sound
      | _ => exact ih _

theorem Preserves.countFloats (name : String) {body : Run Flow}
    (body_preserves : Preserves property body (Flow.Sound property)) (last step : Float)
    (turns : Nat) (term : Float) :
    Preserves property (countFloats name body last step turns term) (Flow.Sound property) := by
  induction turns generalizing term with
  | zero => exact .throw _
  | succ turns ih =>
      unfold Run.countFloats
      split
      · refine .bind (.define name (Value.sound_float _)) fun _ _ => ?_
        refine .bind body_preserves fun flow flow_sound => ?_
        cases flow with
        | give result => exact .pure flow_sound
        | _ => exact ih _
      · exact .pure trivial

theorem Preserves.countRange (turns : Nat) (name : String) {body : Run Flow}
    (body_preserves : Preserves property body (Flow.Sound property)) (first last : Number)
    (step : Option Number) :
    Preserves property (countRange turns name body first last step) (Flow.Sound property) := by
  rw [countRange_eq]
  split
  · exact .countFrom name body_preserves _ _ _
  · exact .countFrom name body_preserves _ _ _
  · exact .countFloats name body_preserves _ _ _ _

section Execution

variable (runs : RunsSoundly property run)

include runs

theorem rangeBound_preserves (bound : Expr) :
    Preserves property (rangeBound run bound) fun _ => True := by
  refine .bind (evaluate_preserves runs bound) fun value _ => ?_
  split
  · exact .pure trivial
  · exact .fault _ _

theorem rangeStep_preserves (step : Option Expr) (span : Span) :
    Preserves property (rangeStep run step span) fun _ => True := by
  unfold Run.rangeStep
  split
  · exact .pure trivial
  · refine .bind (rangeBound_preserves runs _) fun number _ => ?_
    split
    · exact .fault _ _
    · exact .pure trivial

theorem evaluateOptional_preserves (expr : Option Expr) :
    Preserves property (evaluateOptional run expr) (Value.Sound property) := by
  cases expr with
  | none => exact .pure Value.sound_none
  | some expr => exact evaluate_preserves runs expr

theorem declareAll_preserves (bindings : List (String × Option Expr)) :
    Preserves property (declareAll run bindings) fun _ => True := by
  induction bindings with
  | nil => exact .pure trivial
  | cons binding rest ih =>
      exact .bind (evaluateOptional_preserves runs _) fun value value_sound =>
        .bind (.define _ value_sound) fun _ _ => ih

omit runs in
theorem assignValue_preserves (name : String) (op : Option BinaryOp) {value : Value}
    (value_sound : value.Sound property) (span : Span) :
    Preserves property (assignValue name op value span) fun _ => True := by
  unfold Run.assignValue
  split
  · exact .assign name value_sound span
  · exact .bind (.readName name span) fun old old_sound =>
      .bind (.ofExcept span (old_sound.binary value_sound _)) fun result result_sound =>
        .assign name result_sound span

omit runs in
theorem echo_preserves (value : Value) : Preserves property (echo value) fun _ => True := by
  refine .bind .get fun machine _ => ?_
  split
  · exact .print _
  · exact .pure trivial

omit runs in
theorem declareFunction_preserves {declaration : Declaration}
    (distinct : declaration.params.Nodup) (body_holds : EveryBody property declaration.body) :
    Preserves property (declareFunction declaration) fun _ => True := by
  refine .bind .get fun machine sound => .define _ ?_
  have alone (closure : Closure) (same : closure.declaration = declaration) :
      (Value.function (.single closure)).Sound property := by
    refine (Value.sound_function _).2 ⟨.single (same ▸ distinct), fun other member => ?_⟩
    rw [List.mem_singleton.1 member, same]
    exact body_holds
  rw [addOverload.eq_def]
  split
  · rename_i functions found
    have earlier := (Value.sound_function functions).1 (sound.lookup found)
    refine (Value.sound_function _).2 ⟨earlier.1.insert distinct, fun other member => ?_⟩
    rcases FunctionSet.mem_insert member with rfl | old
    · exact body_holds
    · exact earlier.2 other old
  · exact alone _ rfl

end Execution

/-- The property rules out two parameters of one name. -/
def RequiresDistinctParams (property : Stmt → Prop) : Prop :=
  ∀ label name params body span, property (.define label name params body span) → params.Nodup

mutual

/-- Execution leads to sound values and leaves the machine sound. -/
theorem execute_preserves (distinct : RequiresDistinctParams property)
    (runs : RunsSoundly property run) (turns : Nat) : ∀ stmt : Stmt, stmt.Every property →
    Preserves property (execute turns run stmt) (Flow.Sound property)
  | .var bindings _, _ => by
      rw [execute]
      exact .bind (declareAll_preserves runs bindings) fun _ _ => .pure trivial
  | .letBe name value _, _ => by
      rw [execute]
      exact .bind (evaluate_preserves runs value) fun value value_sound =>
        .bind (.define name value_sound) fun _ _ => .pure trivial
  | .assign name op value span, _ => by
      rw [execute]
      exact .bind (evaluate_preserves runs value) fun value value_sound =>
        .bind (assignValue_preserves name op value_sound span) fun _ _ => .pure trivial
  | .choose arms _, holds => by
      rw [execute]
      exact executeArms_preserves distinct runs turns arms holds.2
  | .whileLoop condition body _, holds => by
      rw [execute]
      exact .repeatWhile ((evaluate_preserves runs condition).mono fun _ _ => trivial)
        (executeBlock_preserves distinct runs turns body holds.2) turns
  | .forRange name first last step body span, holds => by
      rw [execute]
      exact .bind (rangeBound_preserves runs first) fun first _ =>
        .bind (rangeBound_preserves runs last) fun last _ =>
          .bind (rangeStep_preserves runs step span) fun step _ =>
            .countRange turns name (executeBlock_preserves distinct runs turns body holds.2) _ _ _
  | .forIn name items body _, holds => by
      rw [execute]
      refine .bind (evaluate_preserves runs items) fun value value_sound => ?_
      split
      · rename_i elements found
        exact .forEach name (executeBlock_preserves distinct runs turns body holds.2)
          (value_sound.elements found)
      · exact .fault _ _
  | .define label name params body span, holds => by
      rw [execute]
      exact .bind (declareFunction_preserves (distinct _ _ _ _ _ holds.1) holds.2) fun _ _ =>
        .pure trivial
  | .expression value _, _ => by
      rw [execute]
      exact .bind (evaluate_preserves runs value) fun value value_sound =>
        .bind (echo_preserves value) fun _ _ => .pure value_sound
  | .give value _, _ => by
      rw [execute]
      exact .bind (evaluateOptional_preserves runs value) fun value value_sound =>
        .pure value_sound
  | .pass _, _ => by
      rw [execute]
      exact .pure trivial

theorem executeBlock_preserves (distinct : RequiresDistinctParams property)
    (runs : RunsSoundly property run) (turns : Nat) : ∀ block : List Stmt,
    EveryStmt property block →
      Preserves property (executeBlock turns run block) (Flow.Sound property)
  | [], _ => by
      rw [executeBlock]
      exact .pure trivial
  | stmt :: rest, holds => by
      rw [executeBlock]
      refine .bind (execute_preserves distinct runs turns stmt holds.1) fun flow flow_sound => ?_
      cases flow with
      | give result => exact .pure flow_sound
      | _ => exact executeBlock_preserves distinct runs turns rest holds.2

theorem executeArms_preserves (distinct : RequiresDistinctParams property)
    (runs : RunsSoundly property run) (turns : Nat) : ∀ arms : Arms, arms.Every property →
    Preserves property (executeArms turns run arms) (Flow.Sound property)
  | .arm condition body others, holds => by
      rw [executeArms]
      refine .bind (evaluate_preserves runs condition) fun value _ => ?_
      split
      · exact executeBlock_preserves distinct runs turns body holds.1
      · exact executeArms_preserves distinct runs turns others holds.2
  | .otherwise body, holds => by
      rw [executeArms]
      exact executeBlock_preserves distinct runs turns body holds
  | .nothing, _ => by
      rw [executeArms]
      exact .pure trivial

end

theorem bodyRunner_runsSoundly (distinct : RequiresDistinctParams property) (turns levels : Nat) :
    RunsSoundly property (bodyRunner turns levels) := by
  induction levels with
  | zero => exact fun _ _ => .throw _
  | succ levels ih => exact fun body holds => executeBlock_preserves distinct ih turns body holds

end Run
end DotScript
