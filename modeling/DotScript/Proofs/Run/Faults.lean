import DotScript.Proofs.Run.Sound
import DotScript.Proofs.Tree.Fitting
import DotScript.Proofs.Value.Faults

/-!
# What runs halt with

A run halts with a fault that comes up while programs run, at a place in the program, or because the
system failed while a stream was read, or because it is left unfinished.  For this the tree
has to fit: its places are as they should be, and the digits of its integers can be read.
`execute_halts` says so of the statements of a program, and of the functions it calls, whose bodies
are in the frames of the machine.
-/

namespace DotScript

/-- Whether input comes from a stream. -/
def Input.isStream : Input → Bool
  | .stream _ => true
  | _ => false

theorem Input.LeadsTo.isStream_eq {before after : Input} (leads : before.LeadsTo after) :
    after.isStream = before.isStream := by
  cases leads <;> rfl

/-- A failure that operations on the world can have; `input` is what they left of the input. -/
def Failure.Arises (input : Input) : Failure → Prop
  | .fault cause => cause.inRun = true
  | .system _ => input.isStream = true
  | .panic => True

/-- A halt that runs can have, with faults at certain places; `input` is what is left of the
input. -/
def Halt.Arises (place : Span → Prop) (input : Input) : Halt → Prop
  | .failed diagnostic => diagnostic.fault.inRun = true ∧ place diagnostic.span
  | .system _ => input.isStream = true
  | .unfinished _ => True

/-! ## The world -/

/-- What keeps items from being sorted comes up while a program runs. -/
theorem Value.sort_arises {sorter : Sorter} {function : String} {items : List Value}
    {failure : Failure} (input : Input)
    (failed : Value.sort sorter function items = .error failure) : failure.Arises input := by
  unfold Value.sort at failed
  split at failed
  next =>
    cases sorted : Value.insertionSort function items with
    | ok found =>
        rw [sorted] at failed
        cases failed
    | error cause =>
        rw [sorted] at failed
        cases failed
        exact (Value.insertionSort_inRun function items).fault cause sorted
  next =>
    unfold Value.arrange at failed
    dsimp only at failed
    split at failed
    · cases failed
    · cases failed
      rfl
    · cases failed
      trivial

namespace HostM

variable {α β : Type}

/-- Every failure of the operation can arise. -/
def FailsInRun (operation : HostM α) : Prop :=
  ∀ host failure after, operation.run.run host = (.error failure, after) →
    failure.Arises after.input

namespace FailsInRun

theorem pure (value : α) : FailsInRun (pure value) := by
  intro host failure after failed
  cases failed

theorem get : FailsInRun (get : HostM Host) := by
  intro host failure after failed
  cases failed

theorem print (text : String) : FailsInRun (print text) := by
  intro host failure after failed
  cases failed

theorem keepDisk (disk : Disk) : FailsInRun (keepDisk disk) := by
  intro host failure after failed
  cases failed

theorem fault {cause : Fault} (arises : cause.inRun = true) :
    FailsInRun (fault cause : HostM α) := by
  intro host failure after failed
  cases failed
  exact arises

theorem ofExcept (result : Except Fault α) [in_run : InRun result] :
    FailsInRun (ofExcept result) := by
  cases result with
  | ok value => exact .pure value
  | error cause => exact .fault (in_run.fault cause rfl)

theorem bind {first : HostM α} {next : α → HostM β} (fails : first.FailsInRun)
    (later : ∀ value, (next value).FailsInRun) : (first >>= next).FailsInRun := by
  intro host failure after failed
  rw [run_bind] at failed
  cases result : first.run.run host with
  | mk outcome middle =>
      rw [result] at failed
      cases outcome with
      | error cause =>
          cases failed
          exact fails host failure after result
      | ok value => exact later value middle failure after failed

/-- Only what a stream holds may be no text. -/
theorem readLine : readLine.FailsInRun := by
  rintro ⟨output, input, disk, echo, sorter⟩ failure after failed
  cases input with
  | closed =>
      cases failed
      rfl
  | lines lines => cases lines <;> cases failed
  | stream bytes =>
      rw [readLine_run_stream] at failed
      cases line : (streamLine bytes).1 with
      | ok found =>
          rw [line] at failed
          cases failed
      | error error =>
          rw [line] at failed
          cases failed
          rfl

theorem sort (function : String) (items : List Value) : (sort function items).FailsInRun := by
  intro host failure after failed
  rw [sort_run] at failed
  obtain ⟨unsorted, rfl⟩ := Prod.mk.inj failed
  exact Value.sort_arises host.input unsorted

end FailsInRun
end HostM

namespace Builtin

open HostM

theorem readInput_fails : readInput.FailsInRun :=
  .bind .readLine fun _ => .pure _

theorem fileText_fails (function : String) (path : Value) :
    (fileText function path).FailsInRun := by
  refine .bind (.ofExcept _) fun path => .bind .get fun host => ?_
  split
  · exact .pure _
  · exact .fault rfl

theorem writeFile_fails (path data : Value) (mode : Option Value) :
    (writeFile path data mode).FailsInRun := by
  refine .bind (.ofExcept _) fun path => .bind (.ofExcept _) fun append => .bind .get fun host => ?_
  split
  · exact .bind (.keepDisk _) fun _ => .pure _
  · exact .fault rfl

theorem sortedItems_fails (collection : Value) (descending : Bool) :
    (sortedItems collection descending).FailsInRun :=
  .bind (.ofExcept _) fun _ => .bind (.sort _ _) fun _ => .pure _

/-- Built-ins are at fault with their arguments and with what they find in the world. -/
theorem call_fails (builtin : Builtin) (args : List Value) : (builtin.call args).FailsInRun := by
  unfold call
  split
  · exact .bind (.print _) fun _ => .pure _
  · exact .bind (.print _) fun _ => .pure _
  · exact readInput_fails
  · exact .bind (.print _) fun _ => readInput_fails
  · exact .bind (fileText_fails _ _) fun _ => .pure _
  · exact .bind (fileText_fails _ _) fun _ => .pure _
  · exact writeFile_fails _ _ _
  · exact writeFile_fails _ _ _
  · exact sortedItems_fails _ _
  · exact sortedItems_fails _ _
  · exact .ofExcept _

end Builtin

/-- Methods are at fault with their receiver and their arguments. -/
theorem Value.invoke_fails (receiver : Value) (name : String) (args : List Value) :
    (receiver.invoke name args).FailsInRun := by
  unfold invoke
  split
  · exact .bind (.sort _ _) fun _ => .pure _
  · exact .ofExcept _

namespace Run

variable {α β : Type} {property : Stmt → Prop} {place : Span → Prop} {numeral : String → Prop}

/-- On a sound machine the computation halts as runs can. -/
def HaltsInRun (property : Stmt → Prop) (place : Span → Prop) (computation : Run α) : Prop :=
  ∀ machine, machine.Sound property → ∀ halt after,
    computation.on machine = (.error halt, after) → halt.Arises place after.host.input

namespace HaltsInRun

theorem pure (value : α) : HaltsInRun property place (pure value : Run α) := by
  intro machine _ halt after halted
  cases halted

theorem get : HaltsInRun property place (get : Run Machine) := by
  intro machine _ halt after halted
  cases halted

theorem modify (change : Machine → Machine) :
    HaltsInRun property place (modify change : Run Unit) := by
  intro machine _ halt after halted
  cases halted

theorem unfinished (cause : OpenEnd) :
    HaltsInRun property place (throw (.unfinished cause) : Run α) := by
  intro machine _ halt after halted
  cases halted
  exact trivial

theorem fault {span : Span} (here : place span) {cause : Fault} (arises : cause.inRun = true) :
    HaltsInRun property place (fault span cause : Run α) := by
  intro machine _ halt after halted
  cases halted
  exact ⟨arises, here⟩

theorem ofExcept {span : Span} (here : place span) (result : Except Fault α)
    [in_run : InRun result] : HaltsInRun property place (ofExcept span result) := by
  cases result with
  | ok value => exact .pure value
  | error cause => exact .fault here (in_run.fault cause rfl)

theorem ofHost {span : Span} (here : place span) {operation : HostM α}
    (fails : operation.FailsInRun) : HaltsInRun property place (ofHost span operation) := by
  intro machine _ halt after halted
  rw [on_ofHost] at halted
  cases result : operation.run.run machine.host with
  | mk outcome host =>
      rw [result] at halted
      cases outcome with
      | ok value => cases halted
      | error failure =>
          have arises := fails machine.host failure host result
          cases halted
          cases failure with
          | fault cause => exact ⟨arises, here⟩
          | system error => exact arises
          | panic => exact trivial

/-- What comes later works on what the first part gives. -/
theorem bind {post : α → Prop} {first : Run α} {next : α → Run β}
    (halts : HaltsInRun property place first) (preserves : Preserves property first post)
    (later : ∀ value, post value → HaltsInRun property place (next value)) :
    HaltsInRun property place (first >>= next) := by
  intro machine sound halt after halted
  obtain ⟨answer, kept⟩ := preserves machine sound
  rcases on_bind_eq_error halted with failed | ⟨value, middle, ended, failed⟩
  · exact halts machine sound halt after failed
  · rw [ended] at answer kept
    exact later value (answer value rfl) middle kept halt after failed

theorem readName (name : String) {span : Span} (here : place span) :
    HaltsInRun property place (readName name span) := by
  refine .bind .get .get fun machine _ => ?_
  split
  · exact .pure _
  · exact .fault here rfl

theorem assign (name : String) (value : Value) {span : Span} (here : place span) :
    HaltsInRun property place (assign name value span) := by
  refine .bind .get .get fun machine _ => ?_
  split
  · exact .modify _
  · exact .fault here rfl

end HaltsInRun

/-! ## Evaluation -/

/-- The bodies of functions halt as runs can. -/
def RunnerHaltsInRun (property : Stmt → Prop) (place : Span → Prop) (run : BodyRunner) : Prop :=
  ∀ body, EveryStmt property body → HaltsInRun property place (run body)

section Evaluation

variable {run : BodyRunner} (runs : RunsSoundly property run)
  (bodies : RunnerHaltsInRun property place run)

include bodies in
theorem callClosure_halts {closure : Closure} {args : List Value} {span : Span} (here : place span)
    (body_holds : EveryBody property closure.declaration.body)
    (sound : ∀ arg ∈ args, arg.Sound property) :
    HaltsInRun property place (callClosure run closure args span) := by
  unfold Run.callClosure
  split
  · exact .fault here rfl
  next body defined =>
    rw [defined] at body_holds
    refine .bind .get .get fun _ _ => ?_
    split
    · exact .fault here rfl
    · intro machine machine_sound halt after halted
      rcases on_bind_eq_error halted with failed | ⟨_, _, _, ended⟩
      · -- the body halted, and leaving the call does not touch the input
        rw [on_inCall] at failed
        obtain ⟨outcome, rfl⟩ := Prod.mk.inj failed
        exact bodies body body_holds _ (machine_sound.enter closure sound) halt
          ((run body).on (machine.enter closure args)).2 (Prod.ext outcome rfl)
      · cases ended

include bodies in
theorem callFunction_halts {functions : FunctionSet} {args : List Value} {span : Span}
    (here : place span) (functions_sound : (Value.function functions).Sound property)
    (sound : ∀ arg ∈ args, arg.Sound property) :
    HaltsInRun property place (callFunction run functions args span) := by
  unfold Run.callFunction
  split
  next closure found =>
    rw [FunctionSet.resolve] at found
    have body_holds := functions_sound.2 closure (List.mem_of_find?_eq_some found)
    exact callClosure_halts bodies here body_holds sound
  next =>
    refine .fault here ?_
    unfold FunctionSet.mismatch
    split <;> rfl

include bodies in
theorem callNamed_halts (name : String) {args : List Value} {span : Span} (here : place span)
    (sound : ∀ arg ∈ args, arg.Sound property) :
    HaltsInRun property place (callNamed run name args span) := by
  unfold Run.callNamed
  split
  next builtin _ => exact .ofHost here (builtin.call_fails args)
  next =>
    refine .bind .get .get fun machine machine_sound => ?_
    split
    next functions found =>
      exact callFunction_halts bodies here (machine_sound.lookup found) sound
    next => exact .fault here rfl
    next => exact .fault here rfl

include bodies in
theorem applyTo_halts {function item : Value} {span : Span} (here : place span)
    (function_sound : function.Sound property) (item_sound : item.Sound property) :
    HaltsInRun property place (applyTo run function item span) := by
  have args_sound : ∀ arg ∈ [item], arg.Sound property := by simpa using item_sound
  unfold Run.applyTo
  split
  · exact callFunction_halts bodies here function_sound args_sound
  · split
    · exact .fault here rfl
    · exact callNamed_halts bodies _ here args_sound
  · exact .fault here rfl

include runs bodies

theorem applyToAll_halts {function : Value} {span : Span} (here : place span)
    (function_sound : function.Sound property) {items : List Value} (results : List Value)
    (items_sound : ∀ item ∈ items, item.Sound property) :
    HaltsInRun property place (applyToAll run function span results items) := by
  induction items generalizing results with
  | nil => exact .pure _
  | cons item rest ih =>
      obtain ⟨first, later⟩ := List.forall_mem_cons.1 items_sound
      exact .bind (applyTo_halts bodies here function_sound first)
        (applyTo_preserves runs span function_sound first) fun result _ => ih _ later

theorem call_halts (name : String) {args : List Value} {span : Span} (here : place span)
    (sound : ∀ arg ∈ args, arg.Sound property) :
    HaltsInRun property place (Run.call run name args span) := by
  unfold Run.call Run.mapCall
  split
  · split
    next function collection =>
      obtain ⟨function_sound, later⟩ := List.forall_mem_cons.1 sound
      have collection_sound := later collection List.mem_cons_self
      split
      next items found =>
        have items_sound := collection_sound.elements found
        exact .bind (applyToAll_halts runs bodies here function_sound [] items_sound)
          (applyToAll_preserves runs span function_sound items_sound (List.forall_mem_nil _))
          fun _ _ => .pure _
      next => exact .fault here rfl
    next => exact .fault here rfl
  · exact callNamed_halts bodies name here sound

end Evaluation

/-- The integers that digits of this form stand for can be read. -/
def Readable (numeral : String → Prop) : Prop :=
  ∀ digits, numeral digits → (Integer.read digits).isOk = true

theorem literal_inRun (readable : Readable numeral) {value : Literal} (fits : value.Fits numeral) :
    InRun value.value := by
  cases value with
  | int digits =>
      have reads := readable digits fits
      rw [Literal.value]
      cases read : Integer.read digits with
      | ok number => infer_instance
      | error failure =>
          rw [read] at reads
          cases reads
  | _ => exact .ok _

variable {run : BodyRunner}

mutual

/-- Evaluation halts as runs can. -/
theorem evaluate_halts (readable : Readable numeral) (runs : RunsSoundly property run)
    (bodies : RunnerHaltsInRun property place run) : ∀ expr : Expr, expr.Fits place numeral →
    HaltsInRun property place (evaluate run expr)
  | .literal value span, fits => by
      rw [evaluate]
      have := literal_inRun readable fits.1
      exact .ofExcept fits.2 value.value
  | .variable name span, fits => by
      rw [evaluate]
      exact .readName name fits
  | .binary op left right span, fits => by
      have left_halts := evaluate_halts readable runs bodies left fits.1
      have right_halts := evaluate_halts readable runs bodies right fits.2.1
      have left_preserves := evaluate_preserves runs left
      have right_preserves := evaluate_preserves runs right
      by_cases is_and : op = .and
      · subst is_and
        rw [evaluate]
        refine .bind left_halts left_preserves fun value _ => ?_
        split
        · exact .bind right_halts right_preserves fun _ _ => .pure _
        · exact .pure _
      by_cases is_or : op = .or
      · subst is_or
        rw [evaluate]
        refine .bind left_halts left_preserves fun value _ => ?_
        split
        · exact .pure _
        · exact .bind right_halts right_preserves fun _ _ => .pure _
      rw [evaluate_binary run is_and is_or]
      exact .bind left_halts left_preserves fun _ _ => .bind right_halts right_preserves fun _ _ =>
        .ofExcept fits.2.2 _
  | .unary op operand span, fits => by
      rw [evaluate]
      exact .bind (evaluate_halts readable runs bodies operand fits.1)
        (evaluate_preserves runs operand) fun value _ => .ofExcept fits.2 _
  | .call name args span, fits => by
      rw [evaluate]
      exact .bind (evaluateAll_halts readable runs bodies args fits.1)
        (evaluateAll_preserves runs args) fun values sound => call_halts runs bodies name fits.2 sound
  | .method receiver name args span, fits => by
      rw [evaluate]
      exact .bind (evaluate_halts readable runs bodies receiver fits.1)
        (evaluate_preserves runs receiver) fun value _ =>
          .bind (evaluateAll_halts readable runs bodies args fits.2.1)
            (evaluateAll_preserves runs args) fun values _ =>
              .ofHost fits.2.2 (value.invoke_fails name values)
  | .list items span, fits => by
      rw [evaluate]
      exact .bind (evaluateAll_halts readable runs bodies items fits.1)
        (evaluateAll_preserves runs items) fun values _ => .pure _
  | .set items span, fits => by
      rw [evaluate]
      exact .bind (evaluateAll_halts readable runs bodies items fits.1)
        (evaluateAll_preserves runs items) fun values _ => .pure _

theorem evaluateAll_halts (readable : Readable numeral) (runs : RunsSoundly property run)
    (bodies : RunnerHaltsInRun property place run) : ∀ exprs : List Expr,
    AllFit place numeral exprs → HaltsInRun property place (evaluateAll run exprs)
  | [], _ => by
      rw [evaluateAll]
      exact .pure _
  | expr :: rest, fits => by
      rw [evaluateAll]
      exact .bind (evaluate_halts readable runs bodies expr fits.1) (evaluate_preserves runs expr)
        fun value _ => .bind (evaluateAll_halts readable runs bodies rest fits.2)
          (evaluateAll_preserves runs rest) fun values _ => .pure _

end

/-! ## Execution -/

theorem HaltsInRun.repeatWhile {condition : Run Value} {body : Run Flow}
    (condition_halts : HaltsInRun property place condition)
    (condition_preserves : Preserves property condition fun _ => True)
    (body_halts : HaltsInRun property place body)
    (body_preserves : Preserves property body (Flow.Sound property)) (turns : Nat) :
    HaltsInRun property place (repeatWhile condition body turns) := by
  induction turns with
  | zero => exact .unfinished _
  | succ turns ih =>
      refine .bind condition_halts condition_preserves fun value _ => ?_
      split
      · refine .bind body_halts body_preserves fun flow _ => ?_
        cases flow with
        | give result => exact .pure _
        | _ => exact ih
      · exact .pure _

section Loops

variable (name : String) {body : Run Flow} (body_halts : HaltsInRun property place body)
  (body_preserves : Preserves property body (Flow.Sound property))

include body_halts body_preserves

theorem HaltsInRun.forEach {items : List Value} (sound : ∀ item ∈ items, item.Sound property) :
    HaltsInRun property place (forEach name body items) := by
  induction items with
  | nil => exact .pure _
  | cons item rest ih =>
      obtain ⟨first, later⟩ := List.forall_mem_cons.1 sound
      refine .bind (.modify _) (.define name first) fun _ _ => ?_
      refine .bind body_halts body_preserves fun flow _ => ?_
      cases flow with
      | give result => exact .pure _
      | _ => exact ih later

theorem HaltsInRun.countFrom (step : Int) (terms : Nat) (term : Int) :
    HaltsInRun property place (countFrom name body step terms term) := by
  induction terms generalizing term with
  | zero => exact .pure _
  | succ terms ih =>
      refine .bind (.modify _) (.define name (Value.sound_int _)) fun _ _ => ?_
      refine .bind body_halts body_preserves fun flow _ => ?_
      cases flow with
      | give result => exact .pure _
      | _ => exact ih _

theorem HaltsInRun.countFloats (last step : Float) (turns : Nat) (term : Float) :
    HaltsInRun property place (countFloats name body last step turns term) := by
  induction turns generalizing term with
  | zero => exact .unfinished _
  | succ turns ih =>
      unfold Run.countFloats
      split
      · refine .bind (.modify _) (.define name (Value.sound_float _)) fun _ _ => ?_
        refine .bind body_halts body_preserves fun flow _ => ?_
        cases flow with
        | give result => exact .pure _
        | _ => exact ih _
      · exact .pure _

theorem HaltsInRun.countRange (turns : Nat) (first last : Number) (step : Option Number) :
    HaltsInRun property place (countRange turns name body first last step) := by
  rw [countRange_eq]
  split
  · exact .countFrom name body_halts body_preserves _ _ _
  · exact .countFrom name body_halts body_preserves _ _ _
  · exact .countFloats name body_halts body_preserves _ _ _ _

end Loops

section Execution

variable (readable : Readable numeral) (runs : RunsSoundly property run)
  (bodies : RunnerHaltsInRun property place run)

include readable runs bodies

theorem rangeBound_halts {bound : Expr} (fits : bound.Fits place numeral) :
    HaltsInRun property place (rangeBound run bound) := by
  refine .bind (evaluate_halts readable runs bodies bound fits) (evaluate_preserves runs bound)
    fun value _ => ?_
  split
  · exact .pure _
  · exact .fault fits.span rfl

theorem rangeStep_halts {step : Option Expr} (fits : OptionFits place numeral step) {span : Span}
    (here : place span) : HaltsInRun property place (rangeStep run step span) := by
  unfold Run.rangeStep
  split
  · exact .pure _
  · refine .bind (rangeBound_halts readable runs bodies (fits _ rfl))
      (rangeBound_preserves runs _) fun number _ => ?_
    split
    · exact .fault here rfl
    · exact .pure _

theorem evaluateOptional_halts {expr : Option Expr} (fits : OptionFits place numeral expr) :
    HaltsInRun property place (evaluateOptional run expr) := by
  cases expr with
  | none => exact .pure _
  | some expr => exact evaluate_halts readable runs bodies expr (fits expr rfl)

theorem declareAll_halts {bindings : List (String × Option Expr)}
    (fit : ∀ binding ∈ bindings, OptionFits place numeral binding.2) :
    HaltsInRun property place (declareAll run bindings) := by
  induction bindings with
  | nil => exact .pure _
  | cons binding rest ih =>
      obtain ⟨first, later⟩ := List.forall_mem_cons.1 fit
      exact .bind (evaluateOptional_halts readable runs bodies first)
        (evaluateOptional_preserves runs _) fun value value_sound =>
          .bind (.modify _) (.define _ value_sound) fun _ _ => ih later

omit readable runs bodies in
theorem assignValue_halts (name : String) (op : Option BinaryOp) {value : Value}
    (value_sound : value.Sound property) {span : Span} (here : place span) :
    HaltsInRun property place (assignValue name op value span) := by
  unfold Run.assignValue
  split
  · exact .assign name value here
  · exact .bind (.readName name here) (.readName name span) fun old old_sound =>
      .bind (.ofExcept here _) (.ofExcept span (old_sound.binary value_sound _)) fun result _ =>
        .assign name result here

omit readable runs bodies in
theorem echo_halts (value : Value) : HaltsInRun property place (echo value) := by
  refine .bind .get .get fun machine _ => ?_
  split
  · exact .modify _
  · exact .pure _

end Execution

mutual

/-- Execution halts as runs can. -/
theorem execute_halts (distinct : RequiresDistinctParams property)
    (fitting : ∀ stmt, property stmt → stmt.Fits place numeral) (readable : Readable numeral)
    (runs : RunsSoundly property run) (bodies : RunnerHaltsInRun property place run) (turns : Nat) :
    ∀ stmt : Stmt, stmt.Every property → HaltsInRun property place (execute turns run stmt)
  | .var bindings span, holds => by
      rw [execute]
      exact .bind (declareAll_halts readable runs bodies (fitting _ holds).1)
        (declareAll_preserves runs bindings) fun _ _ => .pure _
  | .letBe name value span, holds => by
      rw [execute]
      exact .bind (evaluate_halts readable runs bodies value (fitting _ holds).1)
        (evaluate_preserves runs value) fun value value_sound =>
          .bind (.modify _) (.define name value_sound) fun _ _ => .pure _
  | .assign name op value span, holds => by
      rw [execute]
      exact .bind (evaluate_halts readable runs bodies value (fitting _ holds).1)
        (evaluate_preserves runs value) fun value value_sound =>
          .bind (assignValue_halts name op value_sound (fitting _ holds).2)
            (assignValue_preserves name op value_sound span) fun _ _ => .pure _
  | .choose arms span, holds => by
      rw [execute]
      exact executeArms_halts distinct fitting readable runs bodies turns arms
        (fitting _ holds.1).1 holds.2
  | .whileLoop condition body span, holds => by
      rw [execute]
      exact .repeatWhile (evaluate_halts readable runs bodies condition (fitting _ holds.1).1)
        ((evaluate_preserves runs condition).mono fun _ _ => trivial)
        (executeBlock_halts distinct fitting readable runs bodies turns body holds.2)
        (executeBlock_preserves distinct runs turns body holds.2) turns
  | .forRange name first last step body span, holds => by
      obtain ⟨first_fits, last_fits, step_fits, here⟩ := fitting _ holds.1
      rw [execute]
      exact .bind (rangeBound_halts readable runs bodies first_fits)
        (rangeBound_preserves runs first) fun first _ =>
          .bind (rangeBound_halts readable runs bodies last_fits)
            (rangeBound_preserves runs last) fun last _ =>
              .bind (rangeStep_halts readable runs bodies step_fits here)
                (rangeStep_preserves runs step span) fun step _ =>
                  .countRange name
                    (executeBlock_halts distinct fitting readable runs bodies turns body holds.2)
                    (executeBlock_preserves distinct runs turns body holds.2) _ _ _ _
  | .forIn name items body span, holds => by
      have items_fits := (fitting _ holds.1).1
      rw [execute]
      refine .bind (evaluate_halts readable runs bodies items items_fits)
        (evaluate_preserves runs items) fun value value_sound => ?_
      split
      next elements found =>
        exact .forEach name
          (executeBlock_halts distinct fitting readable runs bodies turns body holds.2)
          (executeBlock_preserves distinct runs turns body holds.2) (value_sound.elements found)
      next => exact .fault items_fits.span rfl
  | .define label name params body span, holds => by
      rw [execute]
      exact .bind (.bind .get .get fun _ _ => .modify _)
        (declareFunction_preserves (distinct _ _ _ _ _ holds.1) holds.2) fun _ _ => .pure _
  | .expression value span, holds => by
      rw [execute]
      exact .bind (evaluate_halts readable runs bodies value (fitting _ holds).1)
        (evaluate_preserves runs value) fun value _ =>
          .bind (echo_halts value) (echo_preserves value) fun _ _ => .pure _
  | .give value span, holds => by
      rw [execute]
      exact .bind (evaluateOptional_halts readable runs bodies (fitting _ holds).1)
        (evaluateOptional_preserves runs value) fun value _ => .pure _
  | .pass span, _ => by
      rw [execute]
      exact .pure _

theorem executeBlock_halts (distinct : RequiresDistinctParams property)
    (fitting : ∀ stmt, property stmt → stmt.Fits place numeral) (readable : Readable numeral)
    (runs : RunsSoundly property run) (bodies : RunnerHaltsInRun property place run) (turns : Nat) :
    ∀ block : List Stmt, EveryStmt property block →
      HaltsInRun property place (executeBlock turns run block)
  | [], _ => by
      rw [executeBlock]
      exact .pure _
  | stmt :: rest, holds => by
      rw [executeBlock]
      refine .bind (execute_halts distinct fitting readable runs bodies turns stmt holds.1)
        (execute_preserves distinct runs turns stmt holds.1) fun flow _ => ?_
      cases flow with
      | give result => exact .pure _
      | _ => exact executeBlock_halts distinct fitting readable runs bodies turns rest holds.2

theorem executeArms_halts (distinct : RequiresDistinctParams property)
    (fitting : ∀ stmt, property stmt → stmt.Fits place numeral) (readable : Readable numeral)
    (runs : RunsSoundly property run) (bodies : RunnerHaltsInRun property place run) (turns : Nat) :
    ∀ arms : Arms, arms.Fits place numeral → arms.Every property →
      HaltsInRun property place (executeArms turns run arms)
  | .arm condition body others, fits, holds => by
      rw [executeArms]
      refine .bind (evaluate_halts readable runs bodies condition fits.1)
        (evaluate_preserves runs condition) fun value _ => ?_
      split
      · exact executeBlock_halts distinct fitting readable runs bodies turns body holds.1
      · exact executeArms_halts distinct fitting readable runs bodies turns others fits.2 holds.2
  | .otherwise body, _, holds => by
      rw [executeArms]
      exact executeBlock_halts distinct fitting readable runs bodies turns body holds
  | .nothing, _, _ => by
      rw [executeArms]
      exact .pure _

end

theorem bodyRunner_halts (distinct : RequiresDistinctParams property)
    (fitting : ∀ stmt, property stmt → stmt.Fits place numeral) (readable : Readable numeral)
    (turns levels : Nat) : RunnerHaltsInRun property place (bodyRunner turns levels) := by
  induction levels with
  | zero => exact fun _ _ => .unfinished _
  | succ levels ih =>
      intro body holds
      exact executeBlock_halts distinct fitting readable
        (bodyRunner_runsSoundly distinct turns levels) ih turns body holds

/-- A statement outside of all others halts as runs can. -/
theorem executeTop_halts (distinct : RequiresDistinctParams property)
    (fitting : ∀ stmt, property stmt → stmt.Fits place numeral) (readable : Readable numeral)
    (turns : Nat) {stmt : Stmt} (holds : stmt.Every property) :
    HaltsInRun property place (executeTop turns stmt) :=
  execute_halts distinct fitting readable (bodyRunner_runsSoundly distinct turns maxCallDepth)
    (bodyRunner_halts distinct fitting readable turns maxCallDepth) turns stmt holds

/-- Statements one after the other halt as runs can; the place of one that gives is its own. -/
theorem runProgram_halts (distinct : RequiresDistinctParams property)
    (fitting : ∀ stmt, property stmt → stmt.Fits place numeral) (readable : Readable numeral)
    (turns : Nat) {last : Value} {stmts : List Stmt} (holds : EveryStmt property stmts) :
    HaltsInRun property place (runProgram turns last stmts) := by
  induction stmts generalizing last with
  | nil => exact .pure _
  | cons stmt rest ih =>
      have runs := bodyRunner_runsSoundly distinct turns maxCallDepth
      refine .bind (executeTop_halts distinct fitting readable turns holds.1)
        (execute_preserves distinct runs turns stmt holds.1) fun flow _ => ?_
      cases flow with
      | next => exact ih holds.2
      | value result => exact ih holds.2
      | give result => exact .fault (fitting stmt holds.1.here).span rfl

end Run
end DotScript
