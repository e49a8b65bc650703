import DotScript.Proofs.Run.Frames
import DotScript.Proofs.Tree.Spans
import DotScript.Proofs.Value.Functions

/-!
# Runs up to spans

Spans are looked at by no computation, they are only handed on to diagnostics.  Nor does a
computation look at what was printed before or at the labels that are still free.  So if the spans
of a program and of the functions on a machine are forgotten, and the machine has printed something
else before, the program leads to the same outcome up to these differences: it mirrors the run on
the machine as it was.
-/

namespace DotScript

/-! ## Machines without spans -/

/-- The declaration without the spans of its body. -/
def Declaration.forgetSpans (declaration : Declaration) : Declaration :=
  { declaration with body := Stmt.mapBody Span.forget declaration.body }

/-- The function without the spans of its body. -/
def Closure.forgetSpans (closure : Closure) : Closure :=
  { closure with declaration := closure.declaration.forgetSpans }

/-- The functions without the spans of their bodies. -/
def FunctionSet.forgetSpans (functions : FunctionSet) : FunctionSet :=
  { functions with overloads := functions.overloads.map Closure.forgetSpans }

instance : FunctionSet.Faithful FunctionSet.forgetSpans where
  name _ := rfl
  labels functions := by
    rw [FunctionSet.forgetSpans, List.map_map]
    rfl

/-- The value without the spans of its functions. -/
abbrev Value.forgetSpans : Value → Value :=
  Value.mapFunctions FunctionSet.forgetSpans

/-- The bindings without the spans of their functions. -/
def Bindings.forgetSpans (bindings : Bindings) : Bindings :=
  bindings.map fun (name, value) => (name, value.forgetSpans)

/-- The frame without the spans of its functions. -/
def Frame.forgetSpans (frame : Frame) : Frame :=
  { frame with bindings := frame.bindings.forgetSpans }

/-- All frames without the spans of their functions. -/
def Scopes.forgetSpans (scopes : Scopes) : Scopes where
  frames := scopes.frames.map Frame.forgetSpans
  linked := by
    intro id frame found
    rw [Array.getElem?_map] at found
    obtain ⟨before, there, rfl⟩ := Option.map_eq_some_iff.1 found
    exact scopes.linked id before there

/-- What a statement leads to, without the spans of functions. -/
def Flow.forgetSpans : Flow → Flow
  | .next => .next
  | .value result => .value result.forgetSpans
  | .give result => .give result.forgetSpans

/-- Why a run did not come to its end, without the place. -/
def Halt.forgetSpans : Halt → Halt
  | .failed diagnostic => .failed { diagnostic with span := diagnostic.span.forget }
  | .system error => .system error
  | .unfinished cause => .unfinished cause

/-- A world in which something was printed before. -/
def Host.after (before : String) (host : Host) : Host :=
  { host with output := before ++ host.output }

/-- The machine without the spans of its functions, on which something was printed before and from
which some label on is free. -/
def Machine.veil (before : String) (label : Nat) (machine : Machine) : Machine where
  scopes := machine.scopes.forgetSpans
  current := machine.current
  depth := machine.depth
  nextLabel := label
  host := machine.host.after before

namespace Bindings

theorem get?_forgetSpans (name : String) (bindings : Bindings) :
    bindings.forgetSpans.get? name = (bindings.get? name).map Value.forgetSpans := by
  induction bindings with
  | nil => rfl
  | cons binding rest ih =>
      simp only [forgetSpans, List.map_cons, get?] at ih ⊢
      split
      · rfl
      · exact ih

theorem set_forgetSpans (name : String) (value : Value) (bindings : Bindings) :
    bindings.forgetSpans.set name value.forgetSpans = (bindings.set name value).forgetSpans := by
  induction bindings with
  | nil => rfl
  | cons binding rest ih =>
      simp only [forgetSpans, List.map_cons, set] at ih ⊢
      split
      · rfl
      · rw [ih]
        rfl

theorem ofList_forgetSpans (names : List String) (values : List Value) :
    ofList (names.zip (values.map Value.forgetSpans)) = (ofList (names.zip values)).forgetSpans := by
  have step (bindings : Bindings) : (names.zip (values.map Value.forgetSpans)).foldl
      (fun bindings (name, value) => set name value bindings) bindings.forgetSpans =
      ((names.zip values).foldl (fun bindings (name, value) => set name value bindings)
        bindings).forgetSpans := by
    induction names generalizing values bindings with
    | nil => rfl
    | cons name names ih =>
        cases values with
        | nil => rfl
        | cons value values =>
            simp only [List.map_cons, List.zip_cons_cons, List.foldl_cons]
            rw [set_forgetSpans, ih]
  exact step []

end Bindings

namespace Scopes

variable (scopes : Scopes) (id : FrameId) (name : String)

theorem getElem?_forgetSpans :
    scopes.forgetSpans.frames[id]? = scopes.frames[id]?.map Frame.forgetSpans :=
  Array.getElem?_map

@[simp] theorem bindings_forgetSpans :
    scopes.forgetSpans.bindings id = (scopes.bindings id).forgetSpans := by
  rw [bindings, bindings, getElem?_forgetSpans]
  cases scopes.frames[id]? <;> rfl

@[simp] theorem outer_forgetSpans : scopes.forgetSpans.outer id = scopes.outer id := by
  rw [outer, outer, getElem?_forgetSpans]
  cases scopes.frames[id]? <;> rfl

@[simp] theorem chain_forgetSpans : scopes.forgetSpans.chain id = scopes.chain id := by
  rw [chain, chain, getElem?_forgetSpans]
  cases scopes.frames[id]? <;> rfl

@[simp] theorem lookup_forgetSpans :
    scopes.forgetSpans.lookup id name = (scopes.lookup id name).map Value.forgetSpans := by
  rw [lookup, lookup, chain_forgetSpans]
  induction scopes.chain id with
  | nil => rfl
  | cons frame rest ih =>
      rw [List.findSome?_cons, List.findSome?_cons, bindings_forgetSpans,
        Bindings.get?_forgetSpans, ih]
      cases (scopes.bindings frame).get? name <;> rfl

theorem get_forgetSpans :
    scopes.forgetSpans.get id name = (scopes.get id name).map Value.forgetSpans := by
  rw [get, get, lookup_forgetSpans]
  cases scopes.lookup id name <;> rfl

theorem assignFault?_forgetSpans :
    scopes.forgetSpans.assignFault? id name = scopes.assignFault? id name := by
  simp only [assignFault?, bindings_forgetSpans, Bindings.get?_forgetSpans, Option.isSome_map,
    outer_forgetSpans, lookup_forgetSpans]

theorem define_forgetSpans (value : Value) :
    scopes.forgetSpans.define id name value.forgetSpans =
      (scopes.define id name value).forgetSpans := by
  simp only [define, updateBindings, forgetSpans, Scopes.mk.injEq]
  apply Array.ext_getElem?
  intro place
  simp only [Array.getElem?_modify, Array.getElem?_map]
  split
  · cases scopes.frames[place]? with
    | none => rfl
    | some frame =>
        simp only [Option.map_some, Frame.forgetSpans, Bindings.set_forgetSpans]
  · rfl

theorem enter_forgetSpans (bindings : Bindings) :
    scopes.forgetSpans.enter id bindings.forgetSpans =
      ((scopes.enter id bindings).1, (scopes.enter id bindings).2.forgetSpans) := by
  simp only [enter, chain_forgetSpans]
  simp only [forgetSpans, Array.size_map, Array.map_push]
  rfl

end Scopes

namespace FunctionSet

@[simp] theorem arity_forgetSpans (closure : Closure) :
    closure.forgetSpans.declaration.arity = closure.declaration.arity := rfl

theorem resolve_forgetSpans (functions : FunctionSet) (arity : Nat) :
    functions.forgetSpans.resolve arity = (functions.resolve arity).map Closure.forgetSpans := by
  rw [resolve, resolve, forgetSpans, List.find?_map]
  rfl

theorem insertOverload_forgetSpans (closure : Closure) (overloads : List Closure) :
    insertOverload closure.forgetSpans (overloads.map Closure.forgetSpans) =
      (insertOverload closure overloads).map Closure.forgetSpans := by
  induction overloads with
  | nil => rfl
  | cons other rest ih =>
      simp only [List.map_cons, insertOverload, arity_forgetSpans, ih]
      split <;> rfl

theorem insert_forgetSpans (functions : FunctionSet) (closure : Closure) :
    functions.forgetSpans.insert closure.forgetSpans = (functions.insert closure).forgetSpans := by
  have forward : closure.forgetSpans.declaration.body.isNone = closure.declaration.body.isNone := by
    rw [Closure.forgetSpans, Declaration.forgetSpans, Stmt.mapBody_eq_map, Option.isNone_map]
  simp only [insert, forward, arity_forgetSpans, resolve_forgetSpans, Option.isSome_map]
  split
  · rfl
  · simp only [forgetSpans, insertOverload_forgetSpans]

theorem mismatch_forgetSpans (functions : FunctionSet) (received : Nat) :
    functions.forgetSpans.mismatch received = functions.mismatch received := by
  obtain ⟨name, overloads⟩ := functions
  match overloads with
  | [] | [_] => rfl
  | first :: second :: rest =>
      simp [mismatch, forgetSpans, Function.comp_def]

end FunctionSet

/-! ## The world -/

namespace HostM

variable {α β γ δ : Type}

/-- The operation comes to the same outcome in a world in which something was printed before, with
the result changed. -/
def Mirrors (change : α → β) (operation : HostM α) (operation' : HostM β) : Prop :=
  ∀ before host, operation'.run.run (host.after before) =
    ((operation.run.run host).1.map change, (operation.run.run host).2.after before)

namespace Mirrors

theorem pure {change : α → β} {value : α} {value' : β} (same : change value = value') :
    Mirrors change (pure value) (pure value') := by
  intro before host
  rw [← same]
  rfl

theorem fault {change : α → β} (cause : Fault) :
    Mirrors change (HostM.fault cause) (HostM.fault cause) :=
  fun _ _ => rfl

theorem ofExcept {change : α → β} {result : Except Fault α} {result' : Except Fault β}
    (same : result' = result.map change) :
    Mirrors change (HostM.ofExcept result) (HostM.ofExcept result') := by
  rw [same]
  cases result with
  | ok value => exact .pure rfl
  | error cause => exact .fault cause

theorem bind {change : α → β} {change' : γ → δ} {first : HostM α} {first' : HostM β}
    {next : α → HostM γ} {next' : β → HostM δ} (mirrors : Mirrors change first first')
    (later : ∀ value, Mirrors change' (next value) (next' (change value))) :
    Mirrors change' (first >>= next) (first' >>= next') := by
  intro before host
  rw [run_bind, run_bind, mirrors before host]
  cases first.run.run host with
  | mk outcome after =>
      cases outcome with
      | error failure => rfl
      | ok value => exact later value before after

theorem print (text : String) : Mirrors id (HostM.print text) (HostM.print text) := by
  intro before host
  have same : before ++ host.output ++ text = before ++ (host.output ++ text) :=
    String.append_assoc
  exact congrArg (fun output => (Except.ok (), { host with output })) same

theorem get_bind {change : α → β} {next : Host → HostM α} {next' : Host → HostM β}
    (mirrors : ∀ before host, Mirrors change (next host) (next' (host.after before))) :
    Mirrors change (get >>= next) (get >>= next') :=
  fun before host => mirrors before host before host

theorem keepDisk (disk : Disk) : Mirrors id (HostM.keepDisk disk) (HostM.keepDisk disk) :=
  fun _ _ => rfl

theorem sort (function : String) (items : List Value) :
    Mirrors (List.map Value.forgetSpans) (HostM.sort function items)
      (HostM.sort function (items.map Value.forgetSpans)) := by
  intro before host
  rw [sort_run, sort_run]
  exact congrArg (·, host.after before)
    (Value.sort_map FunctionSet.forgetSpans host.sorter function items)

theorem readLine : Mirrors id HostM.readLine HostM.readLine := by
  intro before host
  obtain ⟨output, input, disk, echo, sorter⟩ := host
  cases input with
  | closed => rfl
  | lines lines => cases lines <;> rfl
  | stream bytes =>
      rw [readLine_run_stream, Host.after, readLine_run_stream]
      cases (streamLine bytes).1 <;> rfl

end Mirrors
end HostM

namespace Builtin

open HostM

theorem printLine_mirrors (values : List Value) :
    Mirrors Value.forgetSpans (printLine values) (printLine (values.map Value.forgetSpans)) := by
  have texts : (values.map Value.forgetSpans).map Value.display = values.map Value.display := by
    simp [Function.comp_def]
  rw [printLine, printLine, texts]
  exact .bind (.print _) fun _ => .pure rfl

theorem printRepr_mirrors (value : Value) :
    Mirrors Value.forgetSpans (printRepr value) (printRepr value.forgetSpans) := by
  rw [printRepr, printRepr, Value.repr_mapFunctions]
  exact .bind (.print _) fun _ => .pure rfl

theorem readInput_mirrors : Mirrors Value.forgetSpans readInput readInput :=
  .bind .readLine fun _ => .pure rfl

theorem ask_mirrors (question : Value) :
    Mirrors Value.forgetSpans (ask question) (ask question.forgetSpans) := by
  rw [ask, ask, Value.display_mapFunctions]
  exact .bind (.print _) fun _ => readInput_mirrors

theorem fileText_mirrors (function : String) (path : Value) :
    Mirrors id (fileText function path) (fileText function path.forgetSpans) := by
  rw [fileText, fileText, Value.expectString_mapFunctions]
  refine .bind (.ofExcept (congrFun Except.map_id _).symm) fun path => ?_
  refine .get_bind fun before host => ?_
  have same : (host.after before).disk.readText (id path) = host.disk.readText path := rfl
  rw [same]
  cases host.disk.readText path with
  | ok text => exact .pure rfl
  | error error => exact .fault _

theorem writeFile_mirrors (path data : Value) (mode : Option Value) :
    Mirrors Value.forgetSpans (writeFile path data mode)
      (writeFile path.forgetSpans data.forgetSpans (mode.map Value.forgetSpans)) := by
  have modes : appends (mode.map Value.forgetSpans) = appends mode := by
    cases mode with
    | none => rfl
    | some mode => simp only [Option.map_some, appends, Value.expectString_mapFunctions]
  rw [writeFile, writeFile, Value.expectString_mapFunctions, Value.display_mapFunctions, modes]
  refine .bind (.ofExcept (congrFun Except.map_id _).symm) fun path => ?_
  refine .bind (.ofExcept (congrFun Except.map_id _).symm) fun append => ?_
  refine .get_bind fun before host => ?_
  have same : (host.after before).disk.write (id path) data.display (id append) =
      host.disk.write path data.display append := rfl
  rw [same]
  cases host.disk.write path data.display append with
  | ok disk => exact .bind (.keepDisk disk) fun _ => .pure rfl
  | error error => exact .fault _

theorem sortedItems_mirrors (collection : Value) (descending : Bool) :
    Mirrors Value.forgetSpans (sortedItems collection descending)
      (sortedItems collection.forgetSpans descending) := by
  rw [sortedItems, sortedItems]
  refine .bind (.ofExcept (Value.expectItems_mapFunctions _ _ _)) fun items => ?_
  refine .bind (.sort "sorted" items) fun ascending => .pure ?_
  cases descending <;> simp [Value.forgetSpans]

/-- Built-ins do not look at spans or at what was printed before. -/
theorem call_mirrors (builtin : Builtin) (args : List Value) :
    Mirrors Value.forgetSpans (builtin.call args) (builtin.call (args.map Value.forgetSpans)) := by
  have computed : Mirrors Value.forgetSpans (HostM.ofExcept (builtin.compute args))
      (HostM.ofExcept (builtin.compute (args.map Value.forgetSpans))) :=
    .ofExcept (compute_map FunctionSet.forgetSpans builtin args)
  cases builtin with
  | print => exact printLine_mirrors args
  | pprint =>
      match args with
      | [] => exact computed
      | [value] => exact printRepr_mirrors value
      | _ :: _ :: _ => exact computed
  | input =>
      match args with
      | [] => exact readInput_mirrors
      | [question] => exact ask_mirrors question
      | _ :: _ :: _ => exact computed
  | read =>
      match args with
      | [] => exact computed
      | [path] => exact .bind (fileText_mirrors "read" path) fun _ => .pure rfl
      | _ :: _ :: _ => exact computed
  | readLine =>
      match args with
      | [] => exact computed
      | [path] =>
          refine .bind (fileText_mirrors "readLine" path) fun text => .pure ?_
          simp [Function.comp_def]
      | _ :: _ :: _ => exact computed
  | write =>
      match args with
      | [] | [_] => exact computed
      | [path, data] => exact writeFile_mirrors path data none
      | [path, data, mode] => exact writeFile_mirrors path data (some mode)
      | _ :: _ :: _ :: _ :: _ => exact computed
  | sorted =>
      match args with
      | [] => exact computed
      | [items] => exact sortedItems_mirrors items false
      | [items, descending] =>
          have same : descending.forgetSpans.truthy = descending.truthy :=
            Value.truthy_mapFunctions _ _
          change Mirrors _ (sortedItems items descending.truthy)
            (sortedItems items.forgetSpans descending.forgetSpans.truthy)
          rw [same]
          exact sortedItems_mirrors items descending.truthy
      | _ :: _ :: _ :: _ => exact computed
  | _ => exact computed

end Builtin

/-- Methods do not look at spans either. -/
theorem Value.invoke_mirrors (receiver : Value) (name : String) (args : List Value) :
    HostM.Mirrors forgetSpans (receiver.invoke name args)
      (receiver.forgetSpans.invoke name (args.map forgetSpans)) := by
  have same : receiver.forgetSpans.toSort? name (args.map forgetSpans) =
      (receiver.toSort? name args).map (List.map forgetSpans) :=
    toSort?_mapFunctions FunctionSet.forgetSpans receiver name args
  rw [invoke, invoke, same]
  cases receiver.toSort? name args with
  | some items =>
      refine .bind (.sort _ items) fun ascending => .pure ?_
      exact mapFunctions_list FunctionSet.forgetSpans ascending
  | none => exact .ofExcept (callMethod_mapFunctions FunctionSet.forgetSpans receiver name args)

/-! ## Computations -/

namespace Run

variable {α β γ δ : Type}

/-- The outcome of a computation without places, with the result changed. -/
def veilOutcome (change : α → β) : Except Halt α → Except Halt β
  | .ok value => .ok (change value)
  | .error halt => .error halt.forgetSpans

/-- The second computation does on a machine without spans what the first one does on the machine
with its spans. -/
def Mirrors (change : α → β) (computation : Run α) (computation' : Run β) : Prop :=
  ∀ before label machine, computation'.on (machine.veil before label) =
    (veilOutcome change (computation.on machine).1, (computation.on machine).2.veil before label)

namespace Mirrors

variable {change : α → β} {change' : γ → δ}

theorem pure {value : α} {value' : β} (same : change value = value') :
    Mirrors change (pure value) (pure value') := by
  intro before label machine
  rw [← same]
  rfl

theorem throw {halt halt' : Halt} (same : halt.forgetSpans = halt') :
    Mirrors change (throw halt) (throw halt') := by
  intro before label machine
  rw [← same]
  rfl

theorem fault (span : Span) (cause : Fault) :
    Mirrors change (fault span cause) (fault span.forget cause) :=
  .throw rfl

theorem bind {first : Run α} {first' : Run β} {next : α → Run γ} {next' : β → Run δ}
    (mirrors : Mirrors change first first')
    (later : ∀ value, Mirrors change' (next value) (next' (change value))) :
    Mirrors change' (first >>= next) (first' >>= next') := by
  intro before label machine
  rw [on_bind, on_bind, mirrors before label machine]
  cases first.on machine with
  | mk outcome after =>
      cases outcome with
      | error halt => rfl
      | ok value => exact later value before label after

theorem get_bind {next : Machine → Run α} {next' : Machine → Run β}
    (mirrors : ∀ before label machine,
      Mirrors change (next machine) (next' (machine.veil before label))) :
    Mirrors change (get >>= next) (get >>= next') :=
  fun before label machine => mirrors before label machine before label machine

theorem modify {update update' : Machine → Machine}
    (same : ∀ before label machine,
      update' (machine.veil before label) = (update machine).veil before label) :
    Mirrors id (modify update) (modify update') := by
  intro before label machine
  rw [on_modify, on_modify, same]
  rfl

theorem ofExcept (span : Span) {result : Except Fault α} {result' : Except Fault β}
    (same : result' = result.map change) :
    Mirrors change (ofExcept span result) (ofExcept span.forget result') := by
  rw [same]
  cases result with
  | ok value => exact .pure rfl
  | error cause => exact .fault span cause

theorem ofHost (span : Span) {operation : HostM α} {operation' : HostM β}
    (mirrors : HostM.Mirrors change operation operation') :
    Mirrors change (ofHost span operation) (ofHost span.forget operation') := by
  intro before label machine
  have mirrored := mirrors before machine.host
  have host : (machine.veil before label).host = machine.host.after before := rfl
  rw [on_ofHost, on_ofHost, host, mirrored]
  cases operation.run.run machine.host with
  | mk outcome after =>
      cases outcome with
      | ok value => rfl
      | error failure => cases failure <;> rfl

theorem print (text : String) : Mirrors id (print text) (print text) := by
  refine .modify fun before label machine => ?_
  have same : before ++ machine.host.output ++ text = before ++ (machine.host.output ++ text) :=
    String.append_assoc
  exact congrArg (fun output => ({ machine.veil before label with
    host := { machine.host with output } } : Machine)) same

theorem readName (name : String) (span : Span) :
    Mirrors Value.forgetSpans (readName name span) (readName name span.forget) := by
  refine .get_bind fun before label machine => ?_
  have found : (machine.veil before label).scopes.get (machine.veil before label).current name =
      (machine.scopes.get machine.current name).map Value.forgetSpans :=
    Scopes.get_forgetSpans machine.scopes machine.current name
  rw [found]
  cases machine.scopes.get machine.current name with
  | ok value => exact .pure rfl
  | error cause => exact .fault span _

theorem define (name : String) (value : Value) :
    Mirrors id (define name value) (define name value.forgetSpans) := by
  refine .modify fun before label machine => ?_
  have same := Scopes.define_forgetSpans machine.scopes machine.current name value
  exact congrArg (fun scopes => ({ machine.veil before label with scopes } : Machine)) same

theorem assign (name : String) (value : Value) (span : Span) :
    Mirrors id (assign name value span) (assign name value.forgetSpans span.forget) := by
  refine .get_bind fun before label machine => ?_
  have found : (machine.veil before label).scopes.assignFault?
      (machine.veil before label).current name =
      machine.scopes.assignFault? machine.current name :=
    Scopes.assignFault?_forgetSpans machine.scopes machine.current name
  rw [found]
  cases machine.scopes.assignFault? machine.current name with
  | none => exact .define name value
  | some cause => exact .fault span _

theorem inCall {body : Run α} {body' : Run β} (closure : Closure) (args : List Value)
    (mirrors : Mirrors change body body') :
    Mirrors change (inCall closure args body)
      (inCall closure.forgetSpans (args.map Value.forgetSpans) body') := by
  intro before label machine
  have entered : (machine.veil before label).enter closure.forgetSpans (args.map Value.forgetSpans) =
      (machine.enter closure args).veil before label := by
    have locals := Bindings.ofList_forgetSpans closure.declaration.params args
    have frames := Scopes.enter_forgetSpans machine.scopes closure.home
      (Bindings.ofList (closure.declaration.params.zip args))
    rw [← locals] at frames
    have unfolded (machine : Machine) (closure : Closure) (args : List Value) :
        machine.enter closure args =
          { machine with
            scopes := (machine.scopes.enter closure.home
              (Bindings.ofList (closure.declaration.params.zip args))).2
            current := (machine.scopes.enter closure.home
              (Bindings.ofList (closure.declaration.params.zip args))).1
            depth := machine.depth + 1 } := rfl
    rw [unfolded, unfolded]
    simp only [Machine.veil, Closure.forgetSpans, Declaration.forgetSpans, frames]
  rw [on_inCall, on_inCall, entered, mirrors before label (machine.enter closure args)]
  rfl

end Mirrors

/-- The second runner does on bodies without spans what the first one does on the bodies with their
spans. -/
def MirrorsBodies (run run' : BodyRunner) : Prop :=
  ∀ body, Mirrors Flow.forgetSpans (run body) (run' (Stmt.mapSpans Span.forget body))

/-! ## Evaluation -/

section Evaluation

variable {run run' : BodyRunner}

theorem callResult_forgetSpans (flow : Flow) :
    flow.callResult.forgetSpans = flow.forgetSpans.callResult := by
  cases flow <;> rfl

theorem callClosure_mirrors (bodies : MirrorsBodies run run') (closure : Closure)
    (args : List Value) (span : Span) :
    Mirrors Value.forgetSpans (callClosure run closure args span)
      (callClosure run' closure.forgetSpans (args.map Value.forgetSpans) span.forget) := by
  obtain ⟨⟨label, name, params, body⟩, home⟩ := closure
  cases body with
  | none => exact .fault span _
  | some body =>
      refine .get_bind fun before label machine => ?_
      have depth : (machine.veil before label).depth = machine.depth := rfl
      rw [depth]
      split
      · exact .fault span _
      · exact .bind (.inCall _ args (bodies body)) fun flow => .pure (callResult_forgetSpans flow)

theorem callFunction_mirrors (bodies : MirrorsBodies run run') (functions : FunctionSet)
    (args : List Value) (span : Span) :
    Mirrors Value.forgetSpans (callFunction run functions args span)
      (callFunction run' functions.forgetSpans (args.map Value.forgetSpans) span.forget) := by
  rw [callFunction, callFunction, List.length_map, FunctionSet.resolve_forgetSpans,
    FunctionSet.mismatch_forgetSpans]
  cases functions.resolve args.length with
  | none => exact .fault span _
  | some closure => exact callClosure_mirrors bodies closure args span

theorem callBound_mirrors (bodies : MirrorsBodies run run') (name : String) (args : List Value)
    (span : Span) :
    Mirrors Value.forgetSpans (callBound run name args span)
      (callBound run' name (args.map Value.forgetSpans) span.forget) := by
  refine .get_bind fun before label machine => ?_
  have found : (machine.veil before label).lookup name =
      (machine.lookup name).map Value.forgetSpans :=
    Scopes.lookup_forgetSpans machine.scopes machine.current name
  rw [found]
  cases machine.lookup name with
  | none => exact .fault span _
  | some value =>
      cases value with
      | function functions => exact callFunction_mirrors bodies functions args span
      | _ => exact .fault span _

theorem callNamed_mirrors (bodies : MirrorsBodies run run') (name : String) (args : List Value)
    (span : Span) :
    Mirrors Value.forgetSpans (callNamed run name args span)
      (callNamed run' name (args.map Value.forgetSpans) span.forget) := by
  rw [callNamed, callNamed]
  cases Builtin.ofName? name with
  | none => exact callBound_mirrors bodies name args span
  | some builtin => exact .ofHost span (builtin.call_mirrors args)

theorem applyTo_mirrors (bodies : MirrorsBodies run run') (function item : Value) (span : Span) :
    Mirrors Value.forgetSpans (applyTo run function item span)
      (applyTo run' function.forgetSpans item.forgetSpans span.forget) := by
  cases function with
  | function functions => exact callFunction_mirrors bodies functions [item] span
  | string name =>
      simp only [Value.forgetSpans, Value.mapFunctions, applyTo]
      split
      · exact .fault span _
      · exact callNamed_mirrors bodies name [item] span
  | _ => exact .fault span _

theorem applyToAll_mirrors (bodies : MirrorsBodies run run') (function : Value) (span : Span)
    (results items : List Value) :
    Mirrors (List.map Value.forgetSpans) (applyToAll run function span results items)
      (applyToAll run' function.forgetSpans span.forget (results.map Value.forgetSpans)
        (items.map Value.forgetSpans)) := by
  induction items generalizing results with
  | nil => exact .pure List.map_reverse
  | cons item rest ih =>
      exact .bind (applyTo_mirrors bodies function item span) fun result => ih (result :: results)

theorem mapCall_mirrors (bodies : MirrorsBodies run run') (args : List Value) (span : Span) :
    Mirrors Value.forgetSpans (mapCall run args span)
      (mapCall run' (args.map Value.forgetSpans) span.forget) := by
  match args with
  | [function, collection] =>
      simp only [mapCall, List.map_cons, List.map_nil, Value.elements?_mapFunctions,
        Value.kind_mapFunctions]
      cases collection.elements? with
      | none => exact .fault span _
      | some items =>
          refine .bind (applyToAll_mirrors bodies function span [] items) fun results => ?_
          exact .pure (Value.mapFunctions_list FunctionSet.forgetSpans results)
  | [] | [_] => exact .fault span _
  | _ :: _ :: _ :: rest =>
      simp only [mapCall, List.map_cons, List.length_cons, List.length_map]
      exact .fault span _

theorem call_mirrors (bodies : MirrorsBodies run run') (name : String) (args : List Value)
    (span : Span) :
    Mirrors Value.forgetSpans (call run name args span)
      (call run' name (args.map Value.forgetSpans) span.forget) := by
  unfold Run.call
  split
  · exact mapCall_mirrors bodies args span
  · exact callNamed_mirrors bodies name args span

theorem literal_forgetSpans (literal : Literal) :
    literal.value = literal.value.map Value.forgetSpans := by
  cases literal with
  | int digits =>
      simp only [Literal.value]
      cases Integer.read digits <;> rfl
  | _ => rfl

mutual

/-- Evaluation does not look at spans. -/
theorem evaluate_mirrors (bodies : MirrorsBodies run run') :
    ∀ expr : Expr, Mirrors Value.forgetSpans (evaluate run expr)
      (evaluate run' (expr.mapSpan Span.forget))
  | .literal value span => by
      rw [Expr.mapSpan, evaluate, evaluate]
      exact .ofExcept span (literal_forgetSpans value)
  | .variable name span => by
      rw [Expr.mapSpan, evaluate, evaluate]
      exact .readName name span
  | .binary op left right span => by
      have left_mirrors := evaluate_mirrors bodies left
      have right_mirrors := evaluate_mirrors bodies right
      rw [Expr.mapSpan]
      by_cases is_and : op = .and
      · subst is_and
        rw [evaluate, evaluate]
        refine .bind left_mirrors fun value => ?_
        rw [Value.truthy_mapFunctions]
        split
        · refine .bind right_mirrors fun other => .pure ?_
          rw [Value.truthy_mapFunctions]
          rfl
        · exact .pure rfl
      by_cases is_or : op = .or
      · subst is_or
        rw [evaluate, evaluate]
        refine .bind left_mirrors fun value => ?_
        rw [Value.truthy_mapFunctions]
        split
        · exact .pure rfl
        · refine .bind right_mirrors fun other => .pure ?_
          rw [Value.truthy_mapFunctions]
          rfl
      rw [evaluate_binary run is_and is_or, evaluate_binary run' is_and is_or]
      exact .bind left_mirrors fun value => .bind right_mirrors fun other =>
        .ofExcept span (Value.binary_mapFunctions FunctionSet.forgetSpans op value other)
  | .unary op operand span => by
      rw [Expr.mapSpan, evaluate, evaluate]
      exact .bind (evaluate_mirrors bodies operand) fun value =>
        .ofExcept span (Value.unary_mapFunctions FunctionSet.forgetSpans op value)
  | .call name args span => by
      rw [Expr.mapSpan, evaluate, evaluate]
      exact .bind (evaluateAll_mirrors bodies args) fun values =>
        call_mirrors bodies name values span
  | .method receiver name args span => by
      rw [Expr.mapSpan, evaluate, evaluate]
      exact .bind (evaluate_mirrors bodies receiver) fun value =>
        .bind (evaluateAll_mirrors bodies args) fun values =>
          .ofHost span (value.invoke_mirrors name values)
  | .list items span => by
      rw [Expr.mapSpan, evaluate, evaluate]
      exact .bind (evaluateAll_mirrors bodies items) fun values =>
        .pure (Value.mapFunctions_list FunctionSet.forgetSpans values)
  | .set items span => by
      rw [Expr.mapSpan, evaluate, evaluate]
      exact .bind (evaluateAll_mirrors bodies items) fun values =>
        .pure (Value.mapFunctions_ofSet FunctionSet.forgetSpans values)

theorem evaluateAll_mirrors (bodies : MirrorsBodies run run') :
    ∀ exprs : List Expr, Mirrors (List.map Value.forgetSpans) (evaluateAll run exprs)
      (evaluateAll run' (Expr.mapSpans Span.forget exprs))
  | [] => by
      rw [Expr.mapSpans, evaluateAll, evaluateAll]
      exact .pure rfl
  | expr :: rest => by
      rw [Expr.mapSpans, evaluateAll, evaluateAll]
      exact .bind (evaluate_mirrors bodies expr) fun value =>
        .bind (evaluateAll_mirrors bodies rest) fun values => .pure rfl

end

end Evaluation

/-! ## Execution -/

section Execution

variable {run run' : BodyRunner} {body body' : Run Flow}

/-- A loop goes on after its body unless that gives. -/
theorem Mirrors.unlessGiven {next next' : Run Flow}
    (body_mirrors : Mirrors Flow.forgetSpans body body')
    (next_mirrors : Mirrors Flow.forgetSpans next next') :
    Mirrors Flow.forgetSpans
      (do match ← body with
        | .give result => return .give result
        | _ => next)
      (do match ← body' with
        | .give result => return .give result
        | _ => next') := by
  refine .bind body_mirrors fun flow => ?_
  cases flow with
  | give result => exact .pure rfl
  | _ => exact next_mirrors

theorem repeatWhile_mirrors {condition condition' : Run Value}
    (condition_mirrors : Mirrors Value.forgetSpans condition condition')
    (body_mirrors : Mirrors Flow.forgetSpans body body') (turns : Nat) :
    Mirrors Flow.forgetSpans (repeatWhile condition body turns)
      (repeatWhile condition' body' turns) := by
  induction turns with
  | zero => exact .throw rfl
  | succ turns ih =>
      refine .bind condition_mirrors fun value => ?_
      rw [Value.truthy_mapFunctions]
      split
      · exact .unlessGiven body_mirrors ih
      · exact .pure rfl

theorem forEach_mirrors (name : String) (body_mirrors : Mirrors Flow.forgetSpans body body')
    (items : List Value) :
    Mirrors Flow.forgetSpans (forEach name body items)
      (forEach name body' (items.map Value.forgetSpans)) := by
  induction items with
  | nil => exact .pure rfl
  | cons item rest ih =>
      exact .bind (.define name item) fun _ => .unlessGiven body_mirrors ih

theorem countFrom_mirrors (name : String) (body_mirrors : Mirrors Flow.forgetSpans body body')
    (step : Int) (terms : Nat) (term : Int) :
    Mirrors Flow.forgetSpans (countFrom name body step terms term)
      (countFrom name body' step terms term) := by
  induction terms generalizing term with
  | zero => exact .pure rfl
  | succ terms ih =>
      exact .bind (.define name (.int (.ofInt term))) fun _ => .unlessGiven body_mirrors (ih _)

theorem countFloats_mirrors (name : String) (body_mirrors : Mirrors Flow.forgetSpans body body')
    (last step : Float) (turns : Nat) (term : Float) :
    Mirrors Flow.forgetSpans (countFloats name body last step turns term)
      (countFloats name body' last step turns term) := by
  induction turns generalizing term with
  | zero => exact .throw rfl
  | succ turns ih =>
      unfold Run.countFloats
      split
      · exact .bind (.define name (.float term)) fun _ => .unlessGiven body_mirrors (ih _)
      · exact .pure rfl

theorem countRange_mirrors (turns : Nat) (name : String)
    (body_mirrors : Mirrors Flow.forgetSpans body body') (first last : Number)
    (step : Option Number) :
    Mirrors Flow.forgetSpans (countRange turns name body first last step)
      (countRange turns name body' first last step) := by
  rw [countRange_eq, countRange_eq]
  split
  · exact countFrom_mirrors name body_mirrors _ _ _
  · exact countFrom_mirrors name body_mirrors _ _ _
  · exact countFloats_mirrors name body_mirrors _ _ _ _

theorem rangeBound_mirrors (bodies : MirrorsBodies run run') (bound : Expr) :
    Mirrors id (rangeBound run bound) (rangeBound run' (bound.mapSpan Span.forget)) := by
  refine .bind (evaluate_mirrors bodies bound) fun value => ?_
  rw [Value.number?_mapFunctions, Value.kind_mapFunctions, Expr.span_mapSpan]
  cases value.number? with
  | none => exact .fault _ _
  | some number => exact .pure rfl

theorem rangeStep_mirrors (bodies : MirrorsBodies run run') (step : Option Expr) (span : Span) :
    Mirrors id (rangeStep run step span)
      (rangeStep run' (step.map (Expr.mapSpan Span.forget)) span.forget) := by
  cases step with
  | none => exact .pure rfl
  | some step =>
      refine .bind (rangeBound_mirrors bodies step) fun number => ?_
      simp only [id]
      split
      · exact .fault span _
      · exact .pure rfl

theorem evaluateOptional_mirrors (bodies : MirrorsBodies run run') (expr : Option Expr) :
    Mirrors Value.forgetSpans (evaluateOptional run expr)
      (evaluateOptional run' (expr.map (Expr.mapSpan Span.forget))) := by
  cases expr with
  | none => exact .pure rfl
  | some expr => exact evaluate_mirrors bodies expr

theorem declareAll_mirrors (bodies : MirrorsBodies run run')
    (bindings : List (String × Option Expr)) :
    Mirrors id (declareAll run bindings) (declareAll run' (mapBindings Span.forget bindings)) := by
  induction bindings with
  | nil => exact .pure rfl
  | cons binding rest ih =>
      exact .bind (evaluateOptional_mirrors bodies binding.2) fun value =>
        .bind (.define binding.1 value) fun _ => ih

theorem assignValue_mirrors (name : String) (op : Option BinaryOp) (value : Value) (span : Span) :
    Mirrors id (assignValue name op value span)
      (assignValue name op value.forgetSpans span.forget) := by
  cases op with
  | none => exact .assign name value span
  | some op =>
      exact .bind (.readName name span) fun old =>
        .bind (.ofExcept span (Value.binary_mapFunctions FunctionSet.forgetSpans op old value))
          fun value => .assign name value span

theorem addOverload_forgetSpans (existing : Option Value) (closure : Closure) :
    addOverload (existing.map Value.forgetSpans) closure.forgetSpans =
      (addOverload existing closure).forgetSpans := by
  cases existing with
  | none => rfl
  | some value =>
      cases value with
      | function functions => exact FunctionSet.insert_forgetSpans functions closure
      | _ => rfl

theorem declareFunction_mirrors (declaration : Declaration) :
    Mirrors id (declareFunction declaration) (declareFunction declaration.forgetSpans) := by
  refine .get_bind fun before label machine => ?_
  have found : (machine.veil before label).lookup declaration.name =
      (machine.lookup declaration.name).map Value.forgetSpans :=
    Scopes.lookup_forgetSpans machine.scopes machine.current declaration.name
  have added := addOverload_forgetSpans (machine.lookup declaration.name)
    { declaration, home := machine.current }
  rw [← found] at added
  have defined := Mirrors.define declaration.name
    (.function (addOverload (machine.lookup declaration.name)
      { declaration, home := machine.current }))
  rw [Value.forgetSpans, Value.mapFunctions_function, ← added] at defined
  exact defined

theorem echo_mirrors (value : Value) : Mirrors id (echo value) (echo value.forgetSpans) := by
  refine .get_bind fun before label machine => ?_
  have asked : (machine.veil before label).host.echo = machine.host.echo := rfl
  rw [asked, Value.isNone_mapFunctions, Value.display_mapFunctions]
  split
  · exact .print _
  · exact .pure rfl

mutual

/-- Execution does not look at spans. -/
theorem execute_mirrors (bodies : MirrorsBodies run run') (turns : Nat) :
    ∀ stmt : Stmt, Mirrors Flow.forgetSpans (execute turns run stmt)
      (execute turns run' (stmt.mapSpan Span.forget))
  | .var bindings _ => by
      rw [Stmt.mapSpan, execute, execute]
      exact .bind (declareAll_mirrors bodies bindings) fun _ => .pure rfl
  | .letBe name value _ => by
      rw [Stmt.mapSpan, execute, execute]
      exact .bind (evaluate_mirrors bodies value) fun value =>
        .bind (.define name value) fun _ => .pure rfl
  | .assign name op value span => by
      rw [Stmt.mapSpan, execute, execute]
      exact .bind (evaluate_mirrors bodies value) fun value =>
        .bind (assignValue_mirrors name op value span) fun _ => .pure rfl
  | .choose arms _ => by
      rw [Stmt.mapSpan, execute, execute]
      exact executeArms_mirrors bodies turns arms
  | .whileLoop condition body _ => by
      rw [Stmt.mapSpan, execute, execute]
      exact repeatWhile_mirrors (evaluate_mirrors bodies condition)
        (executeBlock_mirrors bodies turns body) turns
  | .forRange name first last step body span => by
      rw [Stmt.mapSpan, execute, execute]
      exact .bind (rangeBound_mirrors bodies first) fun first =>
        .bind (rangeBound_mirrors bodies last) fun last =>
          .bind (rangeStep_mirrors bodies step span) fun step =>
            countRange_mirrors turns name (executeBlock_mirrors bodies turns body) first last step
  | .forIn name items body _ => by
      rw [Stmt.mapSpan, execute, execute]
      refine .bind (evaluate_mirrors bodies items) fun value => ?_
      rw [Value.elements?_mapFunctions, Value.kind_mapFunctions, Expr.span_mapSpan]
      cases value.elements? with
      | none => exact .fault _ _
      | some elements =>
          exact forEach_mirrors name (executeBlock_mirrors bodies turns body) elements
  | .define label name params body _ => by
      rw [Stmt.mapSpan, execute, execute]
      exact .bind (declareFunction_mirrors { label, name, params, body }) fun _ => .pure rfl
  | .expression value _ => by
      rw [Stmt.mapSpan, execute, execute]
      exact .bind (evaluate_mirrors bodies value) fun value =>
        .bind (echo_mirrors value) fun _ => .pure rfl
  | .give value _ => by
      rw [Stmt.mapSpan, execute, execute]
      exact .bind (evaluateOptional_mirrors bodies value) fun value => .pure rfl
  | .pass _ => by
      rw [Stmt.mapSpan, execute, execute]
      exact .pure rfl

theorem executeBlock_mirrors (bodies : MirrorsBodies run run') (turns : Nat) :
    ∀ block : List Stmt, Mirrors Flow.forgetSpans (executeBlock turns run block)
      (executeBlock turns run' (Stmt.mapSpans Span.forget block))
  | [] => by
      rw [Stmt.mapSpans, executeBlock, executeBlock]
      exact .pure rfl
  | stmt :: rest => by
      rw [Stmt.mapSpans, executeBlock, executeBlock]
      exact .unlessGiven (execute_mirrors bodies turns stmt) (executeBlock_mirrors bodies turns rest)

theorem executeArms_mirrors (bodies : MirrorsBodies run run') (turns : Nat) :
    ∀ arms : Arms, Mirrors Flow.forgetSpans (executeArms turns run arms)
      (executeArms turns run' (arms.mapSpan Span.forget))
  | .arm condition body others => by
      rw [Arms.mapSpan, executeArms, executeArms]
      refine .bind (evaluate_mirrors bodies condition) fun value => ?_
      rw [Value.truthy_mapFunctions]
      split
      · exact executeBlock_mirrors bodies turns body
      · exact executeArms_mirrors bodies turns others
  | .otherwise body => by
      rw [Arms.mapSpan, executeArms, executeArms]
      exact executeBlock_mirrors bodies turns body
  | .nothing => by
      rw [Arms.mapSpan, executeArms, executeArms]
      exact .pure rfl

end

end Execution

theorem bodyRunner_mirrors (turns levels : Nat) :
    MirrorsBodies (bodyRunner turns levels) (bodyRunner turns levels) := by
  induction levels with
  | zero =>
      intro body
      exact .throw rfl
  | succ levels ih => exact executeBlock_mirrors ih turns

end Run
end DotScript
