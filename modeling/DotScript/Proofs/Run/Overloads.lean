import DotScript.Proofs.Run.Compound
import DotScript.Proofs.Run.Moments

/-!
# Overloads

Functions of one name are told apart by their numbers of parameters.  What a name stands for after
any history of declarations in one frame can be read off the history: for each number of parameters
the last declaration with a body counts, and a forward declaration only as long as there is none.
One more declaration changes this in the same way as it changes the function set
(`FunctionSet.Records.insert`), so that calls follow the history.
-/

namespace DotScript

/-! ## Histories of declarations -/

namespace Declaration

/-- The numbers of parameters in a history of declarations, in the order in which they first
appeared. -/
def counts (history : List Declaration) : List Nat :=
  (history.map (·.arity)).eraseDups

/-- The declaration that counts for a number of arguments: the last one that has a body, or else the
first one. -/
def governing (history : List Declaration) (count : Nat) : Option Declaration :=
  let takers := history.filter (·.arity == count)
  (takers.filter (·.body.isSome)).getLast?.or takers.head?

theorem counts_concat (history : List Declaration) (declaration : Declaration) :
    counts (history ++ [declaration]) =
      if declaration.arity ∈ counts history then counts history
      else counts history ++ [declaration.arity] := by
  simp only [counts, List.map_append, List.map_cons, List.map_nil, List.eraseDups_append,
    List.mem_eraseDups]
  generalize history.map (·.arity) = known
  by_cases member : declaration.arity ∈ known <;>
    simp [List.removeAll, member, List.eraseDups_cons]

/-- A declaration says nothing about other numbers of arguments. -/
theorem governing_concat_of_ne {declaration : Declaration} {count : Nat}
    (other : declaration.arity ≠ count) (history : List Declaration) :
    governing (history ++ [declaration]) count = governing history count := by
  simp [governing, other]

/-- The last declaration counts if it has a body. -/
theorem governing_concat_of_body {declaration : Declaration}
    (defined : declaration.body.isSome = true) (history : List Declaration) :
    governing (history ++ [declaration]) declaration.arity = some declaration := by
  simp [governing, defined]

/-- A forward declaration counts if there is nothing else. -/
theorem governing_concat_of_forward {declaration : Declaration}
    (forward : declaration.body.isSome = false) (history : List Declaration) :
    governing (history ++ [declaration]) declaration.arity =
      (governing history declaration.arity).or (some declaration) := by
  simp [governing, forward, List.head?_append]

/-- What counts for a number of arguments was declared, with so many parameters. -/
theorem mem_of_governing {history : List Declaration} {count : Nat} {declaration : Declaration}
    (governs : governing history count = some declaration) :
    declaration ∈ history ∧ declaration.arity = count := by
  have taker : declaration ∈ history.filter (·.arity == count) := by
    rcases Option.or_eq_some_iff.1 governs with last | ⟨-, first⟩
    · exact (List.mem_filter.1 (List.mem_of_getLast? last)).1
    · exact List.mem_of_head? first
  simpa using taker

end Declaration

open Declaration

/-! ## Function sets -/

namespace FunctionSet

/-- A function is found under its own number of parameters, and hides no other one. -/
theorem find?_insertOverload (closure : Closure) (overloads : List Closure) (count : Nat) :
    (insertOverload closure overloads).find? (·.declaration.arity == count) =
      if closure.declaration.arity = count then some closure
      else overloads.find? (·.declaration.arity == count) := by
  induction overloads with
  | nil => by_cases same : closure.declaration.arity = count <;> simp [insertOverload, same]
  | cons first rest ih =>
      rw [insertOverload]
      split
      next replaced =>
        rw [List.find?_cons, List.find?_cons, beq_iff_eq.1 replaced]
        cases same : closure.declaration.arity == count with
        | true => exact (if_pos (beq_iff_eq.1 same)).symm
        | false => exact (if_neg (beq_eq_false_iff_ne.1 same)).symm
      next kept =>
        rw [List.find?_cons, List.find?_cons, ih]
        cases found : first.declaration.arity == count with
        | true =>
            have other : closure.declaration.arity ≠ count := by
              rintro rfl
              exact kept found
            exact (if_neg other).symm
        | false => rfl

/-- A function takes the place of the one with as many parameters or comes last. -/
theorem arities_insertOverload (closure : Closure) (overloads : List Closure) :
    (insertOverload closure overloads).map (·.declaration.arity) =
      if closure.declaration.arity ∈ overloads.map (·.declaration.arity) then
        overloads.map (·.declaration.arity)
      else overloads.map (·.declaration.arity) ++ [closure.declaration.arity] := by
  induction overloads with
  | nil => simp [insertOverload]
  | cons first rest ih =>
      rw [insertOverload]
      split
      next replaced => simp [beq_iff_eq.1 replaced]
      next kept =>
        have other : closure.declaration.arity ≠ first.declaration.arity := fun same =>
          kept (beq_iff_eq.2 same.symm)
        simp only [List.map_cons, ih, List.mem_cons, other, false_or]
        exact apply_ite (List.cons first.declaration.arity) _ _ _

theorem resolve_isSome_iff (functions : FunctionSet) (count : Nat) :
    (functions.resolve count).isSome = true ↔
      count ∈ functions.overloads.map (·.declaration.arity) := by
  simp [resolve]

/-- One more function makes room for its number of parameters, if there is no function with it. -/
theorem arities_insert (functions : FunctionSet) (closure : Closure) :
    (functions.insert closure).overloads.map (·.declaration.arity) =
      if closure.declaration.arity ∈ functions.overloads.map (·.declaration.arity) then
        functions.overloads.map (·.declaration.arity)
      else functions.overloads.map (·.declaration.arity) ++ [closure.declaration.arity] := by
  rw [insert]
  split
  next dropped =>
    rw [Bool.and_eq_true, resolve_isSome_iff] at dropped
    rw [if_pos dropped.2]
  next => exact arities_insertOverload closure functions.overloads

/-- A function with a body is found afterwards, and a forward declaration if nothing was there. -/
theorem resolve_insert_self (functions : FunctionSet) (closure : Closure) :
    (functions.insert closure).resolve closure.declaration.arity =
      if closure.declaration.body.isSome then some closure
      else (functions.resolve closure.declaration.arity).or (some closure) := by
  rw [insert]
  split
  next dropped =>
    obtain ⟨forward, there⟩ := Bool.and_eq_true_iff.1 dropped
    obtain ⟨found, there⟩ := Option.isSome_iff_exists.1 there
    rw [if_neg (by simp [Option.isNone_iff_eq_none.1 forward]), there, Option.some_or]
  next inserted =>
    rw [resolve, find?_insertOverload, if_pos rfl]
    cases defined : closure.declaration.body with
    | some body => rfl
    | none =>
        rw [defined, Option.isNone_none, Bool.true_and, Bool.not_eq_true,
          Option.isSome_eq_false_iff, Option.isNone_iff_eq_none] at inserted
        rw [inserted, Option.none_or, ite_self]

/-- The functions with other numbers of parameters are found as before. -/
theorem resolve_insert_of_ne (functions : FunctionSet) {closure : Closure} {count : Nat}
    (other : closure.declaration.arity ≠ count) :
    (functions.insert closure).resolve count = functions.resolve count := by
  rw [insert]
  split
  next => rfl
  next => rw [resolve, find?_insertOverload, if_neg other, resolve]

/-- The functions of a set are those that a history of declarations in a frame leaves. -/
structure Records (name : String) (home : FrameId) (history : List Declaration)
    (functions : FunctionSet) : Prop where
  name : functions.name = name
  /-- There is one function for each number of parameters. -/
  counts : functions.overloads.map (·.declaration.arity) = counts history
  /-- The function is the one that counts, and belongs to the frame. -/
  entry : ∀ count, functions.resolve count = (governing history count).map (⟨·, home⟩)

variable {name : String} {home : FrameId} {history : List Declaration} {functions : FunctionSet}

/-- One more declaration changes what a set holds as it changes what the history says. -/
theorem Records.insert (records : Records name home history functions)
    (declaration : Declaration) :
    Records name home (history ++ [declaration]) (functions.insert ⟨declaration, home⟩) where
  name := by
    rw [FunctionSet.insert, apply_ite FunctionSet.name, ite_self]
    exact records.name
  counts := by rw [arities_insert, counts_concat, records.counts]
  entry count := by
    by_cases same : declaration.arity = count
    · subst same
      rw [resolve_insert_self functions ⟨declaration, home⟩]
      cases defined : declaration.body.isSome with
      | true => rw [governing_concat_of_body defined, if_pos rfl, Option.map_some]
      | false =>
          rw [governing_concat_of_forward defined, if_neg Bool.false_ne_true, records.entry,
            Option.map_or, Option.map_some]
    · rw [resolve_insert_of_ne functions same, governing_concat_of_ne same, records.entry]

theorem Records.single (declaration : Declaration) (home : FrameId) :
    Records declaration.name home [declaration] (single ⟨declaration, home⟩) := by
  have empty : Records declaration.name home [] ⟨declaration.name, []⟩ := ⟨rfl, rfl, fun _ => rfl⟩
  have first := empty.insert declaration
  rwa [List.nil_append, FunctionSet.insert, if_neg (by simp [resolve]), insertOverload] at first

/-- The complaint about a number of arguments where functions take other numbers of them. -/
def countFault (name : String) (counts : List Nat) (received : Nat) : Fault :=
  .miscounted <| match counts with
    | [only] => .function name only received
    | counts => .overloads name counts received

/-- A complaint names exactly the numbers of parameters that were declared. -/
theorem Records.mismatch_eq (records : Records name home history functions) (received : Nat) :
    functions.mismatch received = countFault name (Declaration.counts history) received := by
  rw [← records.name, ← records.counts]
  unfold mismatch countFault
  match functions.overloads with
  | [] => rfl
  | [_] => rfl
  | _ :: _ :: _ => rfl

end FunctionSet

/-! ## Declarations in a frame -/

theorem Bindings.get?_setAll_of_not_mem {name : String} {pairs : List (String × Value)}
    (absent : name ∉ pairs.map (·.1)) (bindings : Bindings) :
    (bindings.setAll pairs).get? name = bindings.get? name := by
  induction pairs generalizing bindings with
  | nil => rfl
  | cons pair rest ih =>
      rw [List.map_cons, List.mem_cons, not_or] at absent
      rw [setAll_cons, ih absent.2, get?_set_of_ne absent.1]

/-- Each of several different names is bound to what it is paired with. -/
theorem Bindings.get?_setAll {pairs : List (String × Value)} (distinct : (pairs.map (·.1)).Nodup)
    {name : String} {value : Value} (member : (name, value) ∈ pairs) (bindings : Bindings) :
    (bindings.setAll pairs).get? name = some value := by
  induction pairs generalizing bindings with
  | nil => cases member
  | cons pair rest ih =>
      obtain ⟨fresh, distinct⟩ := List.nodup_cons.1 distinct
      rcases List.mem_cons.1 member with rfl | later
      · rw [setAll_cons, get?_setAll_of_not_mem fresh, get?_set_self]
      · exact ih distinct later _

/-- A name that a frame binds is read from that frame. -/
theorem Scopes.lookup_of_bound {scopes : Scopes} {id : FrameId} {frame : Frame} {name : String}
    {value : Value} (there : scopes.frames[id]? = some frame)
    (bound : frame.bindings.get? name = some value) : scopes.lookup id name = some value := by
  have here : (scopes.bindings id).get? name = some value := by rwa [bindings, there]
  rw [lookup, chain, there, List.findSome?_cons, here]

namespace Machine

/-- A name that was declared in the current frame has its new value there. -/
theorem lookup_define_self {machine : Machine}
    (present : machine.current < machine.scopes.frames.size) (name : String) (value : Value) :
    (machine.define name value).lookup name = some value := by
  have there : (machine.scopes.define machine.current name value).frames[machine.current]? =
      some { machine.scopes.frames[machine.current] with
        bindings := machine.scopes.frames[machine.current].bindings.set name value } := by
    simp only [Scopes.define, Scopes.updateBindings, Array.getElem?_modify, if_true,
      Array.getElem?_eq_getElem present, Option.map_some]
  exact Scopes.lookup_of_bound there (Bindings.get?_set_self _ _ _)

/-- In the frame of a call every parameter has its argument. -/
theorem lookup_enter (closure : Closure) (distinct : closure.declaration.params.Nodup)
    {args : List Value} (counted : closure.declaration.arity = args.length) {place : Nat}
    {param : String} {arg : Value} (param_there : closure.declaration.params[place]? = some param)
    (arg_there : args[place]? = some arg) (machine : Machine) :
    (machine.enter closure args).lookup param = some arg := by
  have paired : (param, arg) ∈ closure.declaration.params.zip args :=
    List.mem_of_getElem? (List.getElem?_zip_eq_some.2 ⟨param_there, arg_there⟩)
  have names : ((closure.declaration.params.zip args).map (·.1)).Nodup := by
    rwa [List.map_fst_zip (Nat.le_of_eq counted)]
  exact Scopes.lookup_of_bound Array.getElem?_push_size (Bindings.get?_setAll names paired [])

end Machine

namespace Run

/-- A machine declares functions under one name, one after the other, in its current frame.
Whatever else it does there does not change what the name is bound to. -/
inductive DeclaresFunctions (turns : Nat) (run : BodyRunner) (name : String) (start : Machine) :
    List Declaration → Machine → Prop
  | start : DeclaresFunctions turns run name start [] start
  | declared {history before after flow} (declaration : Declaration) (span : Span) :
      DeclaresFunctions turns run name start history before →
      declaration.name = name → declaration.params.Nodup →
      (execute turns run (.define declaration.label name declaration.params declaration.body
        span)).on before = (flow, after) →
      DeclaresFunctions turns run name start (history ++ [declaration]) after
  | meanwhile {history before after} :
      DeclaresFunctions turns run name start history before →
      before.ChangesOnlyCurrent after → after.lookup name = before.lookup name →
      DeclaresFunctions turns run name start history after

/-- What a name is bound to after a history of declarations of functions under it. -/
structure Reflects (name : String) (home : FrameId) (history : List Declaration)
    (bound : Option Value) : Prop where
  unseen : history = [] → ∀ functions, bound ≠ some (.function functions)
  seen : history ≠ [] →
    ∃ functions, bound = some (.function functions) ∧
      FunctionSet.Records name home history functions

/-- One more declaration in the same frame. -/
theorem Reflects.addOverload {home : FrameId} {history : List Declaration} {bound : Option Value}
    {declaration : Declaration} (reflects : Reflects declaration.name home history bound) :
    Reflects declaration.name home (history ++ [declaration])
      (some (.function (addOverload bound ⟨declaration, home⟩))) where
  unseen empty := absurd empty (List.append_ne_nil_of_right_ne_nil history (List.cons_ne_nil _ _))
  seen _ := by
    refine ⟨_, rfl, ?_⟩
    by_cases first : history = []
    · subst first
      have single : Run.addOverload bound ⟨declaration, home⟩ = .single ⟨declaration, home⟩ := by
        unfold Run.addOverload
        split
        next functions => exact absurd rfl (reflects.unseen rfl functions)
        next => rfl
      rw [single]
      exact .single declaration home
    · obtain ⟨functions, rfl, records⟩ := reflects.seen first
      exact records.insert declaration

section Histories

variable {turns : Nat} {run : BodyRunner} {name : String} {start machine : Machine}
  {history : List Declaration}

/-- The machine goes on in its frame, and what the name is bound to reflects the history. -/
theorem DeclaresFunctions.reflects
    (declares : DeclaresFunctions turns run name start history machine)
    (present : start.current < start.scopes.frames.size)
    (unseen : ∀ functions, start.lookup name ≠ some (.function functions)) :
    start.ChangesOnlyCurrent machine ∧
      Reflects name start.current history (machine.lookup name) := by
  induction declares with
  | start => exact ⟨Std.Refl.refl start, fun _ => unseen, fun some_declared => absurd rfl some_declared⟩
  | @declared history before after flow declaration span _ named distinct executed ih =>
      obtain ⟨changes, reflects⟩ := ih
      subst named
      rw [execute] at executed
      obtain ⟨-, rfl⟩ := Prod.mk.inj executed.symm
      have here : before.current < before.scopes.frames.size :=
        changes.current.symm ▸ Nat.lt_of_lt_of_le present changes.grows
      refine ⟨IsTrans.trans _ _ _ changes (Machine.changesOnlyCurrent_define _ _ _), ?_⟩
      have next := reflects.addOverload
      rw [← changes.current] at next ⊢
      rw [← Machine.lookup_define_self here declaration.name] at next
      exact next
  | @meanwhile history before after _ changes same ih =>
      exact ⟨IsTrans.trans _ _ _ ih.1 changes, same ▸ ih.2⟩

theorem DeclaresFunctions.named_and_distinct
    (declares : DeclaresFunctions turns run name start history machine) :
    ∀ declaration ∈ history, declaration.name = name ∧ declaration.params.Nodup := by
  induction declares with
  | start => exact List.forall_mem_nil _
  | declared declaration span _ named distinct _ ih =>
      exact List.forall_mem_append.2 ⟨ih, List.forall_mem_singleton.2 ⟨named, distinct⟩⟩
  | meanwhile _ _ _ ih => exact ih

end Histories

/-! ## Calls -/

/-- What a call comes to after a history of declarations in the frame `home`: the outcome, and the
machine that is left behind. -/
def callAfter (runner : BodyRunner) (name : String) (home : FrameId) (history : List Declaration)
    (args : List Value) (span : Span) (caller : Machine) : Except Halt Value × Machine :=
  match governing history args.length with
  | none =>
    (.error (.ofFault span (FunctionSet.countFault name (counts history) args.length)), caller)
  | some declaration =>
    match declaration.body with
    | none => (.error (.ofFault span (.running (.undefinedBody name))), caller)
    | some body =>
      if caller.depth < maxCallDepth then
        let ended := (runner body).on (caller.enter ⟨declaration, home⟩ args)
        (ended.1.map Flow.callResult, ended.2.leave caller.current)
      else (.error (.ofFault span (.running (.callDepth name))), caller)

/-- The calls of the functions of a set: through the value, or by a name that it is bound to and
that no built-in has. -/
inductive IsCall (runner : BodyRunner) (functions : FunctionSet) (args : List Value) (span : Span)
    (caller : Machine) : Run Value → Prop
  | value : IsCall runner functions args span caller (callFunction runner functions args span)
  | name (name : String) :
      name ≠ mapName → Builtin.ofName? name = none →
      caller.lookup name = some (.function functions) →
      IsCall runner functions args span caller (call runner name args span)

section Calls

variable {runner : BodyRunner} {functions : FunctionSet} {args : List Value} {span : Span}
  {caller : Machine}

theorem IsCall.on_eq {computation : Run Value}
    (is_call : IsCall runner functions args span caller computation) :
    computation.on caller = (callFunction runner functions args span).on caller := by
  cases is_call with
  | value => rfl
  | name name not_map not_builtin visible =>
      simp only [call, if_neg not_map, callNamed, not_builtin, callBound]
      rw [on_bind_of_ok (on_get caller)]
      simp only [visible]

/-- Calls go by the history of declarations. -/
theorem callFunction_on_of_records {name : String} {home : FrameId} {history : List Declaration}
    (records : FunctionSet.Records name home history functions)
    (named : ∀ declaration ∈ history, declaration.name = name) (runner : BodyRunner)
    (args : List Value) (span : Span) (caller : Machine) :
    (callFunction runner functions args span).on caller =
      callAfter runner name home history args span caller := by
  have resolved := records.entry args.length
  unfold callAfter
  cases governs : governing history args.length with
  | none =>
      rw [governs, Option.map_none] at resolved
      simp only [callFunction, resolved, records.mismatch_eq]
      rfl
  | some declaration =>
      rw [governs, Option.map_some] at resolved
      have same_name : declaration.name = name := named declaration (mem_of_governing governs).1
      cases defined : declaration.body with
      | none =>
          simp only [callFunction, resolved, callClosure, defined, same_name]
          rfl
      | some body =>
          by_cases room : caller.depth < maxCallDepth
          · simp only [defined, if_pos room]
            exact callFunction_on_of_room runner span resolved defined room
          · simp only [defined, if_neg room]
            rw [← same_name]
            exact callFunction_on_of_full runner span resolved defined (Nat.le_of_not_lt room)

end Calls

/-- Functions are found, and called, by the history of their declarations. -/
theorem calls_follow_declarations {turns : Nat} {run : BodyRunner} {name : String}
    {start machine : Machine} {history : List Declaration}
    (present : start.current < start.scopes.frames.size)
    (unseen : ∀ functions, start.lookup name ≠ some (.function functions))
    (declares : DeclaresFunctions turns run name start history machine)
    (some_declared : history ≠ []) :
    ∃ functions,
      machine.lookup name = some (.function functions) ∧
      FunctionSet.Records name start.current history functions ∧
      ∀ (runner : BodyRunner) (args : List Value) (span : Span) (caller : Machine)
        (computation : Run Value), IsCall runner functions args span caller computation →
        computation.on caller = callAfter runner name start.current history args span caller ∧
        ∀ declaration, governing history args.length = some declaration →
          ∀ (place : Nat) (param : String) (arg : Value), declaration.params[place]? = some param →
            args[place]? = some arg →
            (caller.enter ⟨declaration, start.current⟩ args).lookup param = some arg := by
  have well_formed := declares.named_and_distinct
  obtain ⟨functions, bound, records⟩ := (declares.reflects present unseen).2.seen some_declared
  refine ⟨functions, bound, records, fun runner args span caller computation is_call => ?_⟩
  have named : ∀ declaration ∈ history, declaration.name = name := fun declaration member =>
    (well_formed declaration member).1
  have follows := callFunction_on_of_records records named runner args span caller
  refine ⟨is_call.on_eq.trans follows, ?_⟩
  intro declaration governs place param arg param_there arg_there
  obtain ⟨member, counted⟩ := mem_of_governing governs
  exact Machine.lookup_enter ⟨declaration, start.current⟩ (well_formed declaration member).2 counted
    param_there arg_there caller

/-- A forward declaration with one parameter, its definition, and a forward declaration with two:
`fn f(a). fn f(a): give a. ; fn f(a, b).` -/
theorem calls_follow_three_declarations :
    let forward : Declaration := ⟨0, "f", ["a"], none⟩
    let defined : Declaration := ⟨1, "f", ["a"], some [.give (some (.variable "a" default)) default]⟩
    let other : Declaration := ⟨2, "f", ["a", "b"], none⟩
    let start := Machine.start (.start .closed .empty false .strict)
    let run := bodyRunner 0 1
    let declare (declaration : Declaration) (machine : Machine) : Machine :=
      ((declareFunction declaration).on machine).2
    let machine := declare other (declare defined (declare forward start))
    start.current < start.scopes.frames.size ∧
      (∀ functions, start.lookup "f" ≠ some (.function functions)) ∧
      DeclaresFunctions 0 run "f" start [forward, defined, other] machine ∧
      [forward, defined, other] ≠ [] ∧
      ∃ functions, machine.lookup "f" = some (.function functions) ∧
        functions.overloads.map (·.declaration.arity) = [1, 2] ∧
        ((call run "f" [.int 7] default).on machine).1 = .ok (.int 7) ∧
        ((call run "f" [.int 7, .int 8] default).on machine).1 =
          .error (.ofFault default (.running (.undefinedBody "f"))) ∧
        ((call run "f" [] default).on machine).1 =
          .error (.ofFault default (.miscounted (.overloads "f" [1, 2] 0))) := by
  intro forward defined other start run declare machine
  have present : start.current < start.scopes.frames.size := by decide
  have unseen : ∀ functions, start.lookup "f" ≠ some (.function functions) := nofun
  have declares : DeclaresFunctions 0 run "f" start [forward, defined, other] machine :=
    .declared other default
      (.declared defined default (.declared forward default .start rfl (by decide) rfl) rfl
        (by decide) rfl) rfl (by decide) rfl
  refine ⟨present, unseen, declares, nofun, ?_⟩
  obtain ⟨functions, bound, records, calls⟩ := calls_follow_declarations present unseen declares nofun
  have by_name (args : List Value) : ((call run "f" args default).on machine).1 =
      (callAfter run "f" start.current [forward, defined, other] args default machine).1 :=
    congrArg Prod.fst
      (calls run args default machine _ (.name "f" (by decide) (by decide) bound)).1
  refine ⟨functions, bound, records.counts.trans (by decide), ?_⟩
  exact ⟨by_name [.int 7], by_name [.int 7, .int 8], by_name []⟩

/-- After `fn len(a): give 7.` the call `len("ab")` is one of the built-in, which has the name before
any declaration, and at the greatest depth the body is not run through the value either. -/
theorem declared_function_is_not_called :
    let seven : List Stmt := [.give (some (.literal (.int "7") default)) default]
    let declaration : Declaration := ⟨0, "len", ["a"], some seven⟩
    let start := Machine.start (.start .closed .empty false .strict)
    let run := bodyRunner 0 1
    let machine := ((declareFunction declaration).on start).2
    let functions : FunctionSet := .single ⟨declaration, start.current⟩
    let args : List Value := [.string "ab"]
    (∀ functions, start.lookup "len" ≠ some (.function functions)) ∧
      DeclaresFunctions 0 run "len" start [declaration] machine ∧
      machine.lookup "len" = some (.function functions) ∧
      governing [declaration] args.length = some declaration ∧
      ((run seven).on (machine.enter ⟨declaration, start.current⟩ args)).1.map Flow.callResult =
        .ok (.int 7) ∧
      ((call run "len" args default).on machine).1 = .ok (.int 2) ∧
      ((callFunction run functions args default).on { machine with depth := maxCallDepth }).1 =
        .error (.ofFault default (.running (.callDepth "len"))) := by
  intro seven declaration start run machine functions args
  have declares : DeclaresFunctions 0 run "len" start [declaration] machine :=
    .declared declaration default .start rfl (by decide) rfl
  exact ⟨nofun, declares, rfl, rfl, rfl, rfl, rfl⟩

end Run
end DotScript
