import DotScript.Proofs.Run.Frames

/-!
# What echoing adds to a run

The value of an expression statement is echoed wherever the statement stands: at the top of a
program, in a block or in the body of a function.  To say where the echoed lines appear,
`executeThen` runs statements with any computation in the place of the echo.  The printed text is a
list of pieces, the texts that the program prints and the results of its expression statements, and
the pieces are the same whatever is printed for the results: `echo_adds_lines`.
-/

namespace DotScript

/-! ## The world -/

/-- The world with some other output, in which values are echoed or not. -/
def Host.seeing (output : String) (echo : Bool) (host : Host) : Host :=
  { host with output, echo }

namespace HostM

variable {α β : Type}

/-- The operation does not look at what was printed before or at whether values are echoed. -/
def IsBlind (operation : HostM α) : Prop :=
  ∀ host : Host, ∃ (outcome : Except Failure α) (after : Host) (printed : String), ∀ output echo,
    operation.run.run (host.seeing output echo) = (outcome, after.seeing (output ++ printed) echo)

namespace IsBlind

theorem pure (value : α) : IsBlind (pure value) :=
  fun host => ⟨.ok value, host, "", fun output _ => by rw [String.append_empty]; rfl⟩

theorem throw (failure : Failure) : IsBlind (throw failure : HostM α) :=
  fun host => ⟨.error failure, host, "", fun output _ => by rw [String.append_empty]; rfl⟩

theorem ofExcept (result : Except Fault α) : IsBlind (ofExcept result) := by
  cases result with
  | ok value => exact .pure value
  | error cause => exact .throw _

theorem bind {first : HostM α} {next : α → HostM β} (blind : first.IsBlind)
    (later : ∀ value, (next value).IsBlind) : (first >>= next).IsBlind := by
  intro host
  obtain ⟨outcome, middle, printed, first_run⟩ := blind host
  cases outcome with
  | error failure =>
      refine ⟨.error failure, middle, printed, fun output echo => ?_⟩
      rw [run_bind, first_run]
  | ok value =>
      obtain ⟨outcome, after, printed', next_run⟩ := later value middle
      refine ⟨outcome, after, printed ++ printed', fun output echo => ?_⟩
      rw [run_bind, first_run, ← String.append_assoc, ← next_run]

theorem print (text : String) : (print text).IsBlind :=
  fun host => ⟨.ok (), host, text, fun _ _ => rfl⟩

theorem keepDisk (disk : Disk) : (keepDisk disk).IsBlind :=
  fun host => ⟨.ok (), { host with disk }, "", fun _ _ => by rw [String.append_empty]; rfl⟩

theorem get_bind {next : Host → HostM α} (blind : ∀ host, (next host).IsBlind)
    (same : ∀ host output echo, next (host.seeing output echo) = next host) :
    (get >>= next).IsBlind := by
  intro host
  obtain ⟨outcome, after, printed, run⟩ := blind host host
  refine ⟨outcome, after, printed, fun output echo => ?_⟩
  rw [← run output echo, ← same host output echo]
  rfl

theorem sort (function : String) (items : List Value) : (sort function items).IsBlind := by
  refine fun host => ⟨Value.sort host.sorter function items, host, "", fun output echo => ?_⟩
  rw [sort_run, String.append_empty]
  rfl

theorem readLine : readLine.IsBlind := by
  rintro ⟨output, input, disk, echo, sorter⟩
  cases input with
  | closed => exact throw (.fault (.hosting .noInput)) ⟨output, .closed, disk, echo, sorter⟩
  | lines lines =>
      cases lines with
      | nil => exact pure none ⟨output, .lines [], disk, echo, sorter⟩
      | cons line rest => exact pure (some line) ⟨output, .lines rest, disk, echo, sorter⟩
  | stream bytes =>
      refine ⟨((streamLine bytes).1.map (Option.map dropLineEnds)).mapError .system,
        ⟨output, .stream (streamLine bytes).2, disk, echo, sorter⟩, "", fun output echo => ?_⟩
      rw [String.append_empty]
      exact readLine_run_stream output bytes disk echo sorter

end IsBlind
end HostM

namespace Builtin

open HostM

theorem readInput_isBlind : readInput.IsBlind :=
  .bind .readLine fun _ => .pure _

theorem fileText_isBlind (function : String) (path : Value) :
    (fileText function path).IsBlind := by
  refine .bind (.ofExcept _) fun path => .get_bind (fun host => ?_) fun _ _ _ => rfl
  split
  · exact .pure _
  · exact .throw _

theorem writeFile_isBlind (path data : Value) (mode : Option Value) :
    (writeFile path data mode).IsBlind := by
  refine .bind (.ofExcept _) fun path => .bind (.ofExcept _) fun append =>
    .get_bind (fun host => ?_) fun _ _ _ => rfl
  split
  · exact .bind (.keepDisk _) fun _ => .pure _
  · exact .throw _

theorem sortedItems_isBlind (collection : Value) (descending : Bool) :
    (sortedItems collection descending).IsBlind :=
  .bind (.ofExcept _) fun _ => .bind (.sort _ _) fun _ => .pure _

/-- Built-ins do not look at what was printed before or at whether values are echoed. -/
theorem call_isBlind (builtin : Builtin) (args : List Value) : (builtin.call args).IsBlind := by
  unfold call
  split
  · exact .bind (.print _) fun _ => .pure _
  · exact .bind (.print _) fun _ => .pure _
  · exact readInput_isBlind
  · exact .bind (.print _) fun _ => readInput_isBlind
  · exact .bind (fileText_isBlind _ _) fun _ => .pure _
  · exact .bind (fileText_isBlind _ _) fun _ => .pure _
  · exact writeFile_isBlind _ _ _
  · exact writeFile_isBlind _ _ _
  · exact sortedItems_isBlind _ _
  · exact sortedItems_isBlind _ _
  · exact .ofExcept _

end Builtin

/-- Methods do not look at them either. -/
theorem Value.invoke_isBlind (receiver : Value) (name : String) (args : List Value) :
    (receiver.invoke name args).IsBlind := by
  unfold invoke
  split
  · exact .bind (.sort _ _) fun _ => .pure _
  · exact .ofExcept _

/-! ## Pieces of the printed text -/

/-- A piece of what is printed while a program runs. -/
inductive Piece
  /-- Text that the program prints. -/
  | text (printed : String)
  /-- The value of an expression statement, in the place of a text for it. -/
  | result (value : Value)

/-- The printed text, with a text for each result. -/
def Piece.fill (line : Value → String) : List Piece → String
  | [] => ""
  | .text printed :: rest => printed ++ fill line rest
  | .result value :: rest => line value ++ fill line rest

@[simp]
theorem Piece.fill_append (line : Value → String) (pieces pieces' : List Piece) :
    fill line (pieces ++ pieces') = fill line pieces ++ fill line pieces' := by
  induction pieces with
  | nil => simp [fill]
  | cons piece rest ih => cases piece <;> simp [fill, ih, String.append_assoc]

/-- Whether a statement is an expression. -/
def Stmt.isExpression : Stmt → Bool
  | .expression _ _ => true
  | _ => false

/-- The line that is echoed for a result; there is none for none. -/
def echoLine (value : Value) : String :=
  if value.isNone then "" else value.display ++ "\n"

/-- The machine with some other output, on which values are echoed or not. -/
def Machine.seeing (output : String) (echo : Bool) (machine : Machine) : Machine :=
  { machine with host := machine.host.seeing output echo }

namespace Run

/-! ## Anything in the place of the echo -/

mutual

/-- Executes a statement, with a computation after each expression statement. -/
def executeThen (after : Value → Run Unit) (turns : Nat) (run : BodyRunner) : Stmt → Run Flow
  | .choose arms _ => executeArmsThen after turns run arms
  | .whileLoop condition body _ =>
    repeatWhile (evaluate run condition) (executeBlockThen after turns run body) turns
  | .forRange name first last step body span => do
    let first ← rangeBound run first
    let last ← rangeBound run last
    let step ← rangeStep run step span
    countRange turns name (executeBlockThen after turns run body) first last step
  | .forIn name items body _ => do
    let value ← evaluate run items
    match value.elements? with
    | some elements => forEach name (executeBlockThen after turns run body) elements
    | none => fault items.span (.mistyped (.notIterable value.kind))
  | .expression value _ => do
    let value ← evaluate run value
    after value
    return .value value
  | stmt => execute turns run stmt

/-- Executes the statements of a block until one gives. -/
def executeBlockThen (after : Value → Run Unit) (turns : Nat) (run : BodyRunner) :
    List Stmt → Run Flow
  | [] => return .next
  | stmt :: rest => do
    match ← executeThen after turns run stmt with
    | .give result => return .give result
    | _ => executeBlockThen after turns run rest

/-- Executes the first block whose condition holds. -/
def executeArmsThen (after : Value → Run Unit) (turns : Nat) (run : BodyRunner) : Arms → Run Flow
  | .arm condition body others => do
    if (← evaluate run condition).truthy then executeBlockThen after turns run body
    else executeArmsThen after turns run others
  | .otherwise body => executeBlockThen after turns run body
  | .nothing => return .next

end

/-- Runs the bodies of functions, with a computation after each expression statement. -/
def bodyRunnerThen (after : Value → Run Unit) (turns : Nat) : Nat → BodyRunner
  | 0 => fun _ => throw (.unfinished .calls)
  | levels + 1 => fun body => executeBlockThen after turns (bodyRunnerThen after turns levels) body

/-- Executes the statements of a program, with a computation after each expression statement,
wherever it stands. -/
def runProgramThen (after : Value → Run Unit) (turns : Nat) (last : Value) : Program → Run Value
  | [] => return last
  | stmt :: rest => do
    match ← executeThen after turns (bodyRunnerThen after turns maxCallDepth) stmt with
    | .next => runProgramThen after turns last rest
    | .value result => runProgramThen after turns result rest
    | .give _ => fault stmt.span (.running .giveOutside)

mutual

/-- With the echo in its place, execution is as it was. -/
theorem executeThen_echo (turns : Nat) (run : BodyRunner) :
    ∀ stmt : Stmt, executeThen echo turns run stmt = execute turns run stmt
  | .choose arms _ => by rw [executeThen, execute, executeArmsThen_echo turns run arms]
  | .whileLoop condition body _ => by
      rw [executeThen, execute, executeBlockThen_echo turns run body]
  | .forRange name first last step body span => by
      rw [executeThen, execute, executeBlockThen_echo turns run body]
  | .forIn name items body _ => by
      rewrite [executeThen, execute, executeBlockThen_echo turns run body]
      rfl
  | .expression value _ => by rw [executeThen, execute]
  | .var _ _ | .letBe _ _ _ | .assign _ _ _ _ | .define _ _ _ _ _ | .give _ _ | .pass _ => by
      rw [executeThen] <;> nofun

theorem executeBlockThen_echo (turns : Nat) (run : BodyRunner) :
    ∀ block : List Stmt, executeBlockThen echo turns run block = executeBlock turns run block
  | [] => by rw [executeBlockThen, executeBlock]
  | stmt :: rest => by
      rewrite [executeBlockThen, executeBlock, executeThen_echo turns run stmt,
        executeBlockThen_echo turns run rest]
      rfl

theorem executeArmsThen_echo (turns : Nat) (run : BodyRunner) :
    ∀ arms : Arms, executeArmsThen echo turns run arms = executeArms turns run arms
  | .arm condition body others => by
      rw [executeArmsThen, executeArms, executeBlockThen_echo turns run body,
        executeArmsThen_echo turns run others]
  | .otherwise body => by rw [executeArmsThen, executeArms, executeBlockThen_echo turns run body]
  | .nothing => by rw [executeArmsThen, executeArms]

end

theorem bodyRunnerThen_echo (turns levels : Nat) :
    bodyRunnerThen echo turns levels = bodyRunner turns levels := by
  induction levels with
  | zero => rfl
  | succ levels ih =>
      funext body
      rw [bodyRunnerThen, bodyRunner, ih]
      exact executeBlockThen_echo turns _ body

theorem runProgramThen_echo (turns : Nat) (last : Value) (program : Program) :
    runProgramThen echo turns last program = runProgram turns last program := by
  induction program generalizing last with
  | nil => rfl
  | cons stmt rest ih =>
      rw [runProgramThen, runProgram, bodyRunnerThen_echo, executeThen_echo, executeTop]
      refine congrArg (execute turns (bodyRunner turns maxCallDepth) stmt >>= ·) ?_
      funext flow
      cases flow with
      | next => exact ih last
      | value result => exact ih result
      | give result => rfl

/-! ## Runs that print the same pieces -/

/-- A way to print something for the results of expression statements. -/
structure Manner where
  /-- What is done after an expression statement. -/
  after : Value → Run Unit
  /-- Whether values are echoed. -/
  echo : Bool
  /-- What is printed for a result. -/
  line : Value → String
  /-- What is done is to print it. -/
  prints : ∀ (value : Value) (output : String) (machine : Machine),
    (after value).on (machine.seeing output echo) =
      (.ok (), machine.seeing (output ++ line value) echo)

namespace Manner

/-- Values are not echoed. -/
def quiet : Manner where
  after := Run.echo
  echo := false
  line _ := ""
  prints _ output _ := by
    rw [String.append_empty]
    rfl

/-- Values are echoed. -/
def echoing : Manner where
  after := Run.echo
  echo := true
  line := echoLine
  prints value output machine := by
    unfold echoLine Run.echo
    rw [on_bind_of_ok (on_get _)]
    cases value.isNone with
    | false => rfl
    | true =>
        rw [if_pos rfl, String.append_empty]
        rfl

/-- Some text is printed for each value, and nothing is echoed. -/
def saying (line : Value → String) : Manner where
  after value := print (line value)
  echo := false
  line := line
  prints _ _ _ := rfl

end Manner

section Uniform

variable {α β : Type}

/-- The computation comes to the same outcome and prints the same pieces in every manner. -/
def IsUniform (computation : Manner → Run α) : Prop :=
  ∀ machine : Machine, ∃ (outcome : Except Halt α) (after : Machine) (pieces : List Piece),
    ∀ (manner : Manner) (output : String),
      (computation manner).on (machine.seeing output manner.echo) =
        (outcome, after.seeing (output ++ Piece.fill manner.line pieces) manner.echo)

namespace IsUniform

theorem pure (value : α) : IsUniform fun _ => (pure value : Run α) :=
  fun machine => ⟨.ok value, machine, [], fun _ _ => by rw [Piece.fill, String.append_empty]; rfl⟩

theorem throw (halt : Halt) : IsUniform fun _ => (throw halt : Run α) :=
  fun machine => ⟨.error halt, machine, [], fun _ _ => by rw [Piece.fill, String.append_empty]; rfl⟩

theorem fault (span : Span) (cause : Fault) : IsUniform fun _ => (fault span cause : Run α) :=
  .throw _

theorem bind {first : Manner → Run α} {next : Manner → α → Run β} (uniform : IsUniform first)
    (later : ∀ value, IsUniform fun manner => next manner value) :
    IsUniform fun manner => first manner >>= next manner := by
  intro machine
  obtain ⟨outcome, middle, pieces, first_run⟩ := uniform machine
  cases outcome with
  | error halt =>
      exact ⟨.error halt, middle, pieces, fun manner output =>
        on_bind_of_error (first_run manner output) _⟩
  | ok value =>
      obtain ⟨outcome, after, pieces', next_run⟩ := later value middle
      refine ⟨outcome, after, pieces ++ pieces', fun manner output => ?_⟩
      rw [on_bind_of_ok (first_run manner output), next_run, Piece.fill_append, String.append_assoc]

/-- What is looked up on the machine is not its output, nor whether it echoes. -/
theorem get_bind {next : Manner → Machine → Run α}
    (uniform : ∀ machine, IsUniform fun manner => next manner machine)
    (same : ∀ manner machine output echo,
      next manner (machine.seeing output echo) = next manner machine) :
    IsUniform fun manner => get >>= next manner := by
  intro machine
  obtain ⟨outcome, after, pieces, run⟩ := uniform machine machine
  refine ⟨outcome, after, pieces, fun manner output => ?_⟩
  rw [on_bind_of_ok (on_get _), same, run]

theorem modify {change : Machine → Machine}
    (same : ∀ machine output echo,
      change (machine.seeing output echo) = (change machine).seeing output echo) :
    IsUniform fun _ => (modify change : Run Unit) := by
  intro machine
  refine ⟨.ok (), change machine, [], fun manner output => ?_⟩
  rw [on_modify, same, Piece.fill, String.append_empty]

/-- The one place where manners differ. -/
theorem after (value : Value) : IsUniform fun manner => manner.after value := by
  intro machine
  refine ⟨.ok (), machine, [.result value], fun manner output => ?_⟩
  rw [manner.prints, Piece.fill, Piece.fill, String.append_empty]

theorem ofExcept (span : Span) (result : Except Fault α) :
    IsUniform fun _ => ofExcept span result := by
  cases result with
  | ok value => exact .pure value
  | error cause => exact .fault span cause

theorem ofHost (span : Span) {operation : HostM α} (blind : operation.IsBlind) :
    IsUniform fun _ => ofHost span operation := by
  intro machine
  obtain ⟨outcome, after, printed, run⟩ := blind machine.host
  refine ⟨outcome.mapError (Halt.ofFailure span), { machine with host := after }, [.text printed],
    fun manner output => ?_⟩
  have world : (machine.seeing output manner.echo).host =
      machine.host.seeing output manner.echo := rfl
  rw [on_ofHost, world, run, Piece.fill, Piece.fill, String.append_empty]
  rfl

theorem readName (name : String) (span : Span) : IsUniform fun _ => readName name span := by
  refine .get_bind (fun machine => ?_) fun _ _ _ _ => rfl
  cases machine.scopes.get machine.current name with
  | ok value => exact .pure value
  | error cause => exact .fault span _

theorem define (name : String) (value : Value) : IsUniform fun _ => define name value :=
  .modify fun _ _ _ => rfl

theorem assign (name : String) (value : Value) (span : Span) :
    IsUniform fun _ => assign name value span := by
  refine .get_bind (fun machine => ?_) fun _ _ _ _ => rfl
  cases machine.scopes.assignFault? machine.current name with
  | none => exact .define name value
  | some cause => exact .fault span _

theorem inCall (closure : Closure) (args : List Value) {body : Manner → Run α}
    (uniform : IsUniform body) : IsUniform fun manner => inCall closure args (body manner) := by
  intro machine
  obtain ⟨outcome, after, pieces, run⟩ := uniform (machine.enter closure args)
  refine ⟨outcome, after.leave machine.current, pieces, fun manner output => ?_⟩
  have entered : (machine.seeing output manner.echo).enter closure args =
      (machine.enter closure args).seeing output manner.echo := rfl
  rw [on_inCall, entered, run]
  rfl

end IsUniform

end Uniform

/-! ## Evaluation -/

section Evaluation

variable {run : Manner → BodyRunner}

/-- The bodies of functions print the same pieces in every manner. -/
def RunsUniformly (run : Manner → BodyRunner) : Prop :=
  ∀ body, IsUniform fun manner => run manner body

theorem callClosure_isUniform (bodies : RunsUniformly run) (closure : Closure) (args : List Value)
    (span : Span) : IsUniform fun manner => callClosure (run manner) closure args span := by
  unfold callClosure
  cases closure.declaration.body with
  | none => exact .fault span _
  | some body =>
      refine .get_bind (fun machine => ?_) fun _ _ _ _ => rfl
      split
      · exact .fault span _
      · exact .bind (.inCall closure args (bodies body)) fun flow => .pure _

theorem callFunction_isUniform (bodies : RunsUniformly run) (functions : FunctionSet)
    (args : List Value) (span : Span) :
    IsUniform fun manner => callFunction (run manner) functions args span := by
  unfold callFunction
  cases functions.resolve args.length with
  | none => exact .fault span _
  | some closure => exact callClosure_isUniform bodies closure args span

theorem callNamed_isUniform (bodies : RunsUniformly run) (name : String) (args : List Value)
    (span : Span) : IsUniform fun manner => callNamed (run manner) name args span := by
  unfold callNamed
  cases Builtin.ofName? name with
  | some builtin => exact .ofHost span (builtin.call_isBlind args)
  | none =>
      refine .get_bind (fun machine => ?_) fun _ _ _ _ => rfl
      split
      · exact callFunction_isUniform bodies _ args span
      · exact .fault span _
      · exact .fault span _

theorem applyTo_isUniform (bodies : RunsUniformly run) (function item : Value) (span : Span) :
    IsUniform fun manner => applyTo (run manner) function item span := by
  unfold applyTo
  split
  · exact callFunction_isUniform bodies _ _ span
  · split
    · exact .fault span _
    · exact callNamed_isUniform bodies _ _ span
  · exact .fault span _

theorem applyToAll_isUniform (bodies : RunsUniformly run) (function : Value) (span : Span)
    (results items : List Value) :
    IsUniform fun manner => applyToAll (run manner) function span results items := by
  induction items generalizing results with
  | nil => exact .pure _
  | cons item rest ih =>
      exact .bind (applyTo_isUniform bodies function item span) fun result => ih _

theorem call_isUniform (bodies : RunsUniformly run) (name : String) (args : List Value)
    (span : Span) : IsUniform fun manner => Run.call (run manner) name args span := by
  unfold Run.call mapCall
  split
  · split
    · split
      · exact .bind (applyToAll_isUniform bodies _ span [] _) fun results => .pure _
      · exact .fault span _
    · exact .fault span _
  · exact callNamed_isUniform bodies name args span

mutual

/-- An expression prints the same pieces in every manner. -/
theorem evaluate_isUniform (bodies : RunsUniformly run) :
    ∀ expr : Expr, IsUniform fun manner => evaluate (run manner) expr
  | .literal value span => by
      simp only [evaluate]
      exact .ofExcept span _
  | .variable name span => by
      simp only [evaluate]
      exact .readName name span
  | .binary op left right span => by
      have left_uniform := evaluate_isUniform bodies left
      have right_uniform := evaluate_isUniform bodies right
      by_cases is_and : op = .and
      · subst is_and
        simp only [evaluate]
        refine .bind left_uniform fun value => ?_
        split
        · exact .bind right_uniform fun other => .pure _
        · exact .pure _
      by_cases is_or : op = .or
      · subst is_or
        simp only [evaluate]
        refine .bind left_uniform fun value => ?_
        split
        · exact .pure _
        · exact .bind right_uniform fun other => .pure _
      simp only [evaluate_binary _ is_and is_or]
      exact .bind left_uniform fun value => .bind right_uniform fun other => .ofExcept span _
  | .unary op operand span => by
      simp only [evaluate]
      exact .bind (evaluate_isUniform bodies operand) fun value => .ofExcept span _
  | .call name args span => by
      simp only [evaluate]
      exact .bind (evaluateAll_isUniform bodies args) fun values =>
        call_isUniform bodies name values span
  | .method receiver name args span => by
      simp only [evaluate]
      exact .bind (evaluate_isUniform bodies receiver) fun value =>
        .bind (evaluateAll_isUniform bodies args) fun values =>
          .ofHost span (value.invoke_isBlind name values)
  | .list items _ => by
      simp only [evaluate]
      exact .bind (evaluateAll_isUniform bodies items) fun values => .pure _
  | .set items _ => by
      simp only [evaluate]
      exact .bind (evaluateAll_isUniform bodies items) fun values => .pure _

theorem evaluateAll_isUniform (bodies : RunsUniformly run) :
    ∀ exprs : List Expr, IsUniform fun manner => evaluateAll (run manner) exprs
  | [] => by
      simp only [evaluateAll]
      exact .pure _
  | expr :: rest => by
      simp only [evaluateAll]
      exact .bind (evaluate_isUniform bodies expr) fun value =>
        .bind (evaluateAll_isUniform bodies rest) fun values => .pure _

end

end Evaluation

/-! ## Execution -/

section Execution

variable {run : Manner → BodyRunner} {body : Manner → Run Flow}

/-- A loop goes on after its body unless that gives. -/
theorem IsUniform.unlessGiven {next : Manner → Run Flow} (body_uniform : IsUniform body)
    (next_uniform : IsUniform next) :
    IsUniform (fun manner => do
      match ← body manner with
      | .give result => return .give result
      | _ => next manner) := by
  refine .bind body_uniform fun flow => ?_
  cases flow with
  | give result => exact .pure _
  | _ => exact next_uniform

theorem repeatWhile_isUniform {condition : Manner → Run Value}
    (condition_uniform : IsUniform condition) (body_uniform : IsUniform body) (turns : Nat) :
    IsUniform fun manner => repeatWhile (condition manner) (body manner) turns := by
  induction turns with
  | zero => exact .throw _
  | succ turns ih =>
      refine .bind condition_uniform fun value => ?_
      split
      · exact .unlessGiven body_uniform ih
      · exact .pure _

theorem forEach_isUniform (name : String) (body_uniform : IsUniform body) (items : List Value) :
    IsUniform fun manner => forEach name (body manner) items := by
  induction items with
  | nil => exact .pure _
  | cons item rest ih => exact .bind (.define name item) fun _ => .unlessGiven body_uniform ih

theorem countFrom_isUniform (name : String) (body_uniform : IsUniform body) (step : Int)
    (terms : Nat) (term : Int) :
    IsUniform fun manner => countFrom name (body manner) step terms term := by
  induction terms generalizing term with
  | zero => exact .pure _
  | succ terms ih => exact .bind (.define name _) fun _ => .unlessGiven body_uniform (ih _)

theorem countFloats_isUniform (name : String) (body_uniform : IsUniform body) (last step : Float)
    (turns : Nat) (term : Float) :
    IsUniform fun manner => countFloats name (body manner) last step turns term := by
  induction turns generalizing term with
  | zero => exact .throw _
  | succ turns ih =>
      unfold countFloats
      split
      · exact .bind (.define name _) fun _ => .unlessGiven body_uniform (ih _)
      · exact .pure _

theorem countRange_isUniform (turns : Nat) (name : String) (body_uniform : IsUniform body)
    (first last : Number) (step : Option Number) :
    IsUniform fun manner => countRange turns name (body manner) first last step := by
  simp only [countRange_eq]
  split
  · exact countFrom_isUniform name body_uniform _ _ _
  · exact countFrom_isUniform name body_uniform _ _ _
  · exact countFloats_isUniform name body_uniform _ _ _ _

theorem rangeBound_isUniform (bodies : RunsUniformly run) (bound : Expr) :
    IsUniform fun manner => rangeBound (run manner) bound := by
  refine .bind (evaluate_isUniform bodies bound) fun value => ?_
  cases value.number? with
  | none => exact .fault _ _
  | some number => exact .pure _

theorem rangeStep_isUniform (bodies : RunsUniformly run) (step : Option Expr) (span : Span) :
    IsUniform fun manner => rangeStep (run manner) step span := by
  cases step with
  | none => exact .pure _
  | some step =>
      refine .bind (rangeBound_isUniform bodies step) fun number => ?_
      split
      · exact .fault span _
      · exact .pure _

theorem evaluateOptional_isUniform (bodies : RunsUniformly run) (expr : Option Expr) :
    IsUniform fun manner => evaluateOptional (run manner) expr := by
  cases expr with
  | none => exact .pure _
  | some expr => exact evaluate_isUniform bodies expr

theorem declareAll_isUniform (bodies : RunsUniformly run)
    (bindings : List (String × Option Expr)) :
    IsUniform fun manner => declareAll (run manner) bindings := by
  induction bindings with
  | nil => exact .pure _
  | cons binding rest ih =>
      exact .bind (evaluateOptional_isUniform bodies binding.2) fun value =>
        .bind (.define binding.1 value) fun _ => ih

theorem assignValue_isUniform (name : String) (op : Option BinaryOp) (value : Value)
    (span : Span) : IsUniform fun _ => assignValue name op value span := by
  cases op with
  | none => exact .assign name value span
  | some op =>
      exact .bind (.readName name span) fun old =>
        .bind (.ofExcept span _) fun value => .assign name value span

theorem declareFunction_isUniform (declaration : Declaration) :
    IsUniform fun _ => declareFunction declaration :=
  .get_bind (fun _ => .define _ _) fun _ _ _ _ => rfl

mutual

/-- A statement prints the same pieces in every manner, with a result for each expression
statement. -/
theorem executeThen_isUniform (bodies : RunsUniformly run) (turns : Nat) :
    ∀ stmt : Stmt, IsUniform fun manner => executeThen manner.after turns (run manner) stmt
  | .var bindings _ => by
      simp only [executeThen, execute]
      exact .bind (declareAll_isUniform bodies bindings) fun _ => .pure _
  | .letBe name value _ => by
      simp only [executeThen, execute]
      exact .bind (evaluate_isUniform bodies value) fun value =>
        .bind (.define name value) fun _ => .pure _
  | .assign name op value span => by
      simp only [executeThen, execute]
      exact .bind (evaluate_isUniform bodies value) fun value =>
        .bind (assignValue_isUniform name op value span) fun _ => .pure _
  | .choose arms _ => by
      simp only [executeThen]
      exact executeArmsThen_isUniform bodies turns arms
  | .whileLoop condition body _ => by
      simp only [executeThen]
      exact repeatWhile_isUniform (evaluate_isUniform bodies condition)
        (executeBlockThen_isUniform bodies turns body) turns
  | .forRange name first last step body span => by
      simp only [executeThen]
      exact .bind (rangeBound_isUniform bodies first) fun first =>
        .bind (rangeBound_isUniform bodies last) fun last =>
          .bind (rangeStep_isUniform bodies step span) fun step =>
            countRange_isUniform turns name (executeBlockThen_isUniform bodies turns body) _ _ _
  | .forIn name items body _ => by
      simp only [executeThen]
      refine .bind (evaluate_isUniform bodies items) fun value => ?_
      cases value.elements? with
      | none => exact .fault _ _
      | some elements =>
          exact forEach_isUniform name (executeBlockThen_isUniform bodies turns body) elements
  | .define label name params body _ => by
      simp only [executeThen, execute]
      exact .bind (declareFunction_isUniform { label, name, params, body }) fun _ => .pure _
  | .expression value _ => by
      simp only [executeThen]
      exact .bind (evaluate_isUniform bodies value) fun value =>
        .bind (.after value) fun _ => .pure _
  | .give value _ => by
      simp only [executeThen, execute]
      exact .bind (evaluateOptional_isUniform bodies value) fun value => .pure _
  | .pass _ => by
      simp only [executeThen, execute]
      exact .pure _

theorem executeBlockThen_isUniform (bodies : RunsUniformly run) (turns : Nat) :
    ∀ block : List Stmt,
      IsUniform fun manner => executeBlockThen manner.after turns (run manner) block
  | [] => by
      simp only [executeBlockThen]
      exact .pure _
  | stmt :: rest => by
      simp only [executeBlockThen]
      exact .unlessGiven (executeThen_isUniform bodies turns stmt)
        (executeBlockThen_isUniform bodies turns rest)

theorem executeArmsThen_isUniform (bodies : RunsUniformly run) (turns : Nat) :
    ∀ arms : Arms, IsUniform fun manner => executeArmsThen manner.after turns (run manner) arms
  | .arm condition body others => by
      simp only [executeArmsThen]
      refine .bind (evaluate_isUniform bodies condition) fun value => ?_
      split
      · exact executeBlockThen_isUniform bodies turns body
      · exact executeArmsThen_isUniform bodies turns others
  | .otherwise body => by
      simp only [executeArmsThen]
      exact executeBlockThen_isUniform bodies turns body
  | .nothing => by
      simp only [executeArmsThen]
      exact .pure _

end

end Execution

theorem bodyRunnerThen_runsUniformly (turns levels : Nat) :
    RunsUniformly fun manner => bodyRunnerThen manner.after turns levels := by
  induction levels with
  | zero =>
      intro body
      exact .throw _
  | succ levels ih =>
      intro body
      exact executeBlockThen_isUniform ih turns body

/-- A program prints the same pieces in every manner. -/
theorem runProgramThen_isUniform (turns : Nat) (last : Value) (program : Program) :
    IsUniform fun manner => runProgramThen manner.after turns last program := by
  induction program generalizing last with
  | nil => exact .pure _
  | cons stmt rest ih =>
      have bodies := bodyRunnerThen_runsUniformly turns maxCallDepth
      refine .bind (executeThen_isUniform bodies turns stmt) fun flow => ?_
      cases flow with
      | next => exact ih last
      | value result => exact ih result
      | give result => exact .fault _ _

/-- Whether values are echoed makes a difference to the printed text alone: the program comes to the
same outcome, and leaves the same frames, files and input behind.  The text that is printed with the
echo is the text that is printed without it, with the line for its value after each expression
statement that is executed, at the top of the program, in a block or in a function, unless the value
is none.  Where these statements come between the printed texts is seen from the programs that print
anything else in the place of the echo. -/
theorem echo_adds_lines (turns : Nat) (last : Value) (program : Program) (machine : Machine)
    (output : String) :
    let quiet := (runProgram turns last program).on (machine.seeing output false)
    let loud := (runProgram turns last program).on (machine.seeing output true)
    ∃ pieces : List Piece,
      loud.1 = quiet.1 ∧
      loud.2 = quiet.2.seeing (output ++ Piece.fill echoLine pieces) true ∧
      quiet.2.host.output = output ++ Piece.fill (fun _ => "") pieces ∧
      runProgramThen echo turns last program = runProgram turns last program ∧
      ∀ line, ((runProgramThen (fun value => print (line value)) turns last program).on
        (machine.seeing output false)).2.host.output = output ++ Piece.fill line pieces := by
  intro quiet loud
  obtain ⟨outcome, after, pieces, run⟩ := runProgramThen_isUniform turns last program machine
  have same := runProgramThen_echo turns last program
  have ran (manner : Manner) (echoes : manner.after = echo) :
      (runProgram turns last program).on (machine.seeing output manner.echo) =
        (outcome, after.seeing (output ++ Piece.fill manner.line pieces) manner.echo) := by
    rw [← same, ← echoes]
    exact run manner output
  have quiet_run : quiet = _ := ran .quiet rfl
  have loud_run : loud = _ := ran .echoing rfl
  refine ⟨pieces, ?_, ?_, ?_, same, fun line => ?_⟩
  · rw [quiet_run, loud_run]
  · rw [quiet_run, loud_run]
    rfl
  · rw [quiet_run]
    rfl
  · have said := run (.saying line) output
    exact congrArg (fun result => result.2.host.output) said

/-- A statement in a block is echoed, though no statement at the top of the program is an
expression. -/
theorem statement_in_block_is_echoed :
    let source := "if 1: 5. ;"
    let output (echo : Bool) :=
      ((evalSource 1 source).on (.start (.start .closed .empty echo .strict))).2.host.output
    (Program.parse source).toOption.map (fun program => program.map Stmt.isExpression) =
        some [false] ∧
      output false = "" ∧ output true = "5\n" := by
  decide +kernel

end Run
end DotScript
