import DotScript.Proofs.Parser.Indexed.Expressions

/-!
# Walking over statements

The walkers for statements, each with the reason why it comes to the same as the parser it stands
beside.  A statement may begin with an expression, so it is walked over with as much fuel as
expressions have; the statements of a block come after a token at least.
-/

namespace DotScript
namespace Walker

open Cursor

variable {tokens : List Token} {depth fuel : Nat} {cursor : Cursor} {below : Rules}
  {below' : Parser.Grammar} [below'.Orderly]

/-- The end of a statement. -/
def terminator : Walker Unit := do
  if ← accept .dot then return ()
  else if Parser.endsStatement (← peekKind) then return ()
  else refuse (.mark "." "to end the statement")

theorem terminator_walks : WalksAt tokens depth fuel cursor terminator Parser.terminator := by
  refine .accept_then (by decide) (fun _ => .pure ()) (.peekKind ?_)
  exact .ite (fun _ => .pure ()) fun _ => .refuse _

/-- A point after a block is allowed and means nothing. -/
def skipPoint : Walker Unit := do
  let _ ← accept .dot

theorem skipPoint_walks : WalksAt tokens depth fuel cursor skipPoint Parser.skipPoint :=
  .bind (.accept (by decide)) fun _ => .pure ()

/-- The statements up to the end of a block, which is not taken. -/
def block (below : Rules) (ends : Token.Kind → Bool) : Walker (List Stmt) := do
  let stmts ← loop
    (fun stmts => do
      if ends (← peekKind) then return none
      else if ← atEnd then refuse (.mark ";" "to close the block")
      else return some ((← below.statement) :: stmts))
    below.turns []
  return stmts.reverse

theorem block_walks (serves : below.Serves tokens depth fuel below') (ends : Token.Kind → Bool) :
    WalksAt tokens depth (fuel - 1) cursor (block below ends) (Parser.block below' ends) := by
  have enough : fuel - 1 ≤ below.turns := Nat.le_trans (Nat.sub_le _ _) serves.turns
  refine .bind (.loop Parser.blockStep_shorter ?_ enough []) fun _ => .pure _
  refine .peekKind (.ite (fun _ => .pure none) fun _ => .of_walk walk_atEnd (.of_run rfl ?_))
  exact .ite (fun _ => .refuse _) fun _ => .bind serves.statement fun _ => .pure _

/-! ## Declarations -/

/-- One variable of a declaration and its value, if it has one. -/
def binding (below : Rules) : Walker (String × Option Expr) := do
  let name ← expectName "variable name after `var`"
  if ← accept .assign then return (name.text, some (← below.expression))
  else return (name.text, none)

theorem binding_walks (serves : below.Serves tokens depth fuel below') :
    WalksAt tokens depth fuel cursor (binding below) (Parser.binding below') := by
  refine .bind (.expectName _) fun _ => .accept_then (by decide) (fun _ => ?_) (.pure _)
  exact .bind (serves.mono (Nat.sub_le _ _)).expression fun _ => .pure _

/-- The span up to the last token that was taken. -/
def spanFrom (start : Span) : Walker Span := do
  return start.to (← previous).span

/-- Once a token was taken, there is one for a span to end with. -/
theorem spanFrom_walks {α : Type} {parser : Parser α} [Parser.Moves parser] {value : α}
    {middle : Cursor} {first : Token} (taken : cursor.previous = some first)
    (run : parser.run cursor = .ok (value, middle)) (start : Span) :
    WalksAt tokens depth fuel middle (spanFrom start) (Parser.spanFrom start) := by
  obtain ⟨_, passes⟩ := Parser.Moves.passes run
  obtain ⟨last, last_taken⟩ := Option.ne_none_iff_exists'.1
    (passes.previous_ne_none (taken ▸ Option.some_ne_none _))
  refine .of_walk (walk_previous · last_taken) (.of_run rfl ?_)
  rw [last_taken]
  exact .pure _

/-- A declaration of variables. -/
def varStatement (below : Rules) : Walker Stmt := do
  let start ← expectKeyword .var
  let bindings ← separated below.turns fun _ => binding below
  let span ← spanFrom start.span
  terminator
  return .var bindings span

theorem varStatement_walks (serves : below.Serves tokens depth fuel below') :
    WalksAt tokens depth fuel cursor (varStatement below) (Parser.varStatement below') := by
  refine .expect_then (by decide) fun taken => ?_
  have serves := serves.mono (Nat.sub_le fuel 1)
  have enough : fuel - 1 ≤ below.turns + 1 := Nat.le_succ_of_le serves.turns
  refine .bind (.separated inferInstance enough (binding_walks serves)) fun run => ?_
  exact .bind (spanFrom_walks taken run _) fun _ => .bind terminator_walks fun _ => .pure _

/-- A declaration of one variable. -/
def letStatement (below : Rules) : Walker Stmt := do
  let start ← expectKeyword .letWord
  let name ← expectName "variable name after `let`"
  let _ ← expectKeyword .be
  let value ← below.expression
  terminator
  return .letBe name.text value (start.span.to value.span)

theorem letStatement_walks (serves : below.Serves tokens depth fuel below') :
    WalksAt tokens depth fuel cursor (letStatement below) (Parser.letStatement below') := by
  refine .bind (.expectKeyword _) fun _ => .bind (.expectName _) fun _ => ?_
  refine .bind (.expectKeyword _) fun _ => .bind serves.expression fun _ => ?_
  exact .bind terminator_walks fun _ => .pure _

/-! ## Changes of variables -/

/-- A change of a variable. -/
def assignment (below : Rules) (op : Option BinaryOp) : Walker Stmt := do
  let name ← advance
  let mark ← advance
  let value ← if Parser.isStep mark.kind then pure (Parser.one mark.span) else below.expression
  terminator
  return .assign name.text op value (name.span.to value.span)

theorem assignment_walks (serves : below.Serves tokens depth fuel below') (op : Option BinaryOp)
    (inside : cursor.peek.kind ≠ .finish) (next_inside : cursor.peekNext.kind ≠ .finish) :
    WalksAt tokens depth fuel cursor (assignment below op) (Parser.assignment below' op) := by
  refine .advance_then inside fun _ next => .advance_then (next ▸ next_inside) fun _ _ => ?_
  refine .ite (fun _ => ?_) fun _ => ?_
  · exact .bind (.pure _) fun _ => .bind terminator_walks fun _ => .pure _
  · refine .bind (serves.mono (by omega)).expression fun _ => ?_
    exact .bind terminator_walks fun _ => .pure _

/-- A step by one with the mark in front. -/
def stepStatement (op : BinaryOp) : Walker Stmt := do
  let mark ← advance
  let name ← expectName s!"variable name after `{mark.text}`"
  terminator
  return .assign name.text (some op) (Parser.one mark.span) (mark.span.to name.span)

theorem stepStatement_walks (op : BinaryOp) (inside : cursor.peek.kind ≠ .finish) :
    WalksAt tokens depth fuel cursor (stepStatement op) (Parser.stepStatement op) := by
  refine .advance_then inside fun _ _ => .bind (.expectName _) fun _ => ?_
  exact .bind terminator_walks fun _ => .pure _

/-! ## Functions -/

/-- The parameters of a function, of which no two have one name. -/
def parameters (turns : Nat) (function : String) : Walker (List String) := do
  if (← peekKind) = .parenClose then return []
  else
    separated turns fun earlier => do
      let param ← expectName "parameter name"
      if earlier.contains param.text then
        complain param (.duplicateParameter param.text function)
      else
        return param.text

theorem parameters_walks {turns : Nat} (enough : fuel ≤ turns) (function : String) :
    WalksAt tokens depth fuel cursor (parameters turns function) (Parser.parameters function) := by
  refine .peekKind (.ite (fun _ => .pure []) fun _ => ?_)
  refine .separated (Parser.parameter_operand function) (Nat.le_succ_of_le enough) ?_
  exact .bind (.expectName _) fun _ => .ite (fun _ => .complain _ _) fun _ => .pure _

/-- The body of a function after its parameters. -/
def functionBody (below : Rules) (name : Token) : Walker (List Stmt × Span) := do
  let _ ← expect .colon (.mark ":" "to open the function body")
  let body ← block below Parser.closesBlock
  let close ← expect .semicolon (.mark ";" "to close the function body")
  if body.isEmpty then complain name (.emptyBody name.text)
  else
    skipPoint
    return (body, close.span)

theorem functionBody_walks (serves : below.Serves tokens depth fuel below') (name : Token) :
    WalksAt tokens depth fuel cursor (functionBody below name)
      (Parser.functionBody below' name) := by
  refine .expect_then (by decide) fun _ => .bind (block_walks serves _) fun _ => ?_
  refine .bind (.expect _ (by decide)) fun _ => .ite (fun _ => .complain _ _) fun _ => ?_
  exact .bind skipPoint_walks fun _ => .pure _

/-- A declaration of a function, with a body or without. -/
def functionStatement (below : Rules) : Walker Stmt := do
  let start ← expectKeyword .function
  let name ← expectName "function name after `fn`"
  let _ ← accept .at
  let _ ← expect .parenOpen (.mark "(" "to open the parameter list")
  let params ← parameters below.turns name.text
  let close ← expect .parenClose (.mark ")" "after parameters")
  match ← peekKind with
  | .dot | .finish =>
    skipPoint
    return .define 0 name.text params none (start.span.to close.span)
  | _ =>
    let (body, stop) ← functionBody below name
    return .define 0 name.text params (some body) (start.span.to stop)

theorem functionStatement_walks (serves : below.Serves tokens depth fuel below') :
    WalksAt tokens depth fuel cursor (functionStatement below)
      (Parser.functionStatement below') := by
  refine .bind (.expectKeyword _) fun _ => .bind (.expectName _) fun _ => ?_
  refine .bind (.accept (by decide)) fun _ => .bind (.expect _ (by decide)) fun _ => ?_
  refine .bind (parameters_walks serves.turns _) fun _ => ?_
  refine .bind (.expect _ (by decide)) fun {_ middle} _ => .peekKind ?_
  cases middle.peek.kind with
  | dot | finish => exact .bind skipPoint_walks fun _ => .pure _
  | _ => exact .bind (functionBody_walks serves _) fun _ => .pure _

/-! ## Conditions and loops -/

/-- A condition and the block under it. -/
def arm (below : Rules) (word : String) : Walker (Expr × List Stmt) := do
  let condition ← below.expression
  let _ ← expect .colon (.mark ":" s!"after `{word}` condition")
  return (condition, ← block below Parser.endsArm)

theorem arm_walks (serves : below.Serves tokens depth fuel below') (word : String) :
    WalksAt tokens depth fuel cursor (arm below word) (Parser.arm below' word) := by
  refine .bind serves.expression fun _ => .expect_then (by decide) fun _ => ?_
  exact .bind (block_walks serves _) fun _ => .pure _

/-- The arms that follow the first one. -/
def laterArms (below : Rules) : Walker (List (Expr × List Stmt)) := do
  let arms ← loop
    (fun arms => do
      if ← accept (.keyword .elif) then return some ((← arm below "elif") :: arms)
      else return none)
    below.turns []
  return arms.reverse

theorem laterArms_walks (serves : below.Serves tokens depth fuel below') :
    WalksAt tokens depth fuel cursor (laterArms below) (Parser.laterArms below') := by
  refine .bind (.loop Parser.laterArm_shorter ?_ serves.turns []) fun _ => .pure _
  refine .accept_then (by decide) (fun _ => ?_) (.pure none)
  exact .bind (arm_walks (serves.mono (Nat.sub_le _ _)) _) fun _ => .pure _

/-- The block that runs if no condition holds. -/
def lastArm (below : Rules) : Walker Arms := do
  if ← accept (.keyword .elseWord) then
    let _ ← expect .colon (.mark ":" "after `else`")
    return .otherwise (← block below Parser.closesBlock)
  else
    return .nothing

theorem lastArm_walks (serves : below.Serves tokens depth fuel below') :
    WalksAt tokens depth fuel cursor (lastArm below) (Parser.lastArm below') := by
  refine .accept_then (by decide) (fun _ => .bind (.expect _ (by decide)) fun _ => ?_) (.pure _)
  exact .bind (block_walks serves _) fun _ => .pure _

/-- A conditional statement. -/
def ifStatement (below : Rules) : Walker Stmt := do
  let start ← expectKeyword .ifWord
  let first ← arm below "if"
  let later ← laterArms below
  let last ← lastArm below
  let close ← expect .semicolon (.mark ";" "to close the `if` block")
  skipPoint
  let arms := (first :: later).foldr (fun (condition, body) others => .arm condition body others) last
  return .choose arms (start.span.to close.span)

theorem ifStatement_walks (serves : below.Serves tokens depth fuel below') :
    WalksAt tokens depth fuel cursor (ifStatement below) (Parser.ifStatement below') := by
  refine .bind (.expectKeyword _) fun _ => .bind (arm_walks serves _) fun _ => ?_
  refine .bind (laterArms_walks serves) fun _ => .bind (lastArm_walks serves) fun _ => ?_
  exact .bind (.expect _ (by decide)) fun _ => .bind skipPoint_walks fun _ => .pure _

/-- A loop under a condition. -/
def whileStatement (below : Rules) : Walker Stmt := do
  let start ← expectKeyword .whileWord
  let condition ← below.expression
  let _ ← expect .colon (.mark ":" "after `while` condition")
  let body ← block below Parser.closesBlock
  let close ← expect .semicolon (.mark ";" "to close the `while` block")
  skipPoint
  return .whileLoop condition body (start.span.to close.span)

theorem whileStatement_walks (serves : below.Serves tokens depth fuel below') :
    WalksAt tokens depth fuel cursor (whileStatement below) (Parser.whileStatement below') := by
  refine .bind (.expectKeyword _) fun _ => .bind serves.expression fun _ => ?_
  refine .expect_then (by decide) fun _ => .bind (block_walks serves _) fun _ => ?_
  exact .bind (.expect _ (by decide)) fun _ => .bind skipPoint_walks fun _ => .pure _

/-- The bounds and the step of a range; a range with one bound starts at zero. -/
def rangeBounds (below : Rules) (start : Span) : Walker (Expr × Expr × Option Expr) := do
  if ← accept (.keyword .fromWord) then
    let first ← below.expression
    let _ ← expectKeyword .to
    let last ← below.expression
    if ← accept (.keyword .step) then return (first, last, some (← below.expression))
    else return (first, last, none)
  else
    return (.literal (.int "0") start, ← below.expression, none)

theorem rangeBounds_walks (serves : below.Serves tokens depth fuel below') (start : Span) :
    WalksAt tokens depth fuel cursor (rangeBounds below start) (Parser.rangeBounds below' start) := by
  refine .accept_then (by decide) (fun _ => ?_) (.bind serves.expression fun _ => .pure _)
  have serves := serves.mono (Nat.sub_le fuel 1)
  refine .bind serves.expression fun _ => .bind (.expectKeyword _) fun _ => ?_
  refine .bind serves.expression fun _ => .accept_then (by decide) (fun _ => ?_) (.pure _)
  exact .bind (serves.mono (Nat.sub_le _ _)).expression fun _ => .pure _

/-- What a loop runs through, and its body. -/
def forClause (below : Rules) (name : String) : Walker (Span → Stmt) := do
  if ← accept (.keyword .range) then
    let mark ← expect .parenOpen (.mark "(" "after `range`")
    let (first, last, step) ← rangeBounds below mark.span
    let _ ← expect .parenClose (.mark ")" "to close `range`")
    let _ ← expect .colon (.mark ":" "after `range(...)`")
    let body ← block below Parser.closesBlock
    return .forRange name first last step body
  else
    let values ← below.expression
    let _ ← expect .colon (.mark ":" "after the iterable")
    let body ← block below Parser.closesBlock
    return .forIn name values body

theorem forClause_walks (serves : below.Serves tokens depth fuel below') (name : String) :
    WalksAt tokens depth fuel cursor (forClause below name) (Parser.forClause below' name) := by
  refine .accept_then (by decide) (fun _ => ?_) ?_
  · refine .bind (.expect _ (by decide)) fun _ => ?_
    refine .bind (rangeBounds_walks (serves.mono (Nat.sub_le _ _)) _) fun _ => ?_
    refine .bind (.expect _ (by decide)) fun _ => .bind (.expect _ (by decide)) fun _ => ?_
    exact .bind (block_walks serves _) fun _ => .pure _
  · refine .bind serves.expression fun _ => .expect_then (by decide) fun _ => ?_
    exact .bind (block_walks serves _) fun _ => .pure _

/-- A loop over a range or over the items of a value. -/
def forStatement (below : Rules) : Walker Stmt := do
  let start ← expectKeyword .forWord
  let name ← expectName "loop variable after `for`"
  let _ ← expectKeyword .inWord
  let clause ← forClause below name.text
  let close ← expect .semicolon (.mark ";" "to close the `for` block")
  skipPoint
  return clause (start.span.to close.span)

theorem forStatement_walks (serves : below.Serves tokens depth fuel below') :
    WalksAt tokens depth fuel cursor (forStatement below) (Parser.forStatement below') := by
  refine .bind (.expectKeyword _) fun _ => .bind (.expectName _) fun _ => ?_
  refine .bind (.expectKeyword _) fun _ => .bind (forClause_walks serves _) fun _ => ?_
  exact .bind (.expect _ (by decide)) fun _ => .bind skipPoint_walks fun _ => .pure _

/-! ## Ends of functions and other statements -/

/-- Whether the next tokens are empty parentheses. -/
def atEmptyParens : Walker Bool := do
  if (← peekKind) = .parenOpen then return (← peekNextKind) = .parenClose else return false

theorem walk_atEmptyParens {index : Nat} (stands : cursor.StandsAt tokens index) :
    atEmptyParens.walk tokens ⟨index, depth⟩ =
      (.ok (cursor.peek.kind = .parenOpen && cursor.peekNext.kind = .parenClose), ⟨index, depth⟩) := by
  rw [atEmptyParens, walk_bind_of_ok (walk_peekKind stands)]
  by_cases opens : cursor.peek.kind = .parenOpen
  · have inside : cursor.rest ≠ [] := by
      rw [ne_eq, ← stands.peek_kind_eq_finish_iff, opens]
      decide
    rw [if_pos opens, walk_bind_of_ok (walk_peekNextKind stands inside), decide_eq_true opens,
      Bool.true_and]
    rfl
  · rw [if_neg opens, decide_eq_false opens, Bool.false_and]
    rfl

/-- What a function gives; empty parentheses give nothing. -/
def givenValue (below : Rules) : Walker (Option Expr) := do
  if ← atEmptyParens then
    let _ ← advance
    let _ ← advance
    return none
  else
    let kind ← peekKind
    if kind = .dot || Parser.endsStatement kind then return none
    else return some (← below.expression)

theorem givenValue_walks (serves : below.Serves tokens depth fuel below') :
    WalksAt tokens depth fuel cursor (givenValue below) (Parser.givenValue below') := by
  refine .of_walk walk_atEmptyParens (.of_run rfl (.of_run rfl (.ite (fun parens => ?_) fun _ => ?_)))
  · rw [Bool.and_eq_true, decide_eq_true_iff, decide_eq_true_iff] at parens
    refine .advance_then (by rw [parens.1]; decide) fun _ next => ?_
    exact .advance_then (by rw [next, parens.2]; decide) fun _ _ => .pure none
  · refine .of_walk walk_peekKind (.ite (fun _ => .pure none) fun _ => ?_)
    exact .bind serves.expression fun _ => .pure _

/-- The end of a function. -/
def giveStatement (below : Rules) : Walker Stmt := do
  let start ← expectKeyword .give
  let value ← givenValue below
  let span ← spanFrom start.span
  terminator
  return .give value span

theorem giveStatement_walks (serves : below.Serves tokens depth fuel below') :
    WalksAt tokens depth fuel cursor (giveStatement below) (Parser.giveStatement below') := by
  refine .expect_then (by decide) fun taken => ?_
  refine .bind (givenValue_walks (serves.mono (Nat.sub_le _ _))) fun run => ?_
  exact .bind (spanFrom_walks taken run _) fun _ => .bind terminator_walks fun _ => .pure _

/-- A statement that does nothing. -/
def passStatement : Walker Stmt := do
  let word ← advance
  terminator
  return .pass word.span

theorem passStatement_walks (inside : cursor.peek.kind ≠ .finish) :
    WalksAt tokens depth fuel cursor passStatement Parser.passStatement :=
  .advance_then inside fun _ _ => .bind terminator_walks fun _ => .pure _

/-- An expression as a statement. -/
def expressionStatement (below : Rules) : Walker Stmt := do
  let value ← below.expression
  terminator
  return .expression value value.span

theorem expressionStatement_walks (serves : below.Serves tokens depth fuel below') :
    WalksAt tokens depth fuel cursor (expressionStatement below)
      (Parser.expressionStatement below') :=
  .bind serves.expression fun _ => .bind terminator_walks fun _ => .pure _

/-- A change of a variable, or else an expression. -/
def nameStatement (below : Rules) : Walker Stmt := do
  match Parser.assignmentOperator (← peekNextKind) with
  | some op => assignment below op
  | none => expressionStatement below

theorem nameStatement_walks (serves : below.Serves tokens depth fuel below')
    (inside : cursor.peek.kind ≠ .finish) :
    WalksAt tokens depth fuel cursor (nameStatement below) (Parser.nameStatement below') := by
  refine .peekNextKind inside ?_
  cases assigns : Parser.assignmentOperator cursor.peekNext.kind with
  | some op =>
      refine assignment_walks serves op inside fun ends => ?_
      rw [ends] at assigns
      cases assigns
  | none => exact expressionStatement_walks serves

/-- A statement. -/
def statement (below : Rules) : Walker Stmt := do
  match ← peekKind with
  | .keyword .var => varStatement below
  | .keyword .letWord => letStatement below
  | .keyword .function => functionStatement below
  | .keyword .ifWord => ifStatement below
  | .keyword .whileWord => whileStatement below
  | .keyword .forWord => forStatement below
  | .keyword .give => giveStatement below
  | .keyword .pass => passStatement
  | .plusPlus => stepStatement .add
  | .minusMinus => stepStatement .sub
  | .identifier => nameStatement below
  | _ => expressionStatement below

theorem statement_walks (serves : below.Serves tokens depth fuel below') :
    WalksAt tokens depth fuel cursor (statement below) (Parser.statement below') := by
  refine .peekKind ?_
  cases kind : cursor.peek.kind with
  | keyword word =>
      cases word with
      | var => exact varStatement_walks serves
      | letWord => exact letStatement_walks serves
      | function => exact functionStatement_walks serves
      | ifWord => exact ifStatement_walks serves
      | whileWord => exact whileStatement_walks serves
      | forWord => exact forStatement_walks serves
      | give => exact giveStatement_walks serves
      | pass => exact passStatement_walks (by rw [kind]; decide)
      | _ => exact expressionStatement_walks serves
  | plusPlus => exact stepStatement_walks .add (by rw [kind]; decide)
  | minusMinus => exact stepStatement_walks .sub (by rw [kind]; decide)
  | identifier => exact nameStatement_walks serves (by rw [kind]; decide)
  | _ => exact expressionStatement_walks serves

end Walker
end DotScript
