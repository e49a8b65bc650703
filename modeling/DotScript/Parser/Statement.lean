import DotScript.Parser.Expression

/-!
# Parsing statements

A statement ends with a point, which may be left out before the end of the source and before the end
of a block.  Blocks are opened by a colon and closed by a semicolon.
-/

namespace DotScript
namespace Parser

/-- Whether a statement may end before a token without a point. -/
def endsStatement : Token.Kind → Bool
  | .finish | .semicolon | .keyword .elif | .keyword .elseWord => true
  | _ => false

/-- The end of a statement. -/
def terminator : Parser Unit := do
  if ← accept .dot then return ()
  else if endsStatement (← peekKind) then return ()
  else refuse (.mark "." "to end the statement")

/-- A point after a block is allowed and means nothing. -/
def skipPoint : Parser Unit := do
  let _ ← accept .dot

/-- The statements up to the end of a block, which is not taken. -/
def block (below : Grammar) (ends : Token.Kind → Bool) : Parser (List Stmt) := do
  let stmts ← whileSome
    (fun stmts => do
      if ends (← peekKind) then return none
      else if (← get).atEnd then refuse (.mark ";" "to close the block")
      else return some ((← below.statement) :: stmts))
    []
  return stmts.reverse

/-- Whether a token closes a block. -/
def closesBlock : Token.Kind → Bool
  | .semicolon => true
  | _ => false

/-- Whether a token ends the block of a condition. -/
def endsArm : Token.Kind → Bool
  | .semicolon | .keyword .elif | .keyword .elseWord => true
  | _ => false

/-- One variable of a declaration and its value, if it has one. -/
def binding (below : Grammar) : Parser (String × Option Expr) := do
  let name ← expectName "variable name after `var`"
  if ← accept .assign then return (name.text, some (← below.expression))
  else return (name.text, none)

/-- The span up to the last token that was taken. -/
def spanFrom (start : Span) : Parser Span := do
  match (← get).previous with
  | some token => return start.to token.span
  | none => return start

/-- A declaration of variables. -/
def varStatement (below : Grammar) : Parser Stmt := do
  let start ← expectKeyword .var
  let bindings ← separated fun _ => binding below
  let span ← spanFrom start.span
  terminator
  return .var bindings span

/-- A declaration of one variable. -/
def letStatement (below : Grammar) : Parser Stmt := do
  let start ← expectKeyword .letWord
  let name ← expectName "variable name after `let`"
  let _ ← expectKeyword .be
  let value ← below.expression
  terminator
  return .letBe name.text value (start.span.to value.span)

/-- What a mark of assignment does to the old value, or nothing for other tokens. -/
def assignmentOperator : Token.Kind → Option (Option BinaryOp)
  | .assign => some none
  | .plusAssign | .plusPlus => some (some .add)
  | .minusAssign | .minusMinus => some (some .sub)
  | .starAssign => some (some .mul)
  | .slashAssign => some (some .div)
  | .percentAssign => some (some .mod)
  | _ => none

/-- Whether a mark of assignment stands for a step by one. -/
def isStep : Token.Kind → Bool
  | .plusPlus | .minusMinus => true
  | _ => false

/-- The number one, written as the mark of a step. -/
def one (span : Span) : Expr :=
  .literal (.int "1") span

/-- A change of a variable. -/
def assignment (below : Grammar) (op : Option BinaryOp) : Parser Stmt := do
  let name ← advance
  let mark ← advance
  let value ← if isStep mark.kind then pure (one mark.span) else below.expression
  terminator
  return .assign name.text op value (name.span.to value.span)

/-- A step by one with the mark in front. -/
def stepStatement (op : BinaryOp) : Parser Stmt := do
  let mark ← advance
  let name ← expectName s!"variable name after `{mark.text}`"
  terminator
  return .assign name.text (some op) (one mark.span) (mark.span.to name.span)

/-- The parameters of a function, of which no two have one name. -/
def parameters (function : String) : Parser (List String) := do
  if (← peekKind) = .parenClose then return []
  else
    separated fun earlier => do
      let param ← expectName "parameter name"
      if earlier.contains param.text then
        complain param (.duplicateParameter param.text function)
      else
        return param.text

/-- The body of a function after its parameters. -/
def functionBody (below : Grammar) (name : Token) : Parser (List Stmt × Span) := do
  let _ ← expect .colon (.mark ":" "to open the function body")
  let body ← block below closesBlock
  let close ← expect .semicolon (.mark ";" "to close the function body")
  if body.isEmpty then complain name (.emptyBody name.text)
  else
    skipPoint
    return (body, close.span)

/-- A declaration of a function, with a body or without. -/
def functionStatement (below : Grammar) : Parser Stmt := do
  let start ← expectKeyword .function
  let name ← expectName "function name after `fn`"
  let _ ← accept .at
  let _ ← expect .parenOpen (.mark "(" "to open the parameter list")
  let params ← parameters name.text
  let close ← expect .parenClose (.mark ")" "after parameters")
  match ← peekKind with
  | .dot | .finish =>
    skipPoint
    return .define 0 name.text params none (start.span.to close.span)
  | _ =>
    let (body, stop) ← functionBody below name
    return .define 0 name.text params (some body) (start.span.to stop)

/-- A condition and the block under it. -/
def arm (below : Grammar) (word : String) : Parser (Expr × List Stmt) := do
  let condition ← below.expression
  let _ ← expect .colon (.mark ":" s!"after `{word}` condition")
  return (condition, ← block below endsArm)

/-- The arms that follow the first one. -/
def laterArms (below : Grammar) : Parser (List (Expr × List Stmt)) := do
  let arms ← whileSome
    (fun arms => do
      if ← accept (.keyword .elif) then return some ((← arm below "elif") :: arms)
      else return none)
    []
  return arms.reverse

/-- The block that runs if no condition holds. -/
def lastArm (below : Grammar) : Parser Arms := do
  if ← accept (.keyword .elseWord) then
    let _ ← expect .colon (.mark ":" "after `else`")
    return .otherwise (← block below closesBlock)
  else
    return .nothing

/-- A conditional statement. -/
def ifStatement (below : Grammar) : Parser Stmt := do
  let start ← expectKeyword .ifWord
  let first ← arm below "if"
  let later ← laterArms below
  let last ← lastArm below
  let close ← expect .semicolon (.mark ";" "to close the `if` block")
  skipPoint
  let arms := (first :: later).foldr (fun (condition, body) others => .arm condition body others) last
  return .choose arms (start.span.to close.span)

/-- A loop under a condition. -/
def whileStatement (below : Grammar) : Parser Stmt := do
  let start ← expectKeyword .whileWord
  let condition ← below.expression
  let _ ← expect .colon (.mark ":" "after `while` condition")
  let body ← block below closesBlock
  let close ← expect .semicolon (.mark ";" "to close the `while` block")
  skipPoint
  return .whileLoop condition body (start.span.to close.span)

/-- The bounds and the step of a range; a range with one bound starts at zero. -/
def rangeBounds (below : Grammar) (start : Span) : Parser (Expr × Expr × Option Expr) := do
  if ← accept (.keyword .fromWord) then
    let first ← below.expression
    let _ ← expectKeyword .to
    let last ← below.expression
    if ← accept (.keyword .step) then return (first, last, some (← below.expression))
    else return (first, last, none)
  else
    return (.literal (.int "0") start, ← below.expression, none)

/-- What a loop runs through, and its body. -/
def forClause (below : Grammar) (name : String) : Parser (Span → Stmt) := do
  if ← accept (.keyword .range) then
    let mark ← expect .parenOpen (.mark "(" "after `range`")
    let (first, last, step) ← rangeBounds below mark.span
    let _ ← expect .parenClose (.mark ")" "to close `range`")
    let _ ← expect .colon (.mark ":" "after `range(...)`")
    let body ← block below closesBlock
    return .forRange name first last step body
  else
    let values ← below.expression
    let _ ← expect .colon (.mark ":" "after the iterable")
    let body ← block below closesBlock
    return .forIn name values body

/-- A loop over a range or over the items of a value. -/
def forStatement (below : Grammar) : Parser Stmt := do
  let start ← expectKeyword .forWord
  let name ← expectName "loop variable after `for`"
  let _ ← expectKeyword .inWord
  let clause ← forClause below name.text
  let close ← expect .semicolon (.mark ";" "to close the `for` block")
  skipPoint
  return clause (start.span.to close.span)

/-- What a function gives; empty parentheses give nothing. -/
def givenValue (below : Grammar) : Parser (Option Expr) := do
  let kind ← peekKind
  if kind = .parenOpen && (← peekNextKind) = .parenClose then
    let _ ← advance
    let _ ← advance
    return none
  else if kind = .dot || endsStatement kind then
    return none
  else
    return some (← below.expression)

/-- The end of a function. -/
def giveStatement (below : Grammar) : Parser Stmt := do
  let start ← expectKeyword .give
  let value ← givenValue below
  let span ← spanFrom start.span
  terminator
  return .give value span

/-- A statement that does nothing. -/
def passStatement : Parser Stmt := do
  let word ← advance
  terminator
  return .pass word.span

/-- An expression as a statement. -/
def expressionStatement (below : Grammar) : Parser Stmt := do
  let value ← below.expression
  terminator
  return .expression value value.span

/-- A change of a variable, or else an expression. -/
def nameStatement (below : Grammar) : Parser Stmt := do
  match assignmentOperator (← peekNextKind) with
  | some op => assignment below op
  | none => expressionStatement below

/-- A statement. -/
def statement (below : Grammar) : Parser Stmt := do
  match ← peekKind with
  | .keyword .var => varStatement below
  | .keyword .letWord => letStatement below
  | .keyword .function => functionStatement below
  | .keyword .ifWord => ifStatement below
  | .keyword .whileWord => whileStatement below
  | .keyword .forWord => forStatement below
  | .keyword .give => giveStatement below
  | .keyword .pass => passStatement
  | .plusPlus => stepStatement .add
  | .minusMinus => stepStatement .sub
  | .identifier => nameStatement below
  | _ => expressionStatement below

end Parser
end DotScript
