import DotScript.Proofs.Parser.Indexed.Basic

/-!
# Walking over expressions

The walkers for expressions, each with the reason why it comes to the same as the parser it stands
beside.  A walker that takes a token before it turns to what is nested can do with one unit of fuel
more than what is nested has.
-/

namespace DotScript
namespace Walker

open Cursor

/-- The walkers for everything that may be nested, and how often a loop may turn. -/
structure Rules where
  turns : Nat
  /-- Walks over an expression. -/
  expression : Walker Expr
  /-- Walks over the exponent of a power. -/
  power : Walker Expr
  /-- Walks over the operand of a sign or of `not`. -/
  unary : Walker Expr
  /-- Walks over a statement. -/
  statement : Walker Stmt

/-- With some fuel, the walkers for what is nested come to the same as the parsers for it.  A
statement may need a unit of fuel for the expression it begins with. -/
structure Rules.Serves (below : Rules) (tokens : List Token) (depth fuel : Nat)
    (below' : Parser.Grammar) : Prop where
  turns : fuel ≤ below.turns
  expression : ∀ {cursor}, WalksAt tokens depth fuel cursor below.expression below'.expression
  power : ∀ {cursor}, WalksAt tokens depth fuel cursor below.power below'.power
  unary : ∀ {cursor}, WalksAt tokens depth fuel cursor below.unary below'.unary
  statement : ∀ {cursor}, WalksAt tokens depth (fuel - 1) cursor below.statement below'.statement

variable {tokens : List Token} {depth fuel : Nat} {cursor : Cursor} {below : Rules}
  {below' : Parser.Grammar}

theorem Rules.Serves.mono {more : Nat} (serves : below.Serves tokens depth more below')
    (less : fuel ≤ more) : below.Serves tokens depth fuel below' where
  turns := Nat.le_trans less serves.turns
  expression := serves.expression.mono less
  power := serves.power.mono less
  unary := serves.unary.mono less
  statement := serves.statement.mono (Nat.sub_le_sub_right less 1)

variable [below'.Orderly]

/-! ## Primary expressions -/

/-- Expressions with commas between them up to a closing mark, which is taken as well. -/
def items (below : Rules) (close : Token.Kind) (wanted : Wanted) : Walker (List Expr × Span) := do
  let values ← if (← peekKind) = close then pure []
    else separated below.turns fun _ => below.expression
  let token ← expect close wanted
  return (values, token.span)

theorem items_walks (serves : below.Serves tokens depth fuel below') {close : Token.Kind}
    (wanted : Wanted) (inner : close ≠ .finish) :
    WalksAt tokens depth fuel cursor (items below close wanted)
      (Parser.items below' close wanted) := by
  refine .peekKind (.ite (fun _ => ?_) fun _ => ?_)
  · exact .bind (.pure []) fun _ => .bind (.expect wanted inner) fun _ => .pure _
  · have enough : fuel ≤ below.turns + 1 := Nat.le_succ_of_le serves.turns
    refine .bind (.separated inferInstance enough serves.expression) fun _ => ?_
    exact .bind (.expect wanted inner) fun _ => .pure _

/-- A variable or a call. -/
def nameOrCall (below : Rules) : Walker Expr := do
  let name ← advance
  if ← accept .parenOpen then
    let (args, close) ← items below .parenClose (.mark ")" "after arguments")
    return .call name.text args (name.span.to close)
  else
    return .variable name.text name.span

theorem nameOrCall_walks (serves : below.Serves tokens depth fuel below')
    (inside : cursor.peek.kind ≠ .finish) :
    WalksAt tokens depth (fuel + 1) cursor (nameOrCall below) (Parser.nameOrCall below') := by
  have args : Parser.Operand (Parser.items below' .parenClose (.mark ")" "after arguments")) :=
    Parser.items_operand _ rfl
  refine .advance_then inside fun _ _ => .accept_then (by decide) (fun _ => ?_) (.pure _)
  exact .bind (items_walks (serves.mono (Nat.sub_le _ _)) _ (by decide)) fun _ => .pure _

/-- A constant that is written as one token. -/
def constant (value : Literal) : Walker Expr := do
  let token ← advance
  return .literal value token.span

theorem constant_walks (value : Literal) (inside : cursor.peek.kind ≠ .finish) :
    WalksAt tokens depth fuel cursor (constant value) (Parser.constant value) :=
  .bind (.advance inside) fun _ => .pure _

/-- An expression in parentheses. -/
def group (below : Rules) : Walker Expr := do
  let start ← advance
  let inner ← below.expression
  let close ← expect .parenClose (.mark ")" "to close the group")
  return inner.withSpan (start.span.to close.span)

theorem group_walks (serves : below.Serves tokens depth fuel below')
    (inside : cursor.peek.kind ≠ .finish) :
    WalksAt tokens depth (fuel + 1) cursor (group below) (Parser.group below') := by
  refine .advance_then inside fun _ _ => .bind serves.expression fun _ => ?_
  exact .bind (.expect _ (by decide)) fun _ => .pure _

/-- A list in brackets. -/
def listLiteral (below : Rules) : Walker Expr := do
  let start ← advance
  let (values, close) ← items below .bracketClose (.mark "]" "to close the list")
  return .list values (start.span.to close)

theorem listLiteral_walks (serves : below.Serves tokens depth fuel below')
    (inside : cursor.peek.kind ≠ .finish) :
    WalksAt tokens depth (fuel + 1) cursor (listLiteral below) (Parser.listLiteral below') := by
  have values : Parser.Operand (Parser.items below' .bracketClose (.mark "]" "to close the list")) :=
    Parser.items_operand _ rfl
  exact .advance_then inside fun _ _ => .bind (items_walks serves _ (by decide)) fun _ => .pure _

/-- A set in braces. -/
def setLiteral (below : Rules) : Walker Expr := do
  let start ← advance
  let (values, close) ← items below .braceClose (.mark "\x7d" "to close the set")
  return .set values (start.span.to close)

theorem setLiteral_walks (serves : below.Serves tokens depth fuel below')
    (inside : cursor.peek.kind ≠ .finish) :
    WalksAt tokens depth (fuel + 1) cursor (setLiteral below) (Parser.setLiteral below') := by
  have values : Parser.Operand (Parser.items below' .braceClose (.mark "\x7d" "to close the set")) :=
    Parser.items_operand _ rfl
  exact .advance_then inside fun _ _ => .bind (items_walks serves _ (by decide)) fun _ => .pure _

/-- An expression without operators and method calls. -/
def primary (below : Rules) : Walker Expr := do
  let token ← peek
  match token.kind with
  | .int => constant (.int token.text)
  | .float =>
    match FloatText.read token.text with
    | some value => constant (.float value)
    | none => refuse .wellFormedNumber
  | .string => constant (.string token.text)
  | .keyword .trueWord => constant (.bool true)
  | .keyword .falseWord => constant (.bool false)
  | .keyword .noneWord => constant .none
  | .identifier => nameOrCall below
  | .parenOpen => group below
  | .bracketOpen => listLiteral below
  | .braceOpen => setLiteral below
  | _ => refuse .expression

theorem primary_walks (serves : below.Serves tokens depth fuel below') :
    WalksAt tokens depth (fuel + 1) cursor (primary below) (Parser.primary below') := by
  refine .peek ?_
  cases kind : cursor.peek.kind with
  | int => exact constant_walks _ (by rw [kind]; decide)
  | float =>
      dsimp only
      cases FloatText.read cursor.peek.text with
      | some value => exact constant_walks _ (by rw [kind]; decide)
      | none => exact .refuse _
  | string => exact constant_walks _ (by rw [kind]; decide)
  | keyword word =>
      cases word with
      | trueWord | falseWord | noneWord => exact constant_walks _ (by rw [kind]; decide)
      | _ => exact .refuse _
  | identifier => exact nameOrCall_walks serves (by rw [kind]; decide)
  | parenOpen => exact group_walks serves (by rw [kind]; decide)
  | bracketOpen => exact listLiteral_walks serves (by rw [kind]; decide)
  | braceOpen => exact setLiteral_walks serves (by rw [kind]; decide)
  | _ => exact .refuse _

/-! ## Method calls and operands -/

/-- Whether the next tokens are a point that touches a name with an opening parenthesis after it. -/
def atMethodCall : Walker Bool := do
  let index := (← get).index
  let tokens ← read
  match tokens[index]?, tokens[index + 1]?, tokens[index + 2]? with
  | some dot, some name, some mark =>
    return dot.kind = .dot && name.kind = .identifier && mark.kind = .parenOpen &&
      dot.span.stop == name.span.start
  | _, _, _ => return false

theorem walk_atMethodCall {index : Nat} (stands : cursor.StandsAt tokens index) :
    atMethodCall.walk tokens ⟨index, depth⟩ = (.ok (Parser.atMethodCall cursor), ⟨index, depth⟩) := by
  cases stands with
  | @mk taken rest beyond finish inner ends =>
      have ahead (offset : Nat) : (taken ++ (rest ++ finish :: beyond))[taken.length + offset]? =
          (rest ++ finish :: beyond)[offset]? := by
        rw [List.getElem?_append_right (Nat.le_add_right _ _), Nat.add_sub_cancel_left]
      have here := ahead 0
      rw [Nat.add_zero] at here
      rw [atMethodCall, walk_bind_of_ok walk_get, walk_bind_of_ok walk_read, here, ahead, ahead]
      -- the end is neither a point nor a name nor a parenthesis
      rcases rest with _ | ⟨dot, _ | ⟨name, _ | ⟨mark, rest⟩⟩⟩
      · rcases beyond with _ | ⟨second, _ | ⟨third, beyond⟩⟩ <;>
          simp [ends, Parser.atMethodCall] <;> rfl
      · cases beyond <;> simp [ends, Parser.atMethodCall] <;> rfl
      · simp [ends, Parser.atMethodCall]
        rfl
      · rfl

/-- One more method call on a receiver, if there is one. -/
def methodCall (below : Rules) (receiver : Expr) : Walker (Option Expr) := do
  if ← atMethodCall then
    let _ ← advance
    let name ← advance
    let _ ← advance
    let (args, close) ← items below .parenClose (.mark ")" "after method arguments")
    return some (.method receiver name.text args (receiver.span.to close))
  else
    return none

theorem methodCall_walks (serves : below.Serves tokens depth fuel below') (receiver : Expr) :
    WalksAt tokens depth fuel cursor (methodCall below receiver)
      (Parser.methodCall below' receiver) := by
  have args : Parser.Operand (Parser.items below' .parenClose (.mark ")" "after method arguments")) :=
    Parser.items_operand _ rfl
  refine .of_walk walk_atMethodCall (.of_run rfl (.ite (fun calls => ?_) fun _ => .pure none))
  obtain ⟨dot, name, mark, rest, written, -⟩ := Parser.exists_of_atMethodCall calls
  refine .advance_cons written (.advance_cons rfl (.advance_cons rfl ?_))
  exact .bind (items_walks (serves.mono (by omega)) _ (by decide)) fun _ => .pure _

/-- A primary expression and the method calls on it. -/
def methodChain (below : Rules) : Walker Expr := do
  loop (methodCall below) below.turns (← primary below)

theorem methodChain_walks (serves : below.Serves tokens depth fuel below') :
    WalksAt tokens depth (fuel + 1) cursor (methodChain below) (Parser.methodChain below') := by
  have extension : Parser.Extends (Parser.methodCall below') := Parser.methodCall_extends
  refine .bind_of_lt (primary_walks serves)
    (fun run finish => (Parser.Operand.closes run finish).shorter) fun _ => ?_
  exact .loop (fun run finish => (extension.closes run finish).shorter)
    (methodCall_walks serves _) serves.turns _

/-- The operand of the sign that was just taken. -/
def signed (below : Rules) (op : UnaryOp) : Walker Expr := do
  let sign ← previous
  let operand ← below.unary
  return .unary op operand (sign.span.to operand.span)

theorem signed_walks (serves : below.Serves tokens depth fuel below') (op : UnaryOp) {sign : Token}
    (taken : cursor.previous = some sign) :
    WalksAt tokens depth fuel cursor (signed below op) (do
      let operand ← below'.unary
      return .unary op operand (sign.span.to operand.span)) :=
  .of_walk (walk_previous · taken) (.bind serves.unary fun _ => .pure _)

/-- An operand with the signs in front of it. -/
def unary (below : Rules) : Walker Expr := do
  if ← accept .minus then signed below .negate
  else if ← accept .not then signed below .not
  else methodChain below

theorem unary_walks (serves : below.Serves tokens depth fuel below') :
    WalksAt tokens depth (fuel + 1) cursor (unary below) (Parser.unary below') := by
  refine .of_run rfl ?_
  rw [Parser.unaryOperator, bind_assoc]
  refine .accept_bind (by decide) (fun taken => signed_walks serves .negate taken) ?_
  simp only [Bool.false_eq_true, if_false, bind_assoc]
  exact .accept_bind (by decide) (fun taken => signed_walks serves .not taken)
    (methodChain_walks serves)

/-- An operand and its exponent, if it has one. -/
def power (below : Rules) : Walker Expr := do
  let base ← unary below
  if ← accept .caret then return Expr.ofBinary .pow base (← below.power) else return base

theorem power_walks (serves : below.Serves tokens depth fuel below') :
    WalksAt tokens depth (fuel + 1) cursor (power below) (Parser.power below') := by
  refine .bind (unary_walks serves) fun _ => .accept_then (by decide) (fun _ => ?_) (.pure _)
  exact .bind serves.power fun _ => .pure _

/-! ## Chains of operands -/

/-- Operands joined by operators that group to the left. -/
def chain (turns : Nat) (operator : Walker (Option BinaryOp)) (operand : Walker Expr) :
    Walker Expr := do
  let first ← operand
  loop
    (fun left => do
      match ← operator with
      | some op => return some (Expr.ofBinary op left (← operand))
      | none => return none)
    turns first

theorem chain_walks {turns : Nat} (enough : fuel ≤ turns) {operator : Walker (Option BinaryOp)}
    {operator' : Parser (Option BinaryOp)} {operand : Walker Expr} {operand' : Parser Expr}
    [Parser.Peels operator'] [Parser.Operand operand']
    (joins : ∀ {cursor}, WalksAt tokens depth fuel cursor operator operator')
    (walks : ∀ {cursor}, WalksAt tokens depth (fuel + 1) cursor operand operand') :
    WalksAt tokens depth (fuel + 1) cursor (chain turns operator operand)
      (Parser.chain operator' operand') := by
  have extension := Parser.chainStep_extends operator' operand'
  refine .bind_of_lt walks (fun run finish => (Parser.Operand.closes run finish).shorter) fun _ => ?_
  refine .loop (fun run finish => (extension.closes run finish).shorter) ?_ enough _
  refine .bind joins fun {answer _} _ => ?_
  cases answer with
  | none => exact .pure none
  | some op => exact .bind (walks.mono (Nat.le_succ _)) fun _ => .pure _

/-- Whether the next token is one of two operands that multiply without an operator. -/
def atImplicitProduct : Walker Bool := do
  if (← get).index = 0 then return false
  else
    let last := (← previous).kind
    let next ← peekKind
    return (last = .int || last = .float || last = .parenClose) &&
      (next = .parenOpen || next = .identifier)

theorem walk_atImplicitProduct {index : Nat} (stands : cursor.StandsAt tokens index) :
    atImplicitProduct.walk tokens ⟨index, depth⟩ =
      (.ok (Parser.atImplicitProduct cursor), ⟨index, depth⟩) := by
  rw [atImplicitProduct, walk_bind_of_ok walk_get, Parser.atImplicitProduct]
  cases last : cursor.previous with
  | none =>
      rw [if_pos (stands.previous_eq_none_iff.1 last)]
      rfl
  | some token =>
      have moved : index ≠ 0 := by
        rw [ne_eq, ← stands.previous_eq_none_iff, last]
        exact Option.some_ne_none token
      rw [if_neg moved, walk_bind_of_ok (walk_previous stands last),
        walk_bind_of_ok (walk_peekKind stands)]
      rfl

/-- The operators of products. -/
def factorOperator : Walker (Option BinaryOp) := do
  if ← accept .star then return some .mul
  else if ← accept .slash then return some .div
  else if ← accept .percent then return some .mod
  else if ← atImplicitProduct then return some .mul
  else return none

theorem factorOperator_walks :
    WalksAt tokens depth fuel cursor factorOperator Parser.factorOperator := by
  refine .accept_then (by decide) (fun _ => .pure _) ?_
  refine .accept_then (by decide) (fun _ => .pure _) ?_
  refine .accept_then (by decide) (fun _ => .pure _) ?_
  exact .of_walk walk_atImplicitProduct (.of_run rfl (.ite (fun _ => .pure _) fun _ => .pure _))

/-- The operators of sums. -/
def termOperator : Walker (Option BinaryOp) := do
  if ← accept .plus then return some .add
  else if ← accept .minus then return some .sub
  else return none

theorem termOperator_walks :
    WalksAt tokens depth fuel cursor termOperator Parser.termOperator := by
  refine .accept_then (by decide) (fun _ => .pure _) ?_
  exact .accept_then (by decide) (fun _ => .pure _) (.pure none)

/-- Takes the next token, which is the last one of an operator. -/
def take (op : BinaryOp) : Walker (Option BinaryOp) := do
  let _ ← advance
  return some op

theorem take_walks (op : BinaryOp) (inside : cursor.peek.kind ≠ .finish) :
    WalksAt tokens depth fuel cursor (take op) (Parser.take op) :=
  .bind (.advance inside) fun _ => .pure _

/-- The operators of comparisons. -/
def comparisonOperator : Walker (Option BinaryOp) := do
  match ← peekKind with
  | .equalEqual => take .equal
  | .bangEqual => take .notEqual
  | .less => take .less
  | .lessEqual => take .lessEqual
  | .greater => take .greater
  | .greaterEqual => take .greaterEqual
  | .keyword .points => take .identical
  | .keyword .is =>
    let _ ← advance
    if ← accept .not then return some .notEqual else return some .equal
  | .not =>
    if (← peekNextKind) = .keyword .points then
      let _ ← advance
      take .notIdentical
    else
      return none
  | _ => return none

theorem comparisonOperator_walks :
    WalksAt tokens depth fuel cursor comparisonOperator Parser.comparisonOperator := by
  refine .peekKind ?_
  cases kind : cursor.peek.kind with
  | equalEqual | bangEqual | less | lessEqual | greater | greaterEqual =>
      exact take_walks _ (by rw [kind]; decide)
  | keyword word =>
      cases word with
      | points => exact take_walks _ (by rw [kind]; decide)
      | is =>
          refine .advance_then (by rw [kind]; decide) fun _ _ => ?_
          exact .accept_then (by decide) (fun _ => .pure _) (.pure _)
      | _ => exact .pure none
  | not =>
      refine .peekNextKind (by rw [kind]; decide) (.ite (fun points => ?_) fun _ => .pure none)
      refine .advance_then (by rw [kind]; decide) fun _ next => take_walks _ ?_
      rw [next, points]
      decide
  | _ => exact .pure none

/-- The operator of conjunctions. -/
def andOperator : Walker (Option BinaryOp) := do
  if ← accept .and then return some .and else return none

theorem andOperator_walks : WalksAt tokens depth fuel cursor andOperator Parser.andOperator :=
  .accept_then (by decide) (fun _ => .pure _) (.pure none)

/-- The operator of disjunctions. -/
def orOperator : Walker (Option BinaryOp) := do
  if ← accept .or then return some .or else return none

theorem orOperator_walks : WalksAt tokens depth fuel cursor orOperator Parser.orOperator :=
  .accept_then (by decide) (fun _ => .pure _) (.pure none)

/-- A product. -/
def factor (below : Rules) : Walker Expr :=
  chain below.turns factorOperator (power below)

/-- A sum. -/
def term (below : Rules) : Walker Expr :=
  chain below.turns termOperator (factor below)

/-- A comparison. -/
def comparison (below : Rules) : Walker Expr :=
  chain below.turns comparisonOperator (term below)

/-- A conjunction. -/
def conjunction (below : Rules) : Walker Expr :=
  chain below.turns andOperator (comparison below)

/-- A disjunction. -/
def disjunction (below : Rules) : Walker Expr :=
  chain below.turns orOperator (conjunction below)

theorem disjunction_walks (serves : below.Serves tokens depth fuel below') :
    WalksAt tokens depth (fuel + 1) cursor (disjunction below) (Parser.disjunction below') :=
  chain_walks serves.turns orOperator_walks <|
    chain_walks serves.turns andOperator_walks <|
      chain_walks serves.turns comparisonOperator_walks <|
        chain_walks serves.turns termOperator_walks <|
          chain_walks serves.turns factorOperator_walks (power_walks serves)

/-- An expression; a call that is followed by `of` and a receiver is a method call. -/
def expression (below : Rules) : Walker Expr := do
  let value ← disjunction below
  if ← accept (.keyword .of) then
    let mark ← previous
    let receiver ← disjunction below
    match value with
    | .call name args span => return .method receiver name args (span.to receiver.span)
    | _ => complain mark .misplacedOf
  else
    return value

theorem expression_walks (serves : below.Serves tokens depth fuel below') :
    WalksAt tokens depth (fuel + 1) cursor (expression below) (Parser.expression below') := by
  refine .bind (disjunction_walks serves) fun {value _} _ => .of_run rfl ?_
  refine .accept_then (by decide) (fun taken => .of_walk (walk_previous · taken) ?_) (.pure _)
  refine .bind ((disjunction_walks serves).mono (Nat.sub_le _ _)) fun _ => ?_
  cases value with
  | call name args span => exact .pure _
  | _ => exact .complain _ _

end Walker
end DotScript
