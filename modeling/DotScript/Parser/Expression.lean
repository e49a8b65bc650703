import DotScript.Number.FloatText
import DotScript.Parser.Cursor
import DotScript.Tree.Basic

/-!
# Parsing expressions

Operators bind, from loose to tight: `or`, `and`, comparisons, sums, products, powers, signs and
`not`, method calls.  All but powers group to the left.  A number or a closing parenthesis that is
followed by a name or an opening parenthesis multiplies.

Expressions, operands of signs, exponents and statements are nested in one another.  A `Grammar`
holds the parsers for what is nested one level deeper, so the parsers of this module are not
recursive themselves.
-/

namespace DotScript
namespace Parser

/-- The parsers for everything that may be nested, with a certain number of levels left. -/
structure Grammar where
  /-- Parses an expression. -/
  expression : Parser Expr
  /-- Parses the exponent of a power. -/
  power : Parser Expr
  /-- Parses the operand of a sign or of `not`. -/
  unary : Parser Expr
  /-- Parses a statement. -/
  statement : Parser Stmt

/-- Expressions with commas between them up to a closing mark, which is taken as well. -/
def items (below : Grammar) (close : Token.Kind) (wanted : Wanted) :
    Parser (List Expr × Span) := do
  let values ← if (← peekKind) = close then pure [] else separated fun _ => below.expression
  let token ← expect close wanted
  return (values, token.span)

/-- A variable or a call. -/
def nameOrCall (below : Grammar) : Parser Expr := do
  let name ← advance
  if ← accept .parenOpen then
    let (args, close) ← items below .parenClose (.mark ")" "after arguments")
    return .call name.text args (name.span.to close)
  else
    return .variable name.text name.span

/-- A constant that is written as one token. -/
def constant (value : Literal) : Parser Expr := do
  let token ← advance
  return .literal value token.span

/-- An expression in parentheses. -/
def group (below : Grammar) : Parser Expr := do
  let start ← advance
  let inner ← below.expression
  let close ← expect .parenClose (.mark ")" "to close the group")
  return inner.withSpan (start.span.to close.span)

/-- A list in brackets. -/
def listLiteral (below : Grammar) : Parser Expr := do
  let start ← advance
  let (values, close) ← items below .bracketClose (.mark "]" "to close the list")
  return .list values (start.span.to close)

/-- A set in braces. -/
def setLiteral (below : Grammar) : Parser Expr := do
  let start ← advance
  let (values, close) ← items below .braceClose (.mark "\x7d" "to close the set")
  return .set values (start.span.to close)

/-- An expression without operators and method calls. -/
def primary (below : Grammar) : Parser Expr := do
  let token ← peek
  match token.kind with
  | .int => constant (.int token.text)
  | .float =>
    match FloatText.read token.text with
    | some value => constant (.float value)
    | none => refuse .wellFormedNumber
  | .string => constant (.string token.text)
  | .keyword .trueWord => constant (.bool true)
  | .keyword .falseWord => constant (.bool false)
  | .keyword .noneWord => constant .none
  | .identifier => nameOrCall below
  | .parenOpen => group below
  | .bracketOpen => listLiteral below
  | .braceOpen => setLiteral below
  | _ => refuse .expression

/-- Whether the cursor is at a point that touches a name with an opening parenthesis after it.  With
a gap after the point, the point ends the statement. -/
def atMethodCall (cursor : Cursor) : Bool :=
  match cursor.rest with
  | dot :: name :: mark :: _ =>
    dot.kind = .dot && name.kind = .identifier && mark.kind = .parenOpen &&
      dot.span.stop == name.span.start
  | _ => false

/-- One more method call on a receiver, if there is one. -/
def methodCall (below : Grammar) (receiver : Expr) : Parser (Option Expr) := do
  if atMethodCall (← get) then
    let _ ← advance
    let name ← advance
    let _ ← advance
    let (args, close) ← items below .parenClose (.mark ")" "after method arguments")
    return some (.method receiver name.text args (receiver.span.to close))
  else
    return none

/-- A primary expression and the method calls on it. -/
def methodChain (below : Grammar) : Parser Expr := do
  whileSome (methodCall below) (← primary below)

/-- The sign or `not` in front of an operand. -/
def unaryOperator : Parser (Option UnaryOp) := do
  if ← accept .minus then return some .negate
  else if ← accept .not then return some .not
  else return none

/-- An operand with the signs in front of it. -/
def unary (below : Grammar) : Parser Expr := do
  let start ← peek
  match ← unaryOperator with
  | some op =>
    let operand ← below.unary
    return .unary op operand (start.span.to operand.span)
  | none => methodChain below

/-- An operand and its exponent, if it has one. -/
def power (below : Grammar) : Parser Expr := do
  let base ← unary below
  if ← accept .caret then return Expr.ofBinary .pow base (← below.power) else return base

/-- Operands joined by operators that group to the left. -/
def chain (operator : Parser (Option BinaryOp)) (operand : Parser Expr) : Parser Expr := do
  let first ← operand
  whileSome
    (fun left => do
      match ← operator with
      | some op => return some (Expr.ofBinary op left (← operand))
      | none => return none)
    first

/-- Whether the cursor is between two operands that multiply without an operator. -/
def atImplicitProduct (cursor : Cursor) : Bool :=
  match cursor.previous with
  | none => false
  | some previous =>
    (previous.kind = .int || previous.kind = .float || previous.kind = .parenClose) &&
      (cursor.peek.kind = .parenOpen || cursor.peek.kind = .identifier)

/-- The operators of products. -/
def factorOperator : Parser (Option BinaryOp) := do
  if ← accept .star then return some .mul
  else if ← accept .slash then return some .div
  else if ← accept .percent then return some .mod
  else if atImplicitProduct (← get) then return some .mul
  else return none

/-- The operators of sums. -/
def termOperator : Parser (Option BinaryOp) := do
  if ← accept .plus then return some .add
  else if ← accept .minus then return some .sub
  else return none

/-- Takes the next token, which is the last one of an operator. -/
def take (op : BinaryOp) : Parser (Option BinaryOp) := do
  let _ ← advance
  return some op

/-- The operators of comparisons. -/
def comparisonOperator : Parser (Option BinaryOp) := do
  match ← peekKind with
  | .equalEqual => take .equal
  | .bangEqual => take .notEqual
  | .less => take .less
  | .lessEqual => take .lessEqual
  | .greater => take .greater
  | .greaterEqual => take .greaterEqual
  | .keyword .points => take .identical
  | .keyword .is =>
    let _ ← advance
    if ← accept .not then return some .notEqual else return some .equal
  | .not =>
    if (← peekNextKind) = .keyword .points then
      let _ ← advance
      take .notIdentical
    else
      return none
  | _ => return none

/-- The operator of conjunctions. -/
def andOperator : Parser (Option BinaryOp) := do
  if ← accept .and then return some .and else return none

/-- The operator of disjunctions. -/
def orOperator : Parser (Option BinaryOp) := do
  if ← accept .or then return some .or else return none

/-- A product. -/
def factor (below : Grammar) : Parser Expr :=
  chain factorOperator (power below)

/-- A sum. -/
def term (below : Grammar) : Parser Expr :=
  chain termOperator (factor below)

/-- A comparison. -/
def comparison (below : Grammar) : Parser Expr :=
  chain comparisonOperator (term below)

/-- A conjunction. -/
def conjunction (below : Grammar) : Parser Expr :=
  chain andOperator (comparison below)

/-- A disjunction. -/
def disjunction (below : Grammar) : Parser Expr :=
  chain orOperator (conjunction below)

/-- An expression; a call that is followed by `of` and a receiver is a method call. -/
def expression (below : Grammar) : Parser Expr := do
  let value ← disjunction below
  let mark ← peek
  if ← accept (.keyword .of) then
    let receiver ← disjunction below
    match value with
    | .call name args span => return .method receiver name args (span.to receiver.span)
    | _ => complain mark .misplacedOf
  else
    return value

end Parser
end DotScript
