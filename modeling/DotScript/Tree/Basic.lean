import DotScript.Source.Token

/-!
# Program trees

Operators, expressions and statements, and the labels by which the declarations of a program are told
apart.
-/

namespace DotScript

/-! ## Operators -/

/-- The binary operators. -/
inductive BinaryOp
  | add | sub | mul | div | mod | pow
  | equal | notEqual | less | lessEqual | greater | greaterEqual
  /-- Equal and of the same kind. -/
  | identical
  | notIdentical
  | and | or
deriving DecidableEq, Repr

/-- How an operator is named in trees and complaints. -/
def BinaryOp.symbol : BinaryOp → String
  | .add => "+"
  | .sub => "-"
  | .mul => "*"
  | .div => "/"
  | .mod => "%"
  | .pow => "^"
  | .equal => "=="
  | .notEqual => "!="
  | .less => "<"
  | .lessEqual => "<="
  | .greater => ">"
  | .greaterEqual => ">="
  | .identical => "points"
  | .notIdentical => "not points"
  | .and => "and"
  | .or => "or"

/-- Every binary operator once. -/
def BinaryOp.all : List BinaryOp :=
  [.add, .sub, .mul, .div, .mod, .pow, .equal, .notEqual, .less, .lessEqual, .greater,
   .greaterEqual, .identical, .notIdentical, .and, .or]

/-- The operator with the given symbol. -/
def BinaryOp.ofSymbol? (symbol : String) : Option BinaryOp :=
  BinaryOp.all.find? (·.symbol == symbol)

/-- The unary operators. -/
inductive UnaryOp
  | negate | not
deriving DecidableEq, Repr

/-- How a unary operator is named. -/
def UnaryOp.symbol : UnaryOp → String
  | .negate => "-"
  | .not => "not"

/-- The unary operator with the given symbol. -/
def UnaryOp.ofSymbol? (symbol : String) : Option UnaryOp :=
  [UnaryOp.negate, UnaryOp.not].find? (·.symbol == symbol)

/-! ## Program trees

A program is a list of statements.  Statements contain expressions and blocks of statements, and
every node carries the span it was written at. -/

/-- A constant written in the source. -/
inductive Literal
  /-- An integer, as its decimal digits. -/
  | int (digits : String)
  | float (value : Float)
  | bool (value : Bool)
  | string (value : String)
  | none
deriving Inhabited

/-- An expression. -/
inductive Expr
  | literal (value : Literal) (span : Span)
  | variable (name : String) (span : Span)
  | binary (op : BinaryOp) (left right : Expr) (span : Span)
  | unary (op : UnaryOp) (operand : Expr) (span : Span)
  /-- A call of a built-in or of a function by name. -/
  | call (name : String) (args : List Expr) (span : Span)
  /-- A call of a method of the value of `receiver`. -/
  | method (receiver : Expr) (name : String) (args : List Expr) (span : Span)
  | list (items : List Expr) (span : Span)
  | set (items : List Expr) (span : Span)
deriving Inhabited

namespace Expr

/-- Where an expression was written. -/
def span : Expr → Span
  | .literal _ span | .variable _ span | .binary _ _ _ span | .unary _ _ span => span
  | .call _ _ span | .method _ _ _ span | .list _ span | .set _ span => span

/-- The same expression at another place: a group in parentheses takes the span of the group. -/
def withSpan (span : Span) : Expr → Expr
  | .literal value _ => .literal value span
  | .variable name _ => .variable name span
  | .binary op left right _ => .binary op left right span
  | .unary op operand _ => .unary op operand span
  | .call name args _ => .call name args span
  | .method receiver name args _ => .method receiver name args span
  | .list items _ => .list items span
  | .set items _ => .set items span

/-- An operation that spans both operands. -/
def ofBinary (op : BinaryOp) (left right : Expr) : Expr :=
  .binary op left right (left.span.to right.span)

end Expr

mutual

/-- A statement. -/
inductive Stmt
  /-- Declares variables, one after the other; those without a value start as none. -/
  | var (bindings : List (String × Option Expr)) (span : Span)
  /-- Declares one variable with a value. -/
  | letBe (name : String) (value : Expr) (span : Span)
  /-- Changes a variable, to the value or to what the operator makes of the old value and it. -/
  | assign (name : String) (op : Option BinaryOp) (value : Expr) (span : Span)
  /-- Runs the first arm whose condition holds. -/
  | choose (arms : Arms) (span : Span)
  | whileLoop (condition : Expr) (body : List Stmt) (span : Span)
  /-- Counts from `first` to `last`, both included. -/
  | forRange (name : String) (first last : Expr) (step : Option Expr) (body : List Stmt)
      (span : Span)
  /-- Runs through a list, a set or the characters of a string. -/
  | forIn (name : String) (items : Expr) (body : List Stmt) (span : Span)
  /-- Declares a function; without a body its definition is still to come. -/
  | define (label : Nat) (name : String) (params : List String) (body : Option (List Stmt))
      (span : Span)
  | expression (value : Expr) (span : Span)
  /-- Ends the running function with a value. -/
  | give (value : Option Expr) (span : Span)
  | pass (span : Span)

/-- What a conditional statement chooses from. -/
inductive Arms
  /-- A block under a condition, and what to choose from if the condition fails. -/
  | arm (condition : Expr) (body : List Stmt) (others : Arms)
  /-- A block without a condition. -/
  | otherwise (body : List Stmt)
  /-- Nothing to run. -/
  | nothing

end

instance : Inhabited Stmt := ⟨.pass default⟩

instance : Inhabited Arms := ⟨.nothing⟩

/-- Where a statement was written. -/
def Stmt.span : Stmt → Span
  | .var _ span | .letBe _ _ span | .assign _ _ _ span | .choose _ span => span
  | .whileLoop _ _ span | .forRange _ _ _ _ _ span | .forIn _ _ _ span => span
  | .define _ _ _ _ span | .expression _ span | .give _ span | .pass span => span

/-- The conditions and their blocks, in order. -/
def Arms.conditional : Arms → List (Expr × List Stmt)
  | .arm condition body others => (condition, body) :: others.conditional
  | _ => []

/-- The block that runs if no condition holds. -/
def Arms.otherwise? : Arms → Option (List Stmt)
  | .arm _ _ others => others.otherwise?
  | .otherwise body => some body
  | .nothing => none

/-- A declared function. -/
structure Declaration where
  /-- Tells declarations apart: two functions are the same if they come from one declaration. -/
  label : Nat
  /-- The name of the function. -/
  name : String
  /-- The names of the parameters. -/
  params : List String
  /-- What the function does; not known yet if there is only a forward declaration. -/
  body : Option (List Stmt)

/-- The number of arguments a function takes. -/
def Declaration.arity (declaration : Declaration) : Nat :=
  declaration.params.length

/-- A program is the list of its statements. -/
abbrev Program := List Stmt

/-! ## Labels of declarations

Before a program runs, its function declarations are numbered in the order in which they are
written, an outer declaration before those in its body.  Numbers go on from one program to the
next, so a label belongs to one declaration in one text. -/

mutual

/-- Numbers the declarations of a statement from `next` on; also gives the first unused number. -/
def Stmt.number (next : Nat) : Stmt → Stmt × Nat
  | .choose arms span =>
    let (arms, next) := arms.number next
    (.choose arms span, next)
  | .whileLoop condition body span =>
    let (body, next) := numberBlock next body
    (.whileLoop condition body span, next)
  | .forRange name first last step body span =>
    let (body, next) := numberBlock next body
    (.forRange name first last step body span, next)
  | .forIn name items body span =>
    let (body, next) := numberBlock next body
    (.forIn name items body span, next)
  | .define _ name params body span =>
    let (body, after) := numberBody (next + 1) body
    (.define next name params body span, after)
  | stmt => (stmt, next)

/-- Numbers the declarations of a block. -/
def numberBlock (next : Nat) : List Stmt → List Stmt × Nat
  | [] => ([], next)
  | stmt :: rest =>
    let (stmt, next) := stmt.number next
    let (rest, next) := numberBlock next rest
    (stmt :: rest, next)

/-- Numbers the declarations of the arms of a conditional statement. -/
def Arms.number (next : Nat) : Arms → Arms × Nat
  | .arm condition body others =>
    let (body, next) := numberBlock next body
    let (others, next) := others.number next
    (.arm condition body others, next)
  | .otherwise body =>
    let (body, next) := numberBlock next body
    (.otherwise body, next)
  | .nothing => (.nothing, next)

/-- Numbers the declarations of a function body. -/
def numberBody (next : Nat) : Option (List Stmt) → Option (List Stmt) × Nat
  | none => (none, next)
  | some body =>
    let (body, next) := numberBlock next body
    (some body, next)

end

/-- Numbers the declarations of a program. -/
def Program.number (next : Nat) (program : Program) : Program × Nat :=
  numberBlock next program

end DotScript
