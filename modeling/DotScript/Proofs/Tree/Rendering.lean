import DotScript.Source.Token
import DotScript.Tree.Basic

/-!
# Canonical rendering of trees

A tree is written as a list of marks, each of which stands for one token.  Parentheses are written
exactly where an operand is looser than its place allows.  The levels are, from loose to tight: `1`
disjunctions, `2` conjunctions, `3` comparisons, `4` sums, `5` products, `6` powers, `7` signs and
`not`, `8` method calls, `9` everything else.

Trees are compared without their spans and labels, which say where a tree was written and not what
is written.
-/

namespace DotScript

/-! ## Trees without places -/

mutual

/-- An expression without its spans. -/
def Expr.erase : Expr → Expr
  | .literal value _ => .literal value default
  | .variable name _ => .variable name default
  | .binary op left right _ => .binary op left.erase right.erase default
  | .unary op operand _ => .unary op operand.erase default
  | .call name args _ => .call name (eraseItems args) default
  | .method receiver name args _ => .method receiver.erase name (eraseItems args) default
  | .list items _ => .list (eraseItems items) default
  | .set items _ => .set (eraseItems items) default

def eraseItems : List Expr → List Expr
  | [] => []
  | item :: rest => item.erase :: eraseItems rest

end

/-- A declared variable and its value without spans. -/
def eraseBinding (binding : String × Option Expr) : String × Option Expr :=
  (binding.1, binding.2.map Expr.erase)

mutual

/-- A statement without its spans and labels. -/
def Stmt.erase : Stmt → Stmt
  | .var bindings _ => .var (bindings.map eraseBinding) default
  | .letBe name value _ => .letBe name value.erase default
  | .assign name op value _ => .assign name op value.erase default
  | .choose arms _ => .choose arms.erase default
  | .whileLoop condition body _ => .whileLoop condition.erase (eraseBlock body) default
  | .forRange name first last step body _ =>
    .forRange name first.erase last.erase (step.map Expr.erase) (eraseBlock body) default
  | .forIn name items body _ => .forIn name items.erase (eraseBlock body) default
  | .define _ name params body _ => .define 0 name params (eraseBody body) default
  | .expression value _ => .expression value.erase default
  | .give value _ => .give (value.map Expr.erase) default
  | .pass _ => .pass default

/-- Statements without their spans and labels. -/
def eraseBlock : List Stmt → List Stmt
  | [] => []
  | stmt :: rest => stmt.erase :: eraseBlock rest

/-- What a conditional statement chooses from, without spans and labels. -/
def Arms.erase : Arms → Arms
  | .arm condition body others => .arm condition.erase (eraseBlock body) others.erase
  | .otherwise body => .otherwise (eraseBlock body)
  | .nothing => .nothing

def eraseBody : Option (List Stmt) → Option (List Stmt)
  | none => none
  | some body => some (eraseBlock body)

end

/-! ## Marks -/

/-- What a token is written for. -/
inductive Mark
  | name (text : String)
  | int (digits : String)
  | string (text : String)
  /-- A token whose kind says it all. -/
  | fixed (kind : Token.Kind)
  /-- The point in front of the name of a method. -/
  | methodDot
deriving DecidableEq, Repr

namespace Mark

/-- The kind of the tokens for a mark. -/
def kind : Mark → Token.Kind
  | .name _ => .identifier
  | .int _ => .int
  | .string _ => .string
  | .fixed kind => kind
  | .methodDot => .dot

/-- The token has the kind of the mark, and its text where the text matters. -/
def Fits (mark : Mark) (token : Token) : Prop :=
  token.kind = mark.kind ∧
    match mark with
    | .name text | .int text | .string text => token.text = text
    | _ => True

instance (mark : Mark) (token : Token) : Decidable (mark.Fits token) :=
  match mark with
  | .name _ | .int _ | .string _ => inferInstanceAs (Decidable (_ ∧ _ = _))
  | .fixed _ | .methodDot => inferInstanceAs (Decidable (_ ∧ True))

end Mark

/-- Whether a token touches a name after it. -/
def Token.touches (token : Token) : List Token → Bool
  | [] => false
  | next :: _ => next.kind = .identifier && token.span.stop == next.span.start

/-- The tokens are written for the marks, and a point touches a name after it exactly if it is the
point in front of a method. -/
def Spells : List Token → List Mark → Prop
  | [], [] => True
  | token :: tokens, mark :: marks =>
    mark.Fits token ∧ (mark.kind = .dot → (token.touches tokens ↔ mark = .methodDot)) ∧
      Spells tokens marks
  | _, _ => False

instance decidableSpells : (tokens : List Token) → (marks : List Mark) →
    Decidable (Spells tokens marks)
  | [], [] => inferInstanceAs (Decidable True)
  | _ :: tokens, _ :: marks =>
    have := decidableSpells tokens marks
    inferInstanceAs (Decidable (_ ∧ _ ∧ _))
  | [], _ :: _ => inferInstanceAs (Decidable False)
  | _ :: _, [] => inferInstanceAs (Decidable False)

/-! ## Expressions -/

def BinaryOp.marks : BinaryOp → List Mark
  | .add => [.fixed .plus]
  | .sub => [.fixed .minus]
  | .mul => [.fixed .star]
  | .div => [.fixed .slash]
  | .mod => [.fixed .percent]
  | .pow => [.fixed .caret]
  | .equal => [.fixed .equalEqual]
  | .notEqual => [.fixed .bangEqual]
  | .less => [.fixed .less]
  | .lessEqual => [.fixed .lessEqual]
  | .greater => [.fixed .greater]
  | .greaterEqual => [.fixed .greaterEqual]
  | .identical => [.fixed (.keyword .points)]
  | .notIdentical => [.fixed .not, .fixed (.keyword .points)]
  | .and => [.fixed .and]
  | .or => [.fixed .or]

def BinaryOp.level : BinaryOp → Nat
  | .or => 1
  | .and => 2
  | .equal | .notEqual | .less | .lessEqual | .greater | .greaterEqual => 3
  | .identical | .notIdentical => 3
  | .add | .sub => 4
  | .mul | .div | .mod => 5
  | .pow => 6

/-- The loosest level of a left operand without parentheses.  The base of a power is a sign. -/
def BinaryOp.leftLevel (op : BinaryOp) : Nat :=
  if op = .pow then 7 else op.level

/-- The loosest level of a right operand without parentheses.  Powers group to the right. -/
def BinaryOp.rightLevel (op : BinaryOp) : Nat :=
  if op = .pow then 6 else op.level + 1

/-- The mark of a sign or of `not`. -/
def UnaryOp.mark : UnaryOp → Mark
  | .negate => .fixed .minus
  | .not => .fixed .not

/-- The mark of a constant; doubles have no canonical one. -/
def Literal.mark : Literal → Mark
  | .int digits => .int digits
  | .float _ => .fixed .float
  | .bool true => .fixed (.keyword .trueWord)
  | .bool false => .fixed (.keyword .falseWord)
  | .string text => .string text
  | .none => .fixed (.keyword .noneWord)

def Expr.level : Expr → Nat
  | .binary op _ _ _ => op.level
  | .unary _ _ _ => 7
  | .method _ _ _ _ => 8
  | _ => 9

/-- Marks in parentheses if they are too loose for their place. -/
def enclose (loose : Bool) (marks : List Mark) : List Mark :=
  if loose then .fixed .parenOpen :: marks ++ [.fixed .parenClose] else marks

/-- Pieces with commas between them. -/
def joined : List (List Mark) → List Mark
  | [] => []
  | piece :: rest => piece ++ rest.flatMap (.fixed .comma :: ·)

mutual

def Expr.marks : Expr → List Mark
  | .literal value _ => [value.mark]
  | .variable name _ => [.name name]
  | .binary op left right _ =>
    enclose (left.level < op.leftLevel) left.marks ++
      (op.marks ++ enclose (right.level < op.rightLevel) right.marks)
  | .unary op operand _ => op.mark :: enclose (operand.level < 7) operand.marks
  | .call name args _ =>
    .name name :: .fixed .parenOpen :: (joined (itemPieces args) ++ [.fixed .parenClose])
  | .method receiver name args _ =>
    enclose (receiver.level < 8) receiver.marks ++
      (.methodDot :: .name name :: .fixed .parenOpen ::
        (joined (itemPieces args) ++ [.fixed .parenClose]))
  | .list items _ => .fixed .bracketOpen :: (joined (itemPieces items) ++ [.fixed .bracketClose])
  | .set items _ => .fixed .braceOpen :: (joined (itemPieces items) ++ [.fixed .braceClose])

/-- The marks of each of some expressions. -/
def itemPieces : List Expr → List (List Mark)
  | [] => []
  | item :: rest => item.marks :: itemPieces rest

end

/-- One more level of nesting for an expression in parentheses. -/
def enclosedNesting (loose : Bool) (nesting : Nat) : Nat :=
  if loose then nesting + 1 else nesting

mutual

/-- How deep expressions, operands of signs and exponents are nested in an expression. -/
def Expr.nesting : Expr → Nat
  | .literal _ _ | .variable _ _ => 0
  | .binary op left right _ =>
    max (enclosedNesting (left.level < op.leftLevel) left.nesting)
      (enclosedNesting (right.level < op.rightLevel) right.nesting + if op = .pow then 1 else 0)
  | .unary _ operand _ => enclosedNesting (operand.level < 7) operand.nesting + 1
  | .call _ args _ => itemNesting args
  | .method receiver _ args _ =>
    max (enclosedNesting (receiver.level < 8) receiver.nesting) (itemNesting args)
  | .list items _ | .set items _ => itemNesting items

/-- How deep some expressions are nested, counting themselves. -/
def itemNesting : List Expr → Nat
  | [] => 0
  | item :: rest => max (item.nesting + 1) (itemNesting rest)

end

/-- A constant that is no double. -/
def Literal.IsExact : Literal → Prop
  | .float _ => False
  | _ => True

mutual

/-- An expression without doubles. -/
def Expr.IsExact : Expr → Prop
  | .literal value _ => value.IsExact
  | .variable _ _ => True
  | .binary _ left right _ => left.IsExact ∧ right.IsExact
  | .unary _ operand _ => operand.IsExact
  | .call _ args _ => AllExact args
  | .method receiver _ args _ => receiver.IsExact ∧ AllExact args
  | .list items _ | .set items _ => AllExact items

def AllExact : List Expr → Prop
  | [] => True
  | item :: rest => item.IsExact ∧ AllExact rest

end

/-! ## Statements -/

/-- The marks of a declared variable and of its value. -/
def bindingMarks : String × Option Expr → List Mark
  | (name, none) => [.name name]
  | (name, some value) => .name name :: .fixed .assign :: value.marks

/-- The kind of the mark of a change by an operator, or of a plain one. -/
def assignmentKind : Option BinaryOp → Token.Kind
  | some .add => .plusAssign
  | some .sub => .minusAssign
  | some .mul => .starAssign
  | some .div => .slashAssign
  | some .mod => .percentAssign
  | _ => .assign

/-- The marks of the step of a range. -/
def stepMarks : Option Expr → List Mark
  | none => []
  | some step => .fixed (.keyword .step) :: step.marks

/-- The marks of what a function gives. -/
def givenMarks : Option Expr → List Mark
  | none => []
  | some value => value.marks

/-- Marks between the colon and the semicolon of a block. -/
def inBlock (marks : List Mark) : List Mark :=
  .fixed .colon :: (marks ++ [.fixed .semicolon])

mutual

def Stmt.marks : Stmt → List Mark
  | .var bindings _ =>
    .fixed (.keyword .var) :: (joined (bindings.map bindingMarks) ++ [.fixed .dot])
  | .letBe name value _ =>
    .fixed (.keyword .letWord) :: .name name :: .fixed (.keyword .be) ::
      (value.marks ++ [.fixed .dot])
  | .assign name op value _ =>
    .name name :: .fixed (assignmentKind op) :: (value.marks ++ [.fixed .dot])
  | .choose arms _ => arms.marks .ifWord
  | .whileLoop condition body _ =>
    .fixed (.keyword .whileWord) :: (condition.marks ++ inBlock (blockMarks body))
  | .forRange name first last step body _ =>
    .fixed (.keyword .forWord) :: .name name :: .fixed (.keyword .inWord) ::
      .fixed (.keyword .range) :: .fixed .parenOpen :: .fixed (.keyword .fromWord) ::
      (first.marks ++ .fixed (.keyword .to) :: (last.marks ++ (stepMarks step ++
        .fixed .parenClose :: inBlock (blockMarks body))))
  | .forIn name items body _ =>
    .fixed (.keyword .forWord) :: .name name :: .fixed (.keyword .inWord) ::
      (items.marks ++ inBlock (blockMarks body))
  | .define _ name params body _ =>
    .fixed (.keyword .function) :: .name name :: .fixed .parenOpen ::
      (joined (params.map fun param => [.name param]) ++ .fixed .parenClose :: bodyMarks body)
  | .expression value _ => value.marks ++ [.fixed .dot]
  | .give value _ => .fixed (.keyword .give) :: (givenMarks value ++ [.fixed .dot])
  | .pass _ => [.fixed (.keyword .pass), .fixed .dot]

/-- The marks of statements, one after the other. -/
def blockMarks : List Stmt → List Mark
  | [] => []
  | stmt :: rest => stmt.marks ++ blockMarks rest

/-- The marks of what a conditional statement chooses from, with the word for the first arm. -/
def Arms.marks (word : Keyword) : Arms → List Mark
  | .arm condition body others =>
    .fixed (.keyword word) ::
      (condition.marks ++ .fixed .colon :: (blockMarks body ++ others.marks .elif))
  | .otherwise body => .fixed (.keyword .elseWord) :: inBlock (blockMarks body)
  | .nothing => [.fixed .semicolon]

/-- The marks of a function after its parameters. -/
def bodyMarks : Option (List Stmt) → List Mark
  | none => [.fixed .dot]
  | some body => inBlock (blockMarks body)

end

mutual

/-- How deep statements, expressions, operands of signs and exponents are nested in a statement. -/
def Stmt.nesting : Stmt → Nat
  | .var bindings _ => itemNesting (bindings.filterMap (·.2))
  | .letBe _ value _ | .assign _ _ value _ | .expression value _ => value.nesting + 1
  | .choose arms _ => arms.nesting
  | .whileLoop condition body _ => max (condition.nesting + 1) (blockNesting body)
  | .forRange _ first last step body _ =>
    max (itemNesting (first :: last :: step.toList)) (blockNesting body)
  | .forIn _ items body _ => max (items.nesting + 1) (blockNesting body)
  | .define _ _ _ body _ => bodyNesting body
  | .give value _ => itemNesting value.toList
  | .pass _ => 0

/-- How deep some statements are nested, counting themselves. -/
def blockNesting : List Stmt → Nat
  | [] => 0
  | stmt :: rest => max (stmt.nesting + 1) (blockNesting rest)

def Arms.nesting : Arms → Nat
  | .arm condition body others =>
    max (condition.nesting + 1) (max (blockNesting body) others.nesting)
  | .otherwise body => blockNesting body
  | .nothing => 0

def bodyNesting : Option (List Stmt) → Nat
  | none => 0
  | some body => blockNesting body

end

mutual

/-- A statement that can be written: functions have distinct parameters and no empty body, there is
an arm to choose and a variable to declare, changes use an operator of sums or products, and there
are no doubles. -/
def Stmt.IsWellFormed : Stmt → Prop
  | .var bindings _ => bindings ≠ [] ∧ AllExact (bindings.filterMap (·.2))
  | .letBe _ value _ | .expression value _ => value.IsExact
  | .assign _ op value _ =>
    (op = none ∨ ∃ operator ∈ [BinaryOp.add, .sub, .mul, .div, .mod], op = some operator) ∧
      value.IsExact
  | .choose arms _ => arms.conditional ≠ [] ∧ arms.IsWellFormed
  | .whileLoop condition body _ => condition.IsExact ∧ IsWellFormedBlock body
  | .forRange _ first last step body _ =>
    AllExact (first :: last :: step.toList) ∧ IsWellFormedBlock body
  | .forIn _ items body _ => items.IsExact ∧ IsWellFormedBlock body
  | .define _ _ params body _ => params.Nodup ∧ IsWellFormedBody body
  | .give value _ => AllExact value.toList
  | .pass _ => True

def IsWellFormedBlock : List Stmt → Prop
  | [] => True
  | stmt :: rest => stmt.IsWellFormed ∧ IsWellFormedBlock rest

def Arms.IsWellFormed : Arms → Prop
  | .arm condition body others =>
    condition.IsExact ∧ IsWellFormedBlock body ∧ others.IsWellFormed
  | .otherwise body => IsWellFormedBlock body
  | .nothing => True

def IsWellFormedBody : Option (List Stmt) → Prop
  | none => True
  | some body => body ≠ [] ∧ IsWellFormedBlock body

end

end DotScript
