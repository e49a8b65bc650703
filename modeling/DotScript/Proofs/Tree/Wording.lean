import DotScript.Parser.Statement
import DotScript.Proofs.Tree.Rendering

/-!
# How trees are written

`Expr.WrittenAs` and `Stmt.WrittenAs` say which tokens a tree may be written with, and which spans
its nodes have then: those of the tokens that the node begins and ends with.  They are loose about
the levels of operators, so the same tokens may be those of several trees.
-/

namespace DotScript

/-- At most one token, of the given kind. -/
inductive IsOptional (kind : Token.Kind) : List Token → Prop
  | absent : IsOptional kind []
  | present {token : Token} (same : token.kind = kind) : IsOptional kind [token]

/-- Items with commas between them. -/
inductive Listed {α : Type} (item : α → List Token → Prop) : List α → List Token → Prop
  | nil : Listed item [] []
  | one {value : α} {tokens : List Token} (written : item value tokens) :
      Listed item [value] tokens
  | more {value next : α} {rest : List α} {tokens later : List Token} {comma : Token}
      (written : item value tokens) (separates : comma.kind = .comma)
      (listed : Listed item (next :: rest) later) :
      Listed item (value :: next :: rest) (tokens ++ comma :: later)

/-- One more item comes after a comma. -/
theorem Listed.concat {α : Type} {item : α → List Token → Prop} {values : List α} {value : α}
    {done tokens : List Token} {comma : Token} (listed : Listed item values done)
    (some_value : values ≠ []) (separates : comma.kind = .comma) (written : item value tokens) :
    Listed item (values ++ [value]) (done ++ comma :: tokens) := by
  induction listed with
  | nil => exact absurd rfl some_value
  | one first => exact .more first separates (.one written)
  | more first comma _ ih =>
      rw [List.append_assoc]
      exact .more first comma (ih (List.cons_ne_nil _ _))

/-! ## Expressions -/

/-- The constant that a token stands for. -/
def Token.literal? (token : Token) : Option Literal :=
  match token.kind with
  | .int => some (.int token.text)
  | .float => (FloatText.read token.text).map .float
  | .string => some (.string token.text)
  | .keyword .trueWord => some (.bool true)
  | .keyword .falseWord => some (.bool false)
  | .keyword .noneWord => some .none
  | _ => none

/-- The ways to write an operator, as the kinds of its tokens.  A product may do without. -/
def BinaryOp.spellings (op : BinaryOp) : List (List Token.Kind) :=
  op.marks.map Mark.kind ::
    match op with
    | .mul => [[]]
    | .equal => [[.keyword .is]]
    | .notEqual => [[.keyword .is, .not]]
    | _ => []

/-- An expression may be written with these tokens. -/
inductive Expr.WrittenAs : Expr → List Token → Prop
  | literal {token : Token} {value : Literal} (constant : token.literal? = some value) :
      Expr.WrittenAs (.literal value token.span) [token]
  | variable {name : Token} (is_name : name.kind = .identifier) :
      Expr.WrittenAs (.variable name.text name.span) [name]
  | group {inner : Expr} {start close : Token} {tokens : List Token}
      (opens : start.kind = .parenOpen) (written : inner.WrittenAs tokens)
      (closes : close.kind = .parenClose) :
      Expr.WrittenAs (inner.withSpan (start.span.to close.span)) (start :: (tokens ++ [close]))
  | call {args : List Expr} {name start close : Token} {tokens : List Token}
      (is_name : name.kind = .identifier) (opens : start.kind = .parenOpen)
      (listed : Listed Expr.WrittenAs args tokens) (closes : close.kind = .parenClose) :
      Expr.WrittenAs (.call name.text args (name.span.to close.span))
        (name :: start :: (tokens ++ [close]))
  | list {items : List Expr} {start close : Token} {tokens : List Token}
      (opens : start.kind = .bracketOpen) (listed : Listed Expr.WrittenAs items tokens)
      (closes : close.kind = .bracketClose) :
      Expr.WrittenAs (.list items (start.span.to close.span)) (start :: (tokens ++ [close]))
  | set {items : List Expr} {start close : Token} {tokens : List Token}
      (opens : start.kind = .braceOpen) (listed : Listed Expr.WrittenAs items tokens)
      (closes : close.kind = .braceClose) :
      Expr.WrittenAs (.set items (start.span.to close.span)) (start :: (tokens ++ [close]))
  | method {receiver : Expr} {args : List Expr} {point name start close : Token}
      {before tokens : List Token} (written : receiver.WrittenAs before)
      (is_point : point.kind = .dot) (is_name : name.kind = .identifier)
      (opens : start.kind = .parenOpen) (listed : Listed Expr.WrittenAs args tokens)
      (closes : close.kind = .parenClose) :
      Expr.WrittenAs (.method receiver name.text args (receiver.span.to close.span))
        (before ++ point :: name :: start :: (tokens ++ [close]))
  | methodOf {receiver : Expr} {name : String} {args : List Expr} {span : Span} {word : Token}
      {before after : List Token} (call : Expr.WrittenAs (.call name args span) before)
      (is_of : word.kind = .keyword .of) (written : receiver.WrittenAs after) :
      Expr.WrittenAs (.method receiver name args (span.to receiver.span)) (before ++ word :: after)
  | unary {op : UnaryOp} {operand : Expr} {mark : Token} {tokens : List Token}
      (spelled : mark.kind = op.mark.kind) (written : operand.WrittenAs tokens) :
      Expr.WrittenAs (.unary op operand (mark.span.to operand.span)) (mark :: tokens)
  | binary {op : BinaryOp} {left right : Expr} {before marks after : List Token}
      (left_written : left.WrittenAs before) (spelled : marks.map (·.kind) ∈ op.spellings)
      (right_written : right.WrittenAs after) :
      Expr.WrittenAs (.ofBinary op left right) (before ++ (marks ++ after))

/-! ## Statements -/

/-- A parameter is written as its name. -/
inductive ParamWrittenAs : String → List Token → Prop
  | name {token : Token} (is_name : token.kind = .identifier) : ParamWrittenAs token.text [token]

/-- A variable of a declaration is written as its name, maybe with its value. -/
inductive BindingWrittenAs : String × Option Expr → List Token → Prop
  | bare {name : Token} (is_name : name.kind = .identifier) :
      BindingWrittenAs (name.text, none) [name]
  | initial {name mark : Token} {value : Expr} {tokens : List Token}
      (is_name : name.kind = .identifier) (assigns : mark.kind = .assign)
      (written : value.WrittenAs tokens) :
      BindingWrittenAs (name.text, some value) (name :: mark :: tokens)

/-- The bounds of a range and its step, where the range opens at the given span. -/
inductive RangeWrittenAs (start : Span) : Expr × Expr × Option Expr → List Token → Prop
  | upTo {last : Expr} {tokens : List Token} (written : last.WrittenAs tokens) :
      RangeWrittenAs start (.literal (.int "0") start, last, none) tokens
  | between {first last : Expr} {word toWord : Token} {tokens tokens' : List Token}
      (is_from : word.kind = .keyword .fromWord) (first_written : first.WrittenAs tokens)
      (is_to : toWord.kind = .keyword .to) (last_written : last.WrittenAs tokens') :
      RangeWrittenAs start (first, last, none) (word :: (tokens ++ toWord :: tokens'))
  | stepping {first last step : Expr} {word toWord stepWord : Token}
      {tokens tokens' tokens'' : List Token}
      (is_from : word.kind = .keyword .fromWord) (first_written : first.WrittenAs tokens)
      (is_to : toWord.kind = .keyword .to) (last_written : last.WrittenAs tokens')
      (is_step : stepWord.kind = .keyword .step) (step_written : step.WrittenAs tokens'') :
      RangeWrittenAs start (first, last, some step)
        (word :: (tokens ++ toWord :: (tokens' ++ stepWord :: tokens'')))

/-- What a function gives, where empty parentheses are nothing. -/
inductive GivenWrittenAs : Option Expr → List Token → Prop
  | nothing : GivenWrittenAs none []
  | empty {start close : Token} (opens : start.kind = .parenOpen)
      (closes : close.kind = .parenClose) : GivenWrittenAs none [start, close]
  | value {value : Expr} {tokens : List Token} (written : value.WrittenAs tokens) :
      GivenWrittenAs (some value) tokens

mutual

/-- A statement may be written with these tokens, apart from a point at its end. -/
inductive Stmt.WrittenAs : Stmt → List Token → Prop
  | var {bindings : List (String × Option Expr)} {word last : Token} {tokens : List Token}
      (is_word : word.kind = .keyword .var) (listed : Listed BindingWrittenAs bindings tokens)
      (ends : (word :: tokens).getLast? = some last) :
      Stmt.WrittenAs (.var bindings (word.span.to last.span)) (word :: tokens)
  | letBe {value : Expr} {word name be : Token} {tokens : List Token}
      (is_word : word.kind = .keyword .letWord) (is_name : name.kind = .identifier)
      (is_be : be.kind = .keyword .be) (written : value.WrittenAs tokens) :
      Stmt.WrittenAs (.letBe name.text value (word.span.to value.span)) (word :: name :: be :: tokens)
  | assign {op : Option BinaryOp} {value : Expr} {name mark : Token} {tokens : List Token}
      (is_name : name.kind = .identifier) (assigns : Parser.assignmentOperator mark.kind = some op)
      (stands : Parser.isStep mark.kind = false) (written : value.WrittenAs tokens) :
      Stmt.WrittenAs (.assign name.text op value (name.span.to value.span)) (name :: mark :: tokens)
  | stepAfter {op : Option BinaryOp} {name mark : Token} (is_name : name.kind = .identifier)
      (assigns : Parser.assignmentOperator mark.kind = some op)
      (steps : Parser.isStep mark.kind = true) :
      Stmt.WrittenAs (.assign name.text op (Parser.one mark.span) (name.span.to mark.span))
        [name, mark]
  | stepBefore {op : BinaryOp} {name mark : Token} (is_name : name.kind = .identifier)
      (assigns : Parser.assignmentOperator mark.kind = some (some op))
      (steps : Parser.isStep mark.kind = true) :
      Stmt.WrittenAs (.assign name.text (some op) (Parser.one mark.span) (mark.span.to name.span))
        [mark, name]
  | choose {condition : Expr} {body : List Stmt} {others : Arms} {word colon close : Token}
      {tokens block later : List Token} (is_word : word.kind = .keyword .ifWord)
      (written : condition.WrittenAs tokens) (is_colon : colon.kind = .colon)
      (inside : BlockWrittenAs body block) (others_written : others.WrittenAs later)
      (closes : close.kind = .semicolon) :
      Stmt.WrittenAs (.choose (.arm condition body others) (word.span.to close.span))
        (word :: (tokens ++ colon :: (block ++ (later ++ [close]))))
  | whileLoop {condition : Expr} {body : List Stmt} {word colon close : Token}
      {tokens block : List Token} (is_word : word.kind = .keyword .whileWord)
      (written : condition.WrittenAs tokens) (is_colon : colon.kind = .colon)
      (inside : BlockWrittenAs body block) (closes : close.kind = .semicolon) :
      Stmt.WrittenAs (.whileLoop condition body (word.span.to close.span))
        (word :: (tokens ++ colon :: (block ++ [close])))
  | forRange {first last : Expr} {step : Option Expr} {body : List Stmt}
      {word name inWord range start stop colon close : Token} {bounds block : List Token}
      (is_word : word.kind = .keyword .forWord) (is_name : name.kind = .identifier)
      (is_in : inWord.kind = .keyword .inWord) (is_range : range.kind = .keyword .range)
      (opens : start.kind = .parenOpen)
      (bounds_written : RangeWrittenAs start.span (first, last, step) bounds)
      (stops : stop.kind = .parenClose) (is_colon : colon.kind = .colon)
      (inside : BlockWrittenAs body block) (closes : close.kind = .semicolon) :
      Stmt.WrittenAs (.forRange name.text first last step body (word.span.to close.span))
        (word :: name :: inWord :: range :: start ::
          (bounds ++ stop :: colon :: (block ++ [close])))
  | forIn {items : Expr} {body : List Stmt} {word name inWord colon close : Token}
      {tokens block : List Token} (is_word : word.kind = .keyword .forWord)
      (is_name : name.kind = .identifier) (is_in : inWord.kind = .keyword .inWord)
      (written : items.WrittenAs tokens) (is_colon : colon.kind = .colon)
      (inside : BlockWrittenAs body block) (closes : close.kind = .semicolon) :
      Stmt.WrittenAs (.forIn name.text items body (word.span.to close.span))
        (word :: name :: inWord :: (tokens ++ colon :: (block ++ [close])))
  | declare {params : List String} {word name start close : Token} {sign tokens : List Token}
      (is_word : word.kind = .keyword .function) (is_name : name.kind = .identifier)
      (is_sign : IsOptional .at sign) (opens : start.kind = .parenOpen)
      (listed : Listed ParamWrittenAs params tokens) (closes : close.kind = .parenClose) :
      Stmt.WrittenAs (.define 0 name.text params none (word.span.to close.span))
        (word :: name :: (sign ++ start :: (tokens ++ [close])))
  | define {params : List String} {body : List Stmt} {word name start stop colon close : Token}
      {sign tokens block : List Token} (is_word : word.kind = .keyword .function)
      (is_name : name.kind = .identifier) (is_sign : IsOptional .at sign)
      (opens : start.kind = .parenOpen) (listed : Listed ParamWrittenAs params tokens)
      (stops : stop.kind = .parenClose) (is_colon : colon.kind = .colon)
      (inside : BlockWrittenAs body block) (closes : close.kind = .semicolon) :
      Stmt.WrittenAs (.define 0 name.text params (some body) (word.span.to close.span))
        (word :: name :: (sign ++ start :: (tokens ++ stop :: colon :: (block ++ [close]))))
  | expression {value : Expr} {tokens : List Token} (written : value.WrittenAs tokens) :
      Stmt.WrittenAs (.expression value value.span) tokens
  | give {value : Option Expr} {word last : Token} {tokens : List Token}
      (is_word : word.kind = .keyword .give) (given : GivenWrittenAs value tokens)
      (ends : (word :: tokens).getLast? = some last) :
      Stmt.WrittenAs (.give value (word.span.to last.span)) (word :: tokens)
  | pass {word : Token} (is_word : word.kind = .keyword .pass) :
      Stmt.WrittenAs (.pass word.span) [word]

/-- Statements may be written with these tokens, each with a point at its end or without. -/
inductive BlockWrittenAs : List Stmt → List Token → Prop
  | nil : BlockWrittenAs [] []
  | cons {stmt : Stmt} {rest : List Stmt} {tokens point later : List Token}
      (written : stmt.WrittenAs tokens) (ends : IsOptional .dot point)
      (rest_written : BlockWrittenAs rest later) :
      BlockWrittenAs (stmt :: rest) (tokens ++ (point ++ later))

/-- The arms of a conditional statement after the first one may be written with these tokens. -/
inductive Arms.WrittenAs : Arms → List Token → Prop
  | arm {condition : Expr} {body : List Stmt} {others : Arms} {word colon : Token}
      {tokens block later : List Token} (is_word : word.kind = .keyword .elif)
      (written : condition.WrittenAs tokens) (is_colon : colon.kind = .colon)
      (inside : BlockWrittenAs body block) (others_written : others.WrittenAs later) :
      Arms.WrittenAs (.arm condition body others) (word :: (tokens ++ colon :: (block ++ later)))
  | otherwise {body : List Stmt} {word colon : Token} {block : List Token}
      (is_word : word.kind = .keyword .elseWord) (is_colon : colon.kind = .colon)
      (inside : BlockWrittenAs body block) :
      Arms.WrittenAs (.otherwise body) (word :: colon :: block)
  | nothing : Arms.WrittenAs .nothing []

end

/-- A statement with a point at its end or without. -/
def Stmt.EndsAs (stmt : Stmt) (taken : List Token) : Prop :=
  ∃ tokens point, taken = tokens ++ point ∧ stmt.WrittenAs tokens ∧ IsOptional .dot point

/-- One more statement comes at the end of a block. -/
theorem BlockWrittenAs.concat {stmt : Stmt} {taken : List Token} (ended : stmt.EndsAs taken) :
    ∀ {block : List Stmt} {tokens : List Token}, BlockWrittenAs block tokens →
      BlockWrittenAs (block ++ [stmt]) (tokens ++ taken)
  | _, _, .nil => by
      obtain ⟨tokens, point, rfl, written, ends⟩ := ended
      simpa only [List.append_nil, List.nil_append] using BlockWrittenAs.cons written ends .nil
  | _, _, .cons written ends rest_written => by
      rw [List.append_assoc, List.append_assoc, List.cons_append]
      exact .cons written ends (rest_written.concat ended)

end DotScript
