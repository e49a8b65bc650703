import DotScript.Proofs.Parser.Progress

/-!
# More levels

With too few levels left a parser complains about depth, and does nothing else: with more levels it
does the same, or there was that complaint.  So the limit of levels never changes what a text means,
and a complaint about anything else stands whatever the limit is: `grammar_deepens`.
-/

namespace DotScript
namespace Parser

variable {α β : Type}

/-- The second parser does the same as the first one, unless that complains about depth. -/
class Deepens (parser parser' : Parser α) : Prop where
  run_eq_or : ∀ cursor, parser'.run cursor = parser.run cursor ∨
    ∃ diagnostic, parser.run cursor = .error diagnostic ∧ diagnostic.fault = .malformed .tooDeep

namespace Deepens

theorem run_eq_of_ok {parser parser' : Parser α} [deepens : Deepens parser parser']
    {cursor next : Cursor} {value : α} (run : parser.run cursor = .ok (value, next)) :
    parser'.run cursor = .ok (value, next) := by
  rcases deepens.run_eq_or cursor with same | ⟨diagnostic, failed, _⟩
  · rw [same, run]
  · rw [run] at failed
    cases failed

theorem run_eq_of_error {parser parser' : Parser α} [deepens : Deepens parser parser']
    {cursor : Cursor} {diagnostic : Diagnostic} (run : parser.run cursor = .error diagnostic)
    (shallow : diagnostic.fault ≠ .malformed .tooDeep) :
    parser'.run cursor = .error diagnostic := by
  rcases deepens.run_eq_or cursor with same | ⟨_, failed, deep⟩
  · rw [same, run]
  · rw [run] at failed
    cases failed
    exact absurd deep shallow

theorem bind {first first' : Parser α} {next next' : α → Parser β} (deepens : Deepens first first')
    (later : ∀ value, Deepens (next value) (next' value)) :
    Deepens (first >>= next) (first' >>= next') where
  run_eq_or cursor := by
    cases run : first.run cursor with
    | error diagnostic =>
        rcases deepens.run_eq_or cursor with same | ⟨_, failed, deep⟩
        · rw [run_bind_of_error run, run_bind_of_error (same.trans run)]
          exact .inl rfl
        · exact .inr ⟨_, run_bind_of_error failed next, deep⟩
    | ok result =>
        rw [run_bind_of_ok run, run_bind_of_ok (run_eq_of_ok run)]
        exact (later result.1).run_eq_or result.2

theorem of_tooDeep (parser' : Parser α) : Deepens tooDeep parser' where
  run_eq_or cursor := .inr ⟨⟨.malformed .tooDeep, cursor.peek.span⟩, rfl, rfl⟩

end Deepens

instance (priority := low) (parser : Parser α) : Deepens parser parser where
  run_eq_or _ := .inl rfl

instance {first first' : Parser α} {next next' : α → Parser β} [Deepens first first']
    [∀ value, Deepens (next value) (next' value)] : Deepens (first >>= next) (first' >>= next') :=
  .bind inferInstance inferInstance

instance {condition : Prop} [Decidable condition] {yes yes' no no' : Parser α} [Deepens yes yes']
    [Deepens no no'] :
    Deepens (if condition then yes else no) (if condition then yes' else no') := by
  split <;> infer_instance

section Loops

variable {step step' : α → Parser (Option α)} [∀ state, Deepens (step state) (step' state)]

instance {next next' : α → Parser α} [∀ state, Deepens (next state) (next' state)] (state : α) :
    Deepens (turn step next state) (turn step' next' state) := by
  refine .bind inferInstance fun answer => ?_
  cases answer <;> infer_instance

instance (tokens : List Token) (state : α) :
    Deepens (repeatAlong step tokens state) (repeatAlong step' tokens state) := by
  induction tokens generalizing state with
  | nil => exact inferInstanceAs (Deepens (turn step pure state) (turn step' pure state))
  | cons token tokens ih =>
      exact inferInstanceAs (Deepens (turn step (repeatAlong step tokens) state)
        (turn step' (repeatAlong step' tokens) state))

instance (state : α) : Deepens (whileSome step state) (whileSome step' state) := by
  unfold whileSome
  infer_instance

instance {item item' : List α → Parser α} [∀ earlier, Deepens (item earlier) (item' earlier)] :
    Deepens (separated item) (separated item') := by
  unfold separated
  infer_instance

end Loops

/-! ## The grammar -/

/-- What is nested in the second grammar does the same, unless there are too few levels. -/
class Grammar.Deepens (below below' : Grammar) : Prop where
  expression : Parser.Deepens below.expression below'.expression
  power : Parser.Deepens below.power below'.power
  unary : Parser.Deepens below.unary below'.unary
  statement : Parser.Deepens below.statement below'.statement

attribute [instance] Grammar.Deepens.expression Grammar.Deepens.power Grammar.Deepens.unary
  Grammar.Deepens.statement

section Rules

variable {below below' : Grammar} [below.Deepens below']

instance (close : Token.Kind) (wanted : Wanted) :
    Deepens (items below close wanted) (items below' close wanted) := by
  unfold items
  infer_instance

instance : Deepens (nameOrCall below) (nameOrCall below') := by
  unfold nameOrCall
  infer_instance

instance : Deepens (group below) (group below') := by
  unfold group
  infer_instance

instance : Deepens (listLiteral below) (listLiteral below') := by
  unfold listLiteral
  infer_instance

instance : Deepens (setLiteral below) (setLiteral below') := by
  unfold setLiteral
  infer_instance

instance : Deepens (primary below) (primary below') := by
  refine .bind inferInstance fun token => ?_
  split <;> infer_instance

instance (receiver : Expr) : Deepens (methodCall below receiver) (methodCall below' receiver) := by
  unfold methodCall
  infer_instance

instance : Deepens (methodChain below) (methodChain below') := by
  unfold methodChain
  infer_instance

instance : Deepens (unary below) (unary below') := by
  refine .bind inferInstance fun start => .bind inferInstance fun answer => ?_
  cases answer <;> infer_instance

instance : Deepens (power below) (power below') := by
  unfold power
  infer_instance

omit [below.Deepens below'] in
theorem chainStep_deepens (operator : Parser (Option BinaryOp)) (operand operand' : Parser Expr)
    [Deepens operand operand'] (left : Expr) : Deepens
      (operator >>= fun answer => match answer with
        | some op => do return some (Expr.ofBinary op left (← operand))
        | none => (pure none : Parser (Option Expr)))
      (operator >>= fun answer => match answer with
        | some op => do return some (Expr.ofBinary op left (← operand'))
        | none => pure none) := by
  refine .bind inferInstance fun answer => ?_
  cases answer <;> infer_instance

omit [below.Deepens below'] in
theorem chain_deepens (operator : Parser (Option BinaryOp)) {operand operand' : Parser Expr}
    [Deepens operand operand'] : Deepens (chain operator operand) (chain operator operand') := by
  have steps := chainStep_deepens operator operand operand'
  unfold chain
  infer_instance

instance : Deepens (factor below) (factor below') :=
  chain_deepens _

instance : Deepens (term below) (term below') :=
  chain_deepens _

instance : Deepens (comparison below) (comparison below') :=
  chain_deepens _

instance : Deepens (conjunction below) (conjunction below') :=
  chain_deepens _

instance : Deepens (disjunction below) (disjunction below') :=
  chain_deepens _

instance : Deepens (expression below) (expression below') := by
  unfold expression
  infer_instance

instance (ends : Token.Kind → Bool) : Deepens (block below ends) (block below' ends) := by
  unfold block
  infer_instance

instance : Deepens (binding below) (binding below') := by
  unfold binding
  infer_instance

instance : Deepens (varStatement below) (varStatement below') := by
  unfold varStatement
  infer_instance

instance : Deepens (letStatement below) (letStatement below') := by
  unfold letStatement
  infer_instance

instance (op : Option BinaryOp) : Deepens (assignment below op) (assignment below' op) := by
  unfold assignment
  infer_instance

instance (name : Token) : Deepens (functionBody below name) (functionBody below' name) := by
  unfold functionBody
  infer_instance

instance : Deepens (functionStatement below) (functionStatement below') := by
  refine .bind inferInstance fun start => .bind inferInstance fun name => ?_
  refine .bind inferInstance fun _ => .bind inferInstance fun _ => .bind inferInstance fun params => ?_
  refine .bind inferInstance fun close => .bind inferInstance fun kind => ?_
  split <;> infer_instance

instance (word : String) : Deepens (arm below word) (arm below' word) := by
  unfold arm
  infer_instance

instance : Deepens (laterArms below) (laterArms below') := by
  unfold laterArms
  infer_instance

instance : Deepens (lastArm below) (lastArm below') := by
  unfold lastArm
  infer_instance

instance : Deepens (ifStatement below) (ifStatement below') := by
  unfold ifStatement
  infer_instance

instance : Deepens (whileStatement below) (whileStatement below') := by
  unfold whileStatement
  infer_instance

instance (start : Span) : Deepens (rangeBounds below start) (rangeBounds below' start) := by
  unfold rangeBounds
  infer_instance

instance (name : String) : Deepens (forClause below name) (forClause below' name) := by
  refine .bind inferInstance fun ranged => ?_
  split
  · refine .bind inferInstance fun mark => .bind inferInstance fun (first, last, step) => ?_
    infer_instance
  · infer_instance

instance : Deepens (forStatement below) (forStatement below') := by
  unfold forStatement
  infer_instance

instance : Deepens (givenValue below) (givenValue below') := by
  unfold givenValue
  infer_instance

instance : Deepens (giveStatement below) (giveStatement below') := by
  unfold giveStatement
  infer_instance

instance : Deepens (expressionStatement below) (expressionStatement below') := by
  unfold expressionStatement
  infer_instance

instance : Deepens (nameStatement below) (nameStatement below') := by
  refine .bind inferInstance fun kind => ?_
  split <;> infer_instance

instance : Deepens (statement below) (statement below') := by
  refine .bind inferInstance fun kind => ?_
  split <;> infer_instance

instance : Deepens (statements below) (statements below') := by
  unfold statements
  infer_instance

end Rules

/-- With more levels left the grammar does the same, unless there were too few. -/
theorem grammar_deepens {levels levels' : Nat} (fewer : levels ≤ levels') :
    (grammar levels).Deepens (grammar levels') := by
  induction levels generalizing levels' with
  | zero => exact ⟨.of_tooDeep _, .of_tooDeep _, .of_tooDeep _, .of_tooDeep _⟩
  | succ levels ih =>
      obtain ⟨levels', rfl⟩ : ∃ below, levels' = below + 1 := ⟨levels' - 1, by omega⟩
      have := ih (Nat.le_of_succ_le_succ fewer)
      exact {
        expression := inferInstanceAs (Deepens (expression (grammar levels)) (expression _))
        power := inferInstanceAs (Deepens (power (grammar levels)) (power _))
        unary := inferInstanceAs (Deepens (unary (grammar levels)) (unary _))
        statement := inferInstanceAs (Deepens (statement (grammar levels)) (statement _)) }

end Parser
end DotScript
