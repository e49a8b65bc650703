import DotScript.Parser.Program
import DotScript.Proofs.Tree.Parts
import Mathlib.Data.List.Nodup

/-!
# What the parser accepts

A parser yields a property if the property holds for every result it succeeds with.  The statements
that the parser yields are in order at every depth: no function has two parameters of one name or an
empty body, and what is done to the old value of a variable is one of five operators.
-/

namespace DotScript

/-- The operators that an assignment may apply to the old value. -/
def BinaryOp.assigns : BinaryOp → Bool
  | .add | .sub | .mul | .div | .mod => true
  | _ => false

/-- What the parser makes sure of in a statement, apart from the statements in it. -/
def Stmt.IsAccepted : Stmt → Prop
  | .define _ _ params body _ => params.Nodup ∧ body ≠ some []
  | .assign _ (some op) _ _ => op.assigns
  | _ => True

namespace Parser

variable {α β : Type}

/-- Every result that the parser succeeds with has the property. -/
def Yields (parser : Parser α) (result : α → Prop) : Prop :=
  ∀ cursor value next, parser.run cursor = .ok (value, next) → result value

namespace Yields

variable {property : α → Prop} {result : β → Prop}

theorem pure {value : α} (holds : property value) : Yields (pure value) property := by
  intro cursor found next run
  cases run
  exact holds

/-- A result that nothing has to be known about. -/
theorem any (parser : Parser α) : Yields parser fun _ => True :=
  fun _ _ _ _ => trivial

theorem mono {parser : Parser α} {weaker : α → Prop} (yields : parser.Yields property)
    (implies : ∀ value, property value → weaker value) : parser.Yields weaker :=
  fun cursor value next run => implies value (yields cursor value next run)

theorem complain (token : Token) (fault : SyntaxFault) :
    Yields (complain token fault) property := by
  intro cursor found next run
  cases run

theorem refuse (wanted : Wanted) : Yields (refuse wanted) property := by
  intro cursor found next run
  cases run

theorem bind {first : Parser α} {next : α → Parser β} (yields : first.Yields property)
    (later : ∀ value, property value → (next value).Yields result) :
    (first >>= next).Yields result := by
  intro cursor found final run
  rw [StateT.run_bind] at run
  cases first_run : first.run cursor with
  | error diagnostic =>
      rw [first_run] at run
      cases run
  | ok pair =>
      obtain ⟨value, middle⟩ := pair
      rw [first_run] at run
      exact later value (yields cursor value middle first_run) middle found final run

/-- Only the last of two parsers decides what they yield together. -/
theorem of_last {first : Parser α} {next : α → Parser β}
    (later : ∀ value, (next value).Yields result) : (first >>= next).Yields result :=
  .bind (.any first) fun value _ => later value

theorem repeatAlong (property : α → Prop) {step : α → Parser (Option α)}
    (steps : ∀ state, property state → (step state).Yields fun answer =>
      ∀ value, answer = some value → property value) (tokens : List Token) {state : α}
    (holds : property state) : (repeatAlong step tokens state).Yields property := by
  induction tokens generalizing state with
  | nil =>
      refine .bind (steps state holds) fun answer found => ?_
      cases answer with
      | none => exact .pure holds
      | some value => exact .pure (found value rfl)
  | cons token tokens ih =>
      refine .bind (steps state holds) fun answer found => ?_
      cases answer with
      | none => exact .pure holds
      | some value => exact ih (found value rfl)

/-- A loop yields what its turns keep. -/
theorem whileSome (property : α → Prop) {step : α → Parser (Option α)}
    (steps : ∀ state, property state → (step state).Yields fun answer =>
      ∀ value, answer = some value → property value) {state : α} (holds : property state) :
    (whileSome step state).Yields property :=
  .of_last fun cursor => .repeatAlong property steps cursor.rest holds

/-- Pieces that may depend on the earlier ones yield what every one of them adds to. -/
theorem separated (earlier : List α → Prop) {item : List α → Parser α}
    (nothing : earlier []) (items : ∀ done, earlier done → (item done).Yields fun value =>
      earlier (value :: done)) : (separated item).Yields fun values => earlier values.reverse := by
  refine .bind (items [] nothing) fun first holds => ?_
  refine .bind (.whileSome earlier ?_ holds) fun values held => ?_
  · intro done held
    refine .of_last fun more => ?_
    split
    · refine .bind (items done held) fun value added => ?_
      refine .pure fun _ same => ?_
      cases same
      exact added
    · exact .pure nofun
  · refine .pure ?_
    rwa [List.reverse_reverse]

end Yields

/-! ## Statements -/

theorem parameters_yields (function : String) : (parameters function).Yields List.Nodup := by
  refine .of_last fun kind => ?_
  split
  · exact .pure .nil
  · refine (Yields.separated List.Nodup .nil ?_).mono fun _ => List.nodup_reverse.1
    intro earlier distinct
    refine .of_last fun param => ?_
    split
    · exact .complain _ _
    · rename_i new
      refine .pure (List.nodup_cons.2 ⟨?_, distinct⟩)
      simpa using new

section Statements

variable {below : Grammar} (nested : below.statement.Yields (Stmt.Every Stmt.IsAccepted))

include nested

theorem block_yields (ends : Token.Kind → Bool) :
    (block below ends).Yields (EveryStmt Stmt.IsAccepted) := by
  refine .bind (.whileSome (EveryStmt Stmt.IsAccepted) ?_ trivial) fun stmts holds => ?_
  · intro stmts holds
    refine .of_last fun kind => ?_
    split
    · exact .pure nofun
    refine .of_last fun cursor => ?_
    split
    · exact .refuse _
    refine .bind nested fun stmt accepted => .pure fun _ same => ?_
    cases same
    exact ⟨accepted, holds⟩
  · refine .pure ?_
    rw [everyStmt_iff] at holds ⊢
    simpa using holds

theorem functionBody_yields (name : Token) :
    (functionBody below name).Yields fun result =>
      result.1 ≠ [] ∧ EveryStmt Stmt.IsAccepted result.1 := by
  refine .of_last fun _ => ?_
  refine .bind (block_yields nested _) fun body accepted => ?_
  refine .of_last fun close => ?_
  split
  · exact .complain _ _
  · rename_i nonempty
    refine .of_last fun _ => .pure ⟨?_, accepted⟩
    simpa using nonempty

theorem functionStatement_yields :
    (functionStatement below).Yields (Stmt.Every Stmt.IsAccepted) := by
  refine .of_last fun start => .of_last fun name => .of_last fun _ => .of_last fun _ => ?_
  refine .bind (parameters_yields _) fun params distinct => ?_
  refine .of_last fun close => .of_last fun kind => ?_
  have declared : Stmt.Every Stmt.IsAccepted
      (.define 0 name.text params none (start.span.to close.span)) :=
    ⟨⟨distinct, by rintro ⟨⟩⟩, trivial⟩
  split
  · exact .of_last fun _ => .pure declared
  · exact .of_last fun _ => .pure declared
  · refine .bind (functionBody_yields nested name) fun result accepted => .pure ?_
    exact ⟨⟨distinct, by simpa using accepted.1⟩, accepted.2⟩

theorem arm_yields (word : String) :
    (arm below word).Yields fun arm => EveryStmt Stmt.IsAccepted arm.2 := by
  refine .of_last fun condition => .of_last fun _ => ?_
  exact .bind (block_yields nested _) fun body accepted => .pure accepted

theorem laterArms_yields :
    (laterArms below).Yields fun arms => ∀ arm ∈ arms, EveryStmt Stmt.IsAccepted arm.2 := by
  refine .bind (.whileSome (fun arms : List (Expr × List Stmt) =>
    ∀ arm ∈ arms, EveryStmt Stmt.IsAccepted arm.2) ?_ nofun) fun arms holds => ?_
  · intro arms holds
    refine .of_last fun more => ?_
    split
    · refine .bind (arm_yields nested _) fun arm accepted => .pure fun _ same => ?_
      cases same
      exact List.forall_mem_cons.2 ⟨accepted, holds⟩
    · exact .pure nofun
  · refine .pure ?_
    simpa using holds

theorem lastArm_yields : (lastArm below).Yields (Arms.Every Stmt.IsAccepted) := by
  refine .of_last fun more => ?_
  split
  · exact .of_last fun _ => .bind (block_yields nested _) fun body accepted => .pure accepted
  · exact .pure trivial

omit nested in
theorem every_foldr_arm (arms : List (Expr × List Stmt)) (last : Arms)
    (accepted : ∀ arm ∈ arms, EveryStmt Stmt.IsAccepted arm.2)
    (last_accepted : last.Every Stmt.IsAccepted) :
    (arms.foldr (fun (condition, body) others => .arm condition body others) last).Every
      Stmt.IsAccepted := by
  induction arms with
  | nil => exact last_accepted
  | cons arm arms ih =>
      obtain ⟨first, later⟩ := List.forall_mem_cons.1 accepted
      exact ⟨first, ih later⟩

theorem ifStatement_yields : (ifStatement below).Yields (Stmt.Every Stmt.IsAccepted) := by
  refine .of_last fun start => ?_
  refine .bind (arm_yields nested _) fun first first_accepted => ?_
  refine .bind (laterArms_yields nested) fun later later_accepted => ?_
  refine .bind (lastArm_yields nested) fun last last_accepted => ?_
  refine .of_last fun close => .of_last fun _ => .pure ⟨trivial, ?_⟩
  refine every_foldr_arm _ _ ?_ last_accepted
  exact List.forall_mem_cons.2 ⟨first_accepted, later_accepted⟩

theorem whileStatement_yields : (whileStatement below).Yields (Stmt.Every Stmt.IsAccepted) := by
  refine .of_last fun start => .of_last fun condition => .of_last fun _ => ?_
  refine .bind (block_yields nested _) fun body accepted => ?_
  exact .of_last fun close => .of_last fun _ => .pure ⟨trivial, accepted⟩

theorem forClause_yields (name : String) :
    (forClause below name).Yields fun clause =>
      ∀ span, (clause span).Every Stmt.IsAccepted := by
  refine .of_last fun ranged => ?_
  split
  · refine .of_last fun mark => .of_last fun bounds => .of_last fun _ => .of_last fun _ => ?_
    exact .bind (block_yields nested _) fun body accepted => .pure fun span => ⟨trivial, accepted⟩
  · refine .of_last fun values => .of_last fun _ => ?_
    exact .bind (block_yields nested _) fun body accepted => .pure fun span => ⟨trivial, accepted⟩

theorem forStatement_yields : (forStatement below).Yields (Stmt.Every Stmt.IsAccepted) := by
  refine .of_last fun start => .of_last fun name => .of_last fun _ => ?_
  refine .bind (forClause_yields nested _) fun clause accepted => ?_
  exact .of_last fun close => .of_last fun _ => .pure (accepted _)

omit nested in
theorem assigns_of_assignmentOperator {kind : Token.Kind} {op : BinaryOp}
    (found : assignmentOperator kind = some (some op)) : op.assigns := by
  revert found
  unfold assignmentOperator
  split <;> rintro ⟨⟩ <;> rfl

omit nested in
theorem nameStatement_yields : (nameStatement below).Yields (Stmt.Every Stmt.IsAccepted) := by
  refine .of_last fun kind => ?_
  cases found : assignmentOperator kind with
  | none => exact .of_last fun value => .of_last fun _ => .pure trivial
  | some op =>
      have accepted (name : String) (value : Expr) (span : Span) :
          (Stmt.assign name op value span).Every Stmt.IsAccepted := by
        cases op with
        | none => exact trivial
        | some op => exact assigns_of_assignmentOperator found
      refine .of_last fun name => .of_last fun mark => ?_
      split
      · exact .of_last fun _ => .of_last fun _ => .pure (accepted _ _ _)
      · exact .of_last fun _ => .of_last fun _ => .pure (accepted _ _ _)

/-- A statement with accepted statements in its blocks is accepted. -/
theorem statement_yields : (statement below).Yields (Stmt.Every Stmt.IsAccepted) := by
  refine .of_last fun kind => ?_
  split
  · exact .of_last fun start => .of_last fun bindings => .of_last fun span => .of_last fun _ =>
      .pure trivial
  · exact .of_last fun start => .of_last fun name => .of_last fun _ => .of_last fun value =>
      .of_last fun _ => .pure trivial
  · exact functionStatement_yields nested
  · exact ifStatement_yields nested
  · exact whileStatement_yields nested
  · exact forStatement_yields nested
  · exact .of_last fun start => .of_last fun value => .of_last fun span => .of_last fun _ =>
      .pure trivial
  · exact .of_last fun word => .of_last fun _ => .pure trivial
  · exact .of_last fun mark => .of_last fun name => .of_last fun _ => .pure rfl
  · exact .of_last fun mark => .of_last fun name => .of_last fun _ => .pure rfl
  · exact nameStatement_yields
  · exact .of_last fun value => .of_last fun _ => .pure trivial

end Statements

theorem grammar_yields (levels : Nat) :
    (grammar levels).statement.Yields (Stmt.Every Stmt.IsAccepted) := by
  induction levels with
  | zero => exact .of_last fun cursor => .complain _ _
  | succ levels ih => exact statement_yields ih

theorem statements_yields {rules : Grammar}
    (accepted : rules.statement.Yields (Stmt.Every Stmt.IsAccepted)) :
    (statements rules).Yields (EveryStmt Stmt.IsAccepted) := by
  refine .bind (.whileSome (EveryStmt Stmt.IsAccepted) ?_ trivial) fun stmts holds => ?_
  · intro stmts holds
    refine .of_last fun cursor => ?_
    split
    · exact .pure nofun
    refine .bind accepted fun stmt first => .pure fun _ same => ?_
    cases same
    exact ⟨first, holds⟩
  · refine .pure ?_
    rw [everyStmt_iff] at holds ⊢
    simpa using holds

end Parser

/-- A program that parses is accepted at every depth. -/
theorem Program.everyStmt_of_parse {source : String} {program : Program}
    (parsed : Program.parse source = .ok program) : EveryStmt Stmt.IsAccepted program := by
  rw [Program.parse, Program.ofTokens] at parsed
  cases run : (Parser.statements (Parser.grammar maxNesting)).run
      (.ofTokens (Token.scan source)) with
  | error diagnostic =>
      rw [run] at parsed
      cases parsed
  | ok result =>
      obtain ⟨found, rest⟩ := result
      rw [run] at parsed
      cases parsed
      exact Parser.statements_yields (Parser.grammar_yields maxNesting) _ found rest run

end DotScript
