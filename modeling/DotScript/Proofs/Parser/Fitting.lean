import DotScript.Parser.Program
import DotScript.Proofs.Source.Joining
import DotScript.Proofs.Tree.Fitting

/-!
# Places and numerals in parsed trees

The places in a tree are those of tokens, or reach from one token to another, and its integers are
those of tokens, or the numbers zero and one where the source leaves them out.  So a tree fits if the
tokens do, and complaints are about places of tokens: `statements_fit`.  No number is complained
about as such.
-/

namespace DotScript

/-- What places and numerals have to be like for trees to fit. -/
structure Suits (place : Span → Prop) (numeral : String → Prop) : Prop where
  /-- A place may reach from one token to another. -/
  reach : ∀ first last, place first → place last → place (first.to last)
  /-- A range without a first bound starts at zero. -/
  zero : numeral "0"
  /-- A step is one. -/
  one : numeral "1"

/-- The place of a token is as it should be, and so is its number. -/
structure Token.Fits (place : Span → Prop) (numeral : String → Prop) (token : Token) : Prop where
  span : place token.span
  int : token.kind = .int → numeral token.text
  float : token.kind = .float → (FloatText.read token.text).isSome = true

/-- All tokens around a cursor fit. -/
structure Cursor.Fits (place : Span → Prop) (numeral : String → Prop) (cursor : Cursor) : Prop where
  previous : ∀ token, cursor.previous = some token → token.Fits place numeral
  rest : ∀ token ∈ cursor.rest, token.Fits place numeral
  finish : cursor.finish.Fits place numeral

/-- The complaint is about something else than the spelling of a number, at a place as it should
be. -/
structure Diagnostic.Fits (place : Span → Prop) (diagnostic : Diagnostic) : Prop where
  span : place diagnostic.span
  fault : ∀ found, diagnostic.fault ≠ .malformed (.expected .wellFormedNumber found)

namespace Parser

variable {α β : Type} {place : Span → Prop} {numeral : String → Prop}

theorem peek_fits {cursor : Cursor} (fits : cursor.Fits place numeral) :
    cursor.peek.Fits place numeral := by
  rw [Cursor.peek]
  cases found : cursor.rest with
  | nil => exact fits.finish
  | cons token rest =>
      apply fits.rest
      rw [found]
      exact List.mem_cons_self

/-- Where all tokens fit, they still do after the parser, and its result or complaint does. -/
def Fits (place : Span → Prop) (numeral : String → Prop) (parser : Parser α) (post : α → Prop) :
    Prop :=
  ∀ cursor, cursor.Fits place numeral →
    match parser.run cursor with
    | .ok (value, next) => post value ∧ next.Fits place numeral
    | .error diagnostic => diagnostic.Fits place

namespace Fits

variable {post : α → Prop} {after : β → Prop}

theorem pure {value : α} (holds : post value) : Fits place numeral (pure value) post :=
  fun _ fits => ⟨holds, fits⟩

theorem get : Fits place numeral (get : Parser Cursor) (Cursor.Fits place numeral) :=
  fun _ fits => ⟨fits, fits⟩

theorem complain {token : Token} (fits : token.Fits place numeral) {fault : SyntaxFault}
    (other : ∀ found, fault ≠ .expected .wellFormedNumber found) :
    Fits place numeral (complain token fault) post :=
  fun _ _ => ⟨fits.span, fun found same => other found (Fault.malformed.inj same)⟩

theorem bind {first : Parser α} {next : α → Parser β} (fits : Fits place numeral first post)
    (later : ∀ value, post value → Fits place numeral (next value) after) :
    Fits place numeral (first >>= next) after := by
  intro cursor cursor_fits
  have here := fits cursor cursor_fits
  rw [StateT.run_bind]
  cases run : first.run cursor with
  | error diagnostic =>
      rw [run] at here
      exact here
  | ok pair =>
      rw [run] at here
      exact later pair.1 here.1 pair.2 here.2

theorem mono {parser : Parser α} {weaker : α → Prop} (fits : Fits place numeral parser post)
    (implies : ∀ value, post value → weaker value) : Fits place numeral parser weaker := by
  intro cursor cursor_fits
  have here := fits cursor cursor_fits
  cases run : parser.run cursor with
  | error diagnostic =>
      rw [run] at here
      exact here
  | ok pair =>
      rw [run] at here
      exact ⟨implies _ here.1, here.2⟩

theorem refuse {wanted : Wanted} (other : wanted ≠ .wellFormedNumber) :
    Fits place numeral (refuse wanted) post := by
  refine .bind .get fun cursor fits => .complain (peek_fits fits) fun found same => ?_
  unfold unexpected at same
  split at same
  · cases same
  · cases same
  · exact other (SyntaxFault.expected.inj same).1

theorem peek : Fits place numeral peek (Token.Fits place numeral) :=
  .bind .get fun _ fits => .pure (peek_fits fits)

theorem peekKind : Fits place numeral peekKind fun _ => True :=
  .bind .get fun _ _ => .pure trivial

theorem peekNextKind : Fits place numeral peekNextKind fun _ => True :=
  .bind .get fun _ _ => .pure trivial

theorem advance : Fits place numeral advance (Token.Fits place numeral) := by
  intro cursor fits
  obtain ⟨previous, rest, finish⟩ := cursor
  cases rest with
  | nil => exact ⟨fits.finish, fits⟩
  | cons token rest =>
      obtain ⟨first, later⟩ := List.forall_mem_cons.1 fits.rest
      refine ⟨first, ?_, later, fits.finish⟩
      intro other same
      cases same
      exact first

theorem accept (kind : Token.Kind) : Fits place numeral (accept kind) fun _ => True := by
  refine .bind .peekKind fun _ _ => ?_
  split
  · exact .bind .advance fun _ _ => .pure trivial
  · exact .pure trivial

theorem expect (kind : Token.Kind) {wanted : Wanted} (other : wanted ≠ .wellFormedNumber) :
    Fits place numeral (expect kind wanted) (Token.Fits place numeral) := by
  refine .bind .peekKind fun _ _ => ?_
  split
  · exact .advance
  · exact .refuse other

theorem expectKeyword (word : Keyword) :
    Fits place numeral (expectKeyword word) (Token.Fits place numeral) :=
  .expect _ nofun

theorem expectName (role : String) :
    Fits place numeral (expectName role) (Token.Fits place numeral) :=
  .expect _ nofun

theorem repeatAlong (post : α → Prop) {step : α → Parser (Option α)}
    (steps : ∀ state, post state → Fits place numeral (step state) fun answer =>
      ∀ value, answer = some value → post value) (tokens : List Token) {state : α}
    (holds : post state) : Fits place numeral (repeatAlong step tokens state) post := by
  induction tokens generalizing state with
  | nil =>
      refine .bind (steps state holds) fun answer found => ?_
      cases answer with
      | none => exact .pure holds
      | some value => exact .pure (found value rfl)
  | cons token tokens ih =>
      refine .bind (steps state holds) fun answer found => ?_
      cases answer with
      | none => exact .pure holds
      | some value => exact ih (found value rfl)

/-- A loop fits if its turns do. -/
theorem whileSome (post : α → Prop) {step : α → Parser (Option α)}
    (steps : ∀ state, post state → Fits place numeral (step state) fun answer =>
      ∀ value, answer = some value → post value) {state : α} (holds : post state) :
    Fits place numeral (whileSome step state) post :=
  .bind .get fun cursor _ => .repeatAlong post steps cursor.rest holds

theorem separated {item : List α → Parser α}
    (items : ∀ earlier, Fits place numeral (item earlier) post) :
    Fits place numeral (separated item) fun values => ∀ value ∈ values, post value := by
  refine .bind (items []) fun first holds => ?_
  refine .bind (.whileSome (fun values => ∀ value ∈ values, post value) ?_
    (List.forall_mem_singleton.2 holds)) fun values held => ?_
  · intro done held
    refine .bind (.accept .comma) fun more _ => ?_
    split
    · refine .bind (items done) fun value value_holds => .pure fun _ same => ?_
      cases same
      exact List.forall_mem_cons.2 ⟨value_holds, held⟩
    · exact .pure nofun
  · exact .pure fun value member => held value (List.mem_reverse.1 member)

end Fits

/-! ## Expressions -/

/-- The parsers of a grammar yield what fits. -/
structure Grammar.Fits (place : Span → Prop) (numeral : String → Prop) (rules : Grammar) :
    Prop where
  expression : Parser.Fits place numeral rules.expression (Expr.Fits place numeral)
  power : Parser.Fits place numeral rules.power (Expr.Fits place numeral)
  unary : Parser.Fits place numeral rules.unary (Expr.Fits place numeral)
  statement : Parser.Fits place numeral rules.statement (Stmt.Every (Stmt.Fits place numeral))

section Expressions

variable {below : Grammar} (nested : below.Fits place numeral) (suits : Suits place numeral)

include nested in
theorem items_fit (close : Token.Kind) {wanted : Wanted} (other : wanted ≠ .wellFormedNumber) :
    Fits place numeral (items below close wanted) fun result =>
      AllFit place numeral result.1 ∧ place result.2 := by
  have closed {values : List Expr} (fit : AllFit place numeral values) :
      Fits place numeral (do
        let token ← Parser.expect close wanted
        return (values, token.span)) fun result =>
        AllFit place numeral result.1 ∧ place result.2 :=
    .bind (.expect close other) fun _ token_fits => .pure ⟨fit, token_fits.span⟩
  refine .bind .peekKind fun kind _ => ?_
  split
  · exact closed trivial
  · refine .bind (Fits.separated fun _ => nested.expression) fun values fit => ?_
    exact closed ((allFit_iff values).2 fit)

include nested suits

theorem nameOrCall_fits : Fits place numeral (nameOrCall below) (Expr.Fits place numeral) := by
  refine .bind .advance fun name name_fits => .bind (.accept _) fun called _ => ?_
  split
  · exact .bind (items_fit nested _ nofun) fun result fit =>
      .pure ⟨fit.1, suits.reach _ _ name_fits.span fit.2⟩
  · exact .pure name_fits.span

omit nested suits in
theorem constant_fits {value : Literal} (fits : value.Fits numeral) :
    Fits place numeral (constant value) (Expr.Fits place numeral) :=
  .bind .advance fun _ token_fits => .pure ⟨fits, token_fits.span⟩

theorem group_fits : Fits place numeral (group below) (Expr.Fits place numeral) :=
  .bind .advance fun _ start_fits => .bind nested.expression fun _ inner_fits =>
    .bind (.expect _ nofun) fun _ close_fits =>
      .pure (inner_fits.withSpan (suits.reach _ _ start_fits.span close_fits.span))

theorem listLiteral_fits : Fits place numeral (listLiteral below) (Expr.Fits place numeral) :=
  .bind .advance fun _ start_fits => .bind (items_fit nested _ nofun) fun _ fit =>
    .pure ⟨fit.1, suits.reach _ _ start_fits.span fit.2⟩

theorem setLiteral_fits : Fits place numeral (setLiteral below) (Expr.Fits place numeral) :=
  .bind .advance fun _ start_fits => .bind (items_fit nested _ nofun) fun _ fit =>
    .pure ⟨fit.1, suits.reach _ _ start_fits.span fit.2⟩

theorem primary_fits : Fits place numeral (primary below) (Expr.Fits place numeral) := by
  refine .bind .peek fun token token_fits => ?_
  split
  next kind => exact constant_fits (token_fits.int kind)
  next kind =>
    -- a number with a point is spelled so that it can be read
    have readable := token_fits.float kind
    cases read : FloatText.read token.text with
    | some value => exact constant_fits trivial
    | none =>
        rw [read] at readable
        cases readable
  · exact constant_fits trivial
  · exact constant_fits trivial
  · exact constant_fits trivial
  · exact constant_fits trivial
  · exact nameOrCall_fits nested suits
  · exact group_fits nested suits
  · exact listLiteral_fits nested suits
  · exact setLiteral_fits nested suits
  · exact .refuse (by rintro ⟨⟩)

theorem methodChain_fits : Fits place numeral (methodChain below) (Expr.Fits place numeral) := by
  refine .bind (primary_fits nested suits) fun first first_fits =>
    .whileSome (Expr.Fits place numeral) (fun receiver receiver_fits => ?_) first_fits
  refine .bind .get fun cursor _ => ?_
  split
  · refine .bind .advance fun _ _ => .bind .advance fun name _ => .bind .advance fun _ _ => ?_
    refine .bind (items_fit nested _ nofun) fun result fit => .pure fun _ same => ?_
    cases same
    exact ⟨receiver_fits, fit.1, suits.reach _ _ receiver_fits.span fit.2⟩
  · exact .pure nofun

omit nested suits in
theorem unaryOperator_fits : Fits place numeral unaryOperator fun _ => True := by
  refine .bind (.accept _) fun _ _ => ?_
  split
  · exact .pure trivial
  refine .bind (.accept _) fun _ _ => ?_
  split <;> exact .pure trivial

theorem unary_fits : Fits place numeral (unary below) (Expr.Fits place numeral) := by
  refine .bind .peek fun start start_fits => .bind unaryOperator_fits fun op _ => ?_
  cases op with
  | none => exact methodChain_fits nested suits
  | some op =>
      exact .bind nested.unary fun operand operand_fits =>
        .pure ⟨operand_fits, suits.reach _ _ start_fits.span operand_fits.span⟩

omit nested in
theorem ofBinary_fits (op : BinaryOp) {left right : Expr} (left_fits : left.Fits place numeral)
    (right_fits : right.Fits place numeral) : (Expr.ofBinary op left right).Fits place numeral :=
  ⟨left_fits, right_fits, suits.reach _ _ left_fits.span right_fits.span⟩

theorem power_fits : Fits place numeral (power below) (Expr.Fits place numeral) := by
  refine .bind (unary_fits nested suits) fun base base_fits => .bind (.accept _) fun raised _ => ?_
  split
  · exact .bind nested.power fun exponent exponent_fits =>
      .pure (ofBinary_fits suits .pow base_fits exponent_fits)
  · exact .pure base_fits

omit nested in
theorem chain_fits {operator : Parser (Option BinaryOp)} {operand : Parser Expr}
    (operator_fits : Fits place numeral operator fun _ => True)
    (operand_fits : Fits place numeral operand (Expr.Fits place numeral)) :
    Fits place numeral (chain operator operand) (Expr.Fits place numeral) := by
  refine .bind operand_fits fun first first_fits =>
    .whileSome (Expr.Fits place numeral) (fun left left_fits => ?_) first_fits
  refine .bind operator_fits fun op _ => ?_
  cases op with
  | none => exact .pure nofun
  | some op =>
      refine .bind operand_fits fun right right_fits => .pure fun _ same => ?_
      cases same
      exact ofBinary_fits suits op left_fits right_fits

omit nested suits in
theorem factorOperator_fits : Fits place numeral factorOperator fun _ => True := by
  refine .bind (.accept _) fun _ _ => ?_
  split
  · exact .pure trivial
  refine .bind (.accept _) fun _ _ => ?_
  split
  · exact .pure trivial
  refine .bind (.accept _) fun _ _ => ?_
  split
  · exact .pure trivial
  refine .bind .get fun _ _ => ?_
  split <;> exact .pure trivial

omit nested suits in
theorem termOperator_fits : Fits place numeral termOperator fun _ => True := by
  refine .bind (.accept _) fun _ _ => ?_
  split
  · exact .pure trivial
  refine .bind (.accept _) fun _ _ => ?_
  split <;> exact .pure trivial

omit nested suits in
theorem take_fits (op : BinaryOp) : Fits place numeral (take op) fun _ => True :=
  .bind .advance fun _ _ => .pure trivial

omit nested suits in
theorem comparisonOperator_fits : Fits place numeral comparisonOperator fun _ => True := by
  refine .bind .peekKind fun kind _ => ?_
  split
  · exact take_fits _
  · exact take_fits _
  · exact take_fits _
  · exact take_fits _
  · exact take_fits _
  · exact take_fits _
  · exact take_fits _
  · refine .bind .advance fun _ _ => .bind (.accept _) fun _ _ => ?_
    split <;> exact .pure trivial
  · refine .bind .peekNextKind fun _ _ => ?_
    split
    · exact .bind .advance fun _ _ => take_fits _
    · exact .pure trivial
  · exact .pure trivial

omit nested suits in
theorem andOperator_fits : Fits place numeral andOperator fun _ => True := by
  refine .bind (.accept _) fun _ _ => ?_
  split <;> exact .pure trivial

omit nested suits in
theorem orOperator_fits : Fits place numeral orOperator fun _ => True := by
  refine .bind (.accept _) fun _ _ => ?_
  split <;> exact .pure trivial

theorem disjunction_fits : Fits place numeral (disjunction below) (Expr.Fits place numeral) :=
  chain_fits suits orOperator_fits <| chain_fits suits andOperator_fits <|
    chain_fits suits comparisonOperator_fits <| chain_fits suits termOperator_fits <|
      chain_fits suits factorOperator_fits (power_fits nested suits)

theorem expression_fits : Fits place numeral (expression below) (Expr.Fits place numeral) := by
  refine .bind (disjunction_fits nested suits) fun value value_fits =>
    .bind .peek fun mark mark_fits => .bind (.accept _) fun followed _ => ?_
  split
  · refine .bind (disjunction_fits nested suits) fun receiver receiver_fits => ?_
    split
    · exact .pure ⟨receiver_fits, value_fits.1, suits.reach _ _ value_fits.2 receiver_fits.span⟩
    · exact .complain mark_fits fun _ => by rintro ⟨⟩
  · exact .pure value_fits

end Expressions

/-! ## Statements -/

section Statements

variable {below : Grammar} (nested : below.Fits place numeral) (suits : Suits place numeral)

theorem terminator_fits : Fits place numeral terminator fun _ => True := by
  refine .bind (.accept _) fun _ _ => ?_
  split
  · exact .pure trivial
  refine .bind .peekKind fun _ _ => ?_
  split
  · exact .pure trivial
  · exact .refuse nofun

theorem skipPoint_fits : Fits place numeral skipPoint fun _ => True :=
  .bind (.accept _) fun _ _ => .pure trivial

include nested in
theorem block_fits (ends : Token.Kind → Bool) :
    Fits place numeral (block below ends) (EveryStmt (Stmt.Fits place numeral)) := by
  refine .bind (.whileSome (EveryStmt (Stmt.Fits place numeral)) ?_ trivial) fun stmts holds => ?_
  · intro stmts holds
    refine .bind .peekKind fun kind _ => ?_
    split
    · exact .pure nofun
    refine .bind .get fun cursor _ => ?_
    split
    · exact .refuse nofun
    refine .bind nested.statement fun stmt fits => .pure fun _ same => ?_
    cases same
    exact ⟨fits, holds⟩
  · refine .pure ?_
    rw [everyStmt_iff] at holds ⊢
    exact fun stmt member => holds stmt (List.mem_reverse.1 member)

include suits in
theorem spanFrom_fits {start : Span} (here : place start) :
    Fits place numeral (spanFrom start) place := by
  refine .bind .get fun cursor fits => ?_
  split
  next token found => exact .pure (suits.reach _ _ here (fits.previous token found).span)
  next => exact .pure here

include nested in
theorem binding_fits :
    Fits place numeral (binding below) fun result => OptionFits place numeral result.2 := by
  refine .bind (.expectName _) fun name _ => .bind (.accept _) fun given _ => ?_
  split
  · exact .bind nested.expression fun value fits => .pure (.some fits)
  · exact .pure .none

include nested suits

theorem varStatement_fits :
    Fits place numeral (varStatement below) (Stmt.Every (Stmt.Fits place numeral)) :=
  .bind (.expectKeyword _) fun _ start_fits =>
    .bind (.separated fun _ => binding_fits nested) fun _ fit =>
      .bind (spanFrom_fits suits start_fits.span) fun _ here =>
        .bind terminator_fits fun _ _ => .pure ⟨fit, here⟩

theorem letStatement_fits :
    Fits place numeral (letStatement below) (Stmt.Every (Stmt.Fits place numeral)) :=
  .bind (.expectKeyword _) fun _ start_fits => .bind (.expectName _) fun _ _ =>
    .bind (.expectKeyword _) fun _ _ => .bind nested.expression fun _ value_fits =>
      .bind terminator_fits fun _ _ =>
        .pure ⟨value_fits, suits.reach _ _ start_fits.span value_fits.span⟩

omit nested in
theorem one_fits {span : Span} (here : place span) : (one span).Fits place numeral :=
  ⟨suits.one, here⟩

theorem assignment_fits (op : Option BinaryOp) :
    Fits place numeral (assignment below op) (Stmt.Every (Stmt.Fits place numeral)) := by
  refine .bind .advance fun name name_fits => .bind .advance fun mark mark_fits => ?_
  have closed {value : Expr} (fits : value.Fits place numeral) :
      Fits place numeral (do
        terminator
        return .assign name.text op value (name.span.to value.span))
        (Stmt.Every (Stmt.Fits place numeral)) :=
    .bind terminator_fits fun _ _ => .pure ⟨fits, suits.reach _ _ name_fits.span fits.span⟩
  split
  · exact closed (one_fits suits mark_fits.span)
  · exact .bind nested.expression fun value fits => closed fits

omit nested in
theorem stepStatement_fits (op : BinaryOp) :
    Fits place numeral (stepStatement op) (Stmt.Every (Stmt.Fits place numeral)) :=
  .bind .advance fun _ mark_fits => .bind (.expectName _) fun _ name_fits =>
    .bind terminator_fits fun _ _ =>
      .pure ⟨one_fits suits mark_fits.span, suits.reach _ _ mark_fits.span name_fits.span⟩

omit nested suits in
theorem parameters_fit (function : String) :
    Fits place numeral (parameters function) fun _ => True := by
  refine .bind .peekKind fun kind _ => ?_
  split
  · exact .pure trivial
  have each (earlier : List String) : Fits place numeral (do
      let param ← Parser.expectName "parameter name"
      if earlier.contains param.text then
        Parser.complain param (.duplicateParameter param.text function)
      else
        return param.text) fun _ => True := by
    refine .bind (.expectName _) fun param param_fits => ?_
    split
    · exact .complain param_fits nofun
    · exact .pure trivial
  exact (Fits.separated each).mono fun _ _ => trivial

omit suits in
theorem functionBody_fits {name : Token} (name_fits : name.Fits place numeral) :
    Fits place numeral (functionBody below name) fun result =>
      EveryStmt (Stmt.Fits place numeral) result.1 ∧ place result.2 := by
  refine .bind (.expect _ nofun) fun _ _ => .bind (block_fits nested _) fun body fit =>
    .bind (.expect _ nofun) fun close close_fits => ?_
  split
  · exact .complain name_fits nofun
  · exact .bind skipPoint_fits fun _ _ => .pure ⟨fit, close_fits.span⟩

theorem functionStatement_fits :
    Fits place numeral (functionStatement below) (Stmt.Every (Stmt.Fits place numeral)) := by
  refine .bind (.expectKeyword _) fun start start_fits => .bind (.expectName _) fun name name_fits =>
    .bind (.accept _) fun _ _ => .bind (.expect _ nofun) fun _ _ =>
      .bind (parameters_fit _) fun params _ => .bind (.expect _ nofun) fun close close_fits =>
        .bind .peekKind fun kind _ => ?_
  have declared := suits.reach _ _ start_fits.span close_fits.span
  split
  · exact .bind skipPoint_fits fun _ _ => .pure ⟨declared, trivial⟩
  · exact .bind skipPoint_fits fun _ _ => .pure ⟨declared, trivial⟩
  · exact .bind (functionBody_fits nested name_fits) fun result fit =>
      .pure ⟨suits.reach _ _ start_fits.span fit.2, fit.1⟩

/-- A condition and its block fit. -/
def ArmFits (place : Span → Prop) (numeral : String → Prop) (arm : Expr × List Stmt) : Prop :=
  arm.1.Fits place numeral ∧ EveryStmt (Stmt.Fits place numeral) arm.2

omit suits in
theorem arm_fits (word : String) :
    Fits place numeral (arm below word) (ArmFits place numeral) :=
  .bind nested.expression fun _ condition_fits => .bind (.expect _ nofun) fun _ _ =>
    .bind (block_fits nested _) fun _ fit => .pure ⟨condition_fits, fit⟩

omit suits in
theorem laterArms_fit :
    Fits place numeral (laterArms below) fun arms => ∀ arm ∈ arms, ArmFits place numeral arm := by
  refine .bind (.whileSome (fun arms => ∀ arm ∈ arms, ArmFits place numeral arm) ?_ nofun)
    fun arms fit => .pure fun arm member => fit arm (List.mem_reverse.1 member)
  intro arms fit
  refine .bind (.accept _) fun more _ => ?_
  split
  · refine .bind (arm_fits nested _) fun arm arm_fits => .pure fun _ same => ?_
    cases same
    exact List.forall_mem_cons.2 ⟨arm_fits, fit⟩
  · exact .pure nofun

omit suits in
theorem lastArm_fits :
    Fits place numeral (lastArm below) fun arms =>
      arms.Fits place numeral ∧ arms.Every (Stmt.Fits place numeral) := by
  refine .bind (.accept _) fun more _ => ?_
  split
  · exact .bind (.expect _ nofun) fun _ _ => .bind (block_fits nested _) fun body fit =>
      .pure ⟨trivial, fit⟩
  · exact .pure ⟨trivial, trivial⟩

omit nested suits in
theorem foldr_arm_fits {arms : List (Expr × List Stmt)} {last : Arms}
    (fit : ∀ arm ∈ arms, ArmFits place numeral arm)
    (last_fits : last.Fits place numeral ∧ last.Every (Stmt.Fits place numeral)) :
    let all := arms.foldr (fun (condition, body) others => .arm condition body others) last
    all.Fits place numeral ∧ all.Every (Stmt.Fits place numeral) := by
  induction arms with
  | nil => exact last_fits
  | cons arm arms ih =>
      obtain ⟨first, later⟩ := List.forall_mem_cons.1 fit
      obtain ⟨conditions, blocks⟩ := ih later
      exact ⟨⟨first.1, conditions⟩, first.2, blocks⟩

theorem ifStatement_fits :
    Fits place numeral (ifStatement below) (Stmt.Every (Stmt.Fits place numeral)) := by
  refine .bind (.expectKeyword _) fun start start_fits => .bind (arm_fits nested _)
    fun first first_fits => .bind (laterArms_fit nested) fun later later_fit =>
      .bind (lastArm_fits nested) fun last last_fits => .bind (.expect _ nofun)
        fun close close_fits => .bind skipPoint_fits fun _ _ => .pure ?_
  obtain ⟨conditions, blocks⟩ :=
    foldr_arm_fits (List.forall_mem_cons.2 ⟨first_fits, later_fit⟩) last_fits
  exact ⟨⟨conditions, suits.reach _ _ start_fits.span close_fits.span⟩, blocks⟩

theorem whileStatement_fits :
    Fits place numeral (whileStatement below) (Stmt.Every (Stmt.Fits place numeral)) :=
  .bind (.expectKeyword _) fun _ start_fits => .bind nested.expression
    fun _ condition_fits => .bind (.expect _ nofun) fun _ _ =>
      .bind (block_fits nested _) fun _ fit => .bind (.expect _ nofun) fun _ close_fits =>
        .bind skipPoint_fits fun _ _ =>
          .pure ⟨⟨condition_fits, suits.reach _ _ start_fits.span close_fits.span⟩, fit⟩

theorem rangeBounds_fit {start : Span} (here : place start) :
    Fits place numeral (rangeBounds below start) fun bounds =>
      bounds.1.Fits place numeral ∧ bounds.2.1.Fits place numeral ∧
        OptionFits place numeral bounds.2.2 := by
  refine .bind (.accept _) fun both _ => ?_
  split
  · refine .bind nested.expression fun first first_fits => .bind (.expectKeyword _) fun _ _ =>
      .bind nested.expression fun last last_fits => .bind (.accept _) fun stepped _ => ?_
    split
    · exact .bind nested.expression fun step step_fits =>
        .pure ⟨first_fits, last_fits, .some step_fits⟩
    · exact .pure ⟨first_fits, last_fits, .none⟩
  · exact .bind nested.expression fun last last_fits =>
      .pure ⟨⟨suits.zero, here⟩, last_fits, .none⟩

theorem forClause_fits (name : String) :
    Fits place numeral (forClause below name) fun clause =>
      ∀ span, place span → (clause span).Every (Stmt.Fits place numeral) := by
  refine .bind (.accept _) fun ranged _ => ?_
  split
  · refine .bind (.expect _ nofun) fun mark mark_fits =>
      .bind (rangeBounds_fit nested suits mark_fits.span) fun bounds bounds_fit =>
        .bind (.expect _ nofun) fun _ _ => .bind (.expect _ nofun) fun _ _ =>
          .bind (block_fits nested _) fun body fit => .pure fun span here => ?_
    exact ⟨⟨bounds_fit.1, bounds_fit.2.1, bounds_fit.2.2, here⟩, fit⟩
  · exact .bind nested.expression fun values values_fit => .bind (.expect _ nofun) fun _ _ =>
      .bind (block_fits nested _) fun body fit => .pure fun span here => ⟨⟨values_fit, here⟩, fit⟩

theorem forStatement_fits :
    Fits place numeral (forStatement below) (Stmt.Every (Stmt.Fits place numeral)) :=
  .bind (.expectKeyword _) fun _ start_fits => .bind (.expectName _) fun _ _ =>
    .bind (.expectKeyword _) fun _ _ => .bind (forClause_fits nested suits _) fun _ fit =>
      .bind (.expect _ nofun) fun _ close_fits => .bind skipPoint_fits fun _ _ =>
        .pure (fit _ (suits.reach _ _ start_fits.span close_fits.span))

omit suits in
theorem givenValue_fits :
    Fits place numeral (givenValue below) (OptionFits place numeral) := by
  refine .bind .peekKind fun kind _ => .bind .peekNextKind fun next _ => ?_
  split
  · exact .bind .advance fun _ _ => .bind .advance fun _ _ => .pure .none
  split
  · exact .pure .none
  · exact .bind nested.expression fun value fits => .pure (.some fits)

theorem giveStatement_fits :
    Fits place numeral (giveStatement below) (Stmt.Every (Stmt.Fits place numeral)) :=
  .bind (.expectKeyword _) fun _ start_fits => .bind (givenValue_fits nested) fun _ fits =>
    .bind (spanFrom_fits suits start_fits.span) fun _ here =>
      .bind terminator_fits fun _ _ => .pure ⟨fits, here⟩

omit nested suits in
theorem passStatement_fits :
    Fits place numeral passStatement (Stmt.Every (Stmt.Fits place numeral)) :=
  .bind .advance fun _ word_fits => .bind terminator_fits fun _ _ => .pure word_fits.span

omit suits in
theorem expressionStatement_fits :
    Fits place numeral (expressionStatement below) (Stmt.Every (Stmt.Fits place numeral)) :=
  .bind nested.expression fun _ fits => .bind terminator_fits fun _ _ =>
    .pure ⟨fits, fits.span⟩

theorem nameStatement_fits :
    Fits place numeral (nameStatement below) (Stmt.Every (Stmt.Fits place numeral)) := by
  refine .bind .peekNextKind fun kind _ => ?_
  split
  · exact assignment_fits nested suits _
  · exact expressionStatement_fits nested

theorem statement_fits :
    Fits place numeral (statement below) (Stmt.Every (Stmt.Fits place numeral)) := by
  refine .bind .peekKind fun kind _ => ?_
  split
  · exact varStatement_fits nested suits
  · exact letStatement_fits nested suits
  · exact functionStatement_fits nested suits
  · exact ifStatement_fits nested suits
  · exact whileStatement_fits nested suits
  · exact forStatement_fits nested suits
  · exact giveStatement_fits nested suits
  · exact passStatement_fits
  · exact stepStatement_fits suits .add
  · exact stepStatement_fits suits .sub
  · exact nameStatement_fits nested suits
  · exact expressionStatement_fits nested

end Statements

/-! ## Programs -/

theorem tooDeep_fits {post : α → Prop} : Fits place numeral (tooDeep : Parser α) post :=
  .bind .get fun _ fits => .complain (peek_fits fits) nofun

theorem grammar_fits (suits : Suits place numeral) (levels : Nat) :
    (grammar levels).Fits place numeral := by
  induction levels with
  | zero => exact ⟨tooDeep_fits, tooDeep_fits, tooDeep_fits, tooDeep_fits⟩
  | succ levels ih =>
      exact ⟨expression_fits ih suits, power_fits ih suits, unary_fits ih suits,
        statement_fits ih suits⟩

theorem statements_fit {rules : Grammar} (fits : rules.Fits place numeral) :
    Fits place numeral (statements rules) (EveryStmt (Stmt.Fits place numeral)) := by
  refine .bind (.whileSome (EveryStmt (Stmt.Fits place numeral)) ?_ trivial) fun stmts holds => ?_
  · intro stmts holds
    refine .bind .get fun cursor _ => ?_
    split
    · exact .pure nofun
    refine .bind fits.statement fun stmt first => .pure fun _ same => ?_
    cases same
    exact ⟨first, holds⟩
  · refine .pure ?_
    rw [everyStmt_iff] at holds ⊢
    exact fun stmt member => holds stmt (List.mem_reverse.1 member)

end Parser

theorem Cursor.ofTokens_fits {place : Span → Prop} {numeral : String → Prop} {tokens : List Token}
    {finish : Token} (ends : finish ∈ tokens) (finish_kind : finish.kind = .finish)
    (fit : ∀ token ∈ tokens, token.Fits place numeral) :
    (Cursor.ofTokens tokens).Fits place numeral where
  previous := nofun
  rest token member := fit token ((List.takeWhile_sublist _).subset member)
  finish := by
    rw [Cursor.ofTokens, Cursor.finishOf]
    split
    next token found => exact fit token (List.mem_of_find?_eq_some found)
    next missing =>
      have absent := List.find?_eq_none.1 missing finish ends
      exact absurd finish_kind (by simpa using absent)

/-- If the tokens of a source fit, then so does its tree or the complaint about it. -/
theorem Program.parse_fits {place : Span → Prop} {numeral : String → Prop}
    (suits : Suits place numeral) {source : String}
    (fit : ∀ token ∈ Token.scan source, token.Fits place numeral) :
    (∀ program, Program.parse source = .ok program →
      EveryStmt (Stmt.Fits place numeral) program) ∧
    (∀ diagnostic, Program.parse source = .error diagnostic → diagnostic.Fits place) := by
  have fits := Parser.statements_fit (Parser.grammar_fits suits maxNesting) _
    (Cursor.ofTokens_fits (Token.finishAt_mem_scan source) rfl fit)
  rw [Program.parse, Program.ofTokens]
  cases run : (Parser.statements (Parser.grammar maxNesting)).run
      (.ofTokens (Token.scan source)) with
  | error diagnostic =>
      rw [run] at fits
      constructor
      · intro found same
        cases same
      · intro found same
        cases same
        exact fits
  | ok result =>
      rw [run] at fits
      constructor
      · intro found same
        cases same
        exact fits.1
      · intro found same
        cases same

end DotScript
