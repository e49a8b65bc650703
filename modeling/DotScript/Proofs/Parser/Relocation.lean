import DotScript.Parser.Program
import DotScript.Proofs.Source.Gaps

/-!
# Tokens at other places

A parser looks at the places of tokens only to see whether a name touches the point before it; other
than that, it writes them into its tree or its complaint.  So tokens at other places, with the same
names that touch a point, make the same tree at other places or the same complaint:
`Program.ofTokens_relocate`.  Blanks before a token that is no such name move tokens in this way, so
layout does not matter.
-/

namespace DotScript

/-- A change of places that keeps what reaches from one place to another. -/
structure Relocation where
  /-- The place after the change. -/
  place : Span → Span
  place_to : ∀ first last, place (first.to last) = (place first).to (place last)

/-- A point and a name touch at their new places just if they touch at their old ones. -/
def Relocation.KeepsTouch (move : Relocation) (point name : Token) : Prop :=
  point.kind = .dot → name.kind = .identifier →
    ((move.place point.span).stop = (move.place name.span).start ↔
      point.span.stop = name.span.start)

/-- The diagnostic at another place. -/
def Diagnostic.mapSpan (change : Span → Span) (diagnostic : Diagnostic) : Diagnostic :=
  { diagnostic with span := change diagnostic.span }

namespace Cursor

/-- The cursor among tokens at other places. -/
def mapSpan (change : Span → Span) (cursor : Cursor) : Cursor where
  previous := cursor.previous.map (Token.mapSpan change)
  rest := cursor.rest.map (Token.mapSpan change)
  finish := cursor.finish.mapSpan change

/-- Among the tokens after the cursor, the same names touch the point before them. -/
def Steady (move : Relocation) (cursor : Cursor) : Prop :=
  cursor.rest.Pairwise move.KeepsTouch

variable (change : Span → Span) (cursor : Cursor)

theorem peek_mapSpan : (cursor.mapSpan change).peek = cursor.peek.mapSpan change := by
  obtain ⟨previous, rest, finish⟩ := cursor
  cases rest <;> rfl

theorem peekNext_mapSpan : (cursor.mapSpan change).peekNext = cursor.peekNext.mapSpan change := by
  obtain ⟨previous, rest, finish⟩ := cursor
  match rest with
  | [] | [_] | _ :: _ :: _ => rfl

theorem atEnd_mapSpan : (cursor.mapSpan change).atEnd = cursor.atEnd :=
  List.isEmpty_map

end Cursor

namespace Parser

variable {α β γ δ : Type} {move : Relocation}

/-- From tokens at other places on, the second parser comes to what the first one comes to, at other
places. -/
def Carries (move : Relocation) (view : α → β) (parser : Parser α) (parser' : Parser β) : Prop :=
  ∀ cursor, cursor.Steady move →
    match parser.run cursor with
    | .ok (value, next) =>
      parser'.run (cursor.mapSpan move.place) = .ok (view value, next.mapSpan move.place) ∧
        next.Steady move
    | .error diagnostic =>
      parser'.run (cursor.mapSpan move.place) = .error (diagnostic.mapSpan move.place)

namespace Carries

variable {view : α → β} {result : γ → δ}

theorem pure {value : α} {value' : β} (same : view value = value') :
    Carries move view (pure value) (pure value') := by
  intro cursor steady
  subst same
  exact ⟨rfl, steady⟩

theorem complain (token : Token) (fault : SyntaxFault) :
    Carries move view (complain token fault) (complain (token.mapSpan move.place) fault) :=
  fun _ _ => rfl

theorem get_bind {next : Cursor → Parser γ} {next' : Cursor → Parser δ}
    (later : ∀ cursor, cursor.Steady move →
      Carries move result (next cursor) (next' (cursor.mapSpan move.place))) :
    Carries move result (get >>= next) (get >>= next') :=
  fun cursor steady => later cursor steady cursor steady

theorem bind {first : Parser α} {first' : Parser β} {next : α → Parser γ} {next' : β → Parser δ}
    (carries : Carries move view first first')
    (later : ∀ value, Carries move result (next value) (next' (view value))) :
    Carries move result (first >>= next) (first' >>= next') := by
  intro cursor steady
  have here := carries cursor steady
  rw [StateT.run_bind, StateT.run_bind]
  cases run : first.run cursor with
  | error diagnostic =>
      rw [run] at here
      rw [here]
      rfl
  | ok pair =>
      rw [run] at here
      rw [here.1]
      exact later pair.1 pair.2 here.2

/-- What is not about places is the same for both. -/
theorem bind_same {first first' : Parser α} {next : α → Parser γ} {next' : α → Parser δ}
    (carries : Carries move id first first')
    (later : ∀ value, Carries move result (next value) (next' value)) :
    Carries move result (first >>= next) (first' >>= next') :=
  carries.bind later

theorem ite {condition : Prop} [Decidable condition] {first second : Parser α}
    {first' second' : Parser β} (yes : Carries move view first first')
    (no : Carries move view second second') :
    Carries move view (if condition then first else second)
      (if condition then first' else second') := by
  split
  · exact yes
  · exact no

theorem refuse (wanted : Wanted) : Carries move view (refuse wanted) (refuse wanted) := by
  refine .get_bind fun cursor _ => ?_
  rw [Cursor.peek_mapSpan]
  exact .complain _ _

theorem peek : Carries move (Token.mapSpan move.place) peek peek :=
  .get_bind fun cursor _ => .pure (cursor.peek_mapSpan move.place).symm

theorem peekKind : Carries move id peekKind peekKind := by
  refine .get_bind fun cursor _ => .pure ?_
  rw [Cursor.peek_mapSpan]
  rfl

theorem peekNextKind : Carries move id peekNextKind peekNextKind := by
  refine .get_bind fun cursor _ => .pure ?_
  rw [Cursor.peekNext_mapSpan]
  rfl

theorem advance : Carries move (Token.mapSpan move.place) advance advance := by
  intro cursor steady
  obtain ⟨previous, rest, finish⟩ := cursor
  cases rest with
  | nil => exact ⟨rfl, steady⟩
  | cons token rest => exact ⟨rfl, List.Pairwise.of_cons steady⟩

theorem accept (kind : Token.Kind) : Carries move id (accept kind) (accept kind) :=
  .bind_same .peekKind fun _ => .ite (.bind .advance fun _ => .pure rfl) (.pure rfl)

theorem expect (kind : Token.Kind) (wanted : Wanted) :
    Carries move (Token.mapSpan move.place) (expect kind wanted) (expect kind wanted) :=
  .bind_same .peekKind fun _ => .ite .advance (.refuse wanted)

theorem expectKeyword (word : Keyword) :
    Carries move (Token.mapSpan move.place) (expectKeyword word) (expectKeyword word) :=
  .expect _ _

theorem expectName (role : String) :
    Carries move (Token.mapSpan move.place) (expectName role) (expectName role) :=
  .expect _ _

theorem repeatAlong {step : α → Parser (Option α)} {step' : β → Parser (Option β)}
    (steps : ∀ state, Carries move (Option.map view) (step state) (step' (view state)))
    (tokens : List Token) (state : α) :
    Carries move view (repeatAlong step tokens state)
      (repeatAlong step' (tokens.map (Token.mapSpan move.place)) (view state)) := by
  induction tokens generalizing state with
  | nil =>
      refine .bind (steps state) fun answer => ?_
      cases answer with
      | none => exact .pure rfl
      | some value => exact .pure rfl
  | cons token tokens ih =>
      refine .bind (steps state) fun answer => ?_
      cases answer with
      | none => exact .pure rfl
      | some value => exact ih value

/-- A loop takes the same turns. -/
theorem whileSome {step : α → Parser (Option α)} {step' : β → Parser (Option β)}
    (steps : ∀ state, Carries move (Option.map view) (step state) (step' (view state)))
    {state : α} {state' : β} (start : view state = state') :
    Carries move view (whileSome step state) (whileSome step' state') := by
  subst start
  exact .get_bind fun cursor _ => .repeatAlong steps cursor.rest state

theorem separated {item : List α → Parser α} {item' : List β → Parser β}
    (items : ∀ earlier, Carries move view (item earlier) (item' (earlier.map view))) :
    Carries move (List.map view) (separated item) (separated item') := by
  refine .bind (items []) fun first => ?_
  have turn (done : List α) : Carries move (Option.map (List.map view))
      (do if ← Parser.accept .comma then return some ((← item done) :: done) else return none)
      (do
        if ← Parser.accept .comma then return some ((← item' (done.map view)) :: done.map view)
        else return none) :=
    .bind_same (.accept _) fun _ => .ite (.bind (items done) fun _ => .pure rfl) (.pure rfl)
  exact .bind (.whileSome turn rfl) fun values => .pure List.map_reverse

theorem separated_same {item : List α → Parser α}
    (items : ∀ earlier, Carries move id (item earlier) (item earlier)) :
    Carries move id (Parser.separated item) (Parser.separated item) := by
  have all : Carries move (List.map id) (Parser.separated item) (Parser.separated item) :=
    .separated fun earlier => by rw [List.map_id]; exact items earlier
  rwa [List.map_id_fun] at all

end Carries

/-! ## Expressions -/

/-- The parsers of a grammar come to the same from tokens at other places on. -/
structure Grammar.Carries (move : Relocation) (rules : Grammar) : Prop where
  expression : Parser.Carries move (Expr.mapSpan move.place) rules.expression rules.expression
  power : Parser.Carries move (Expr.mapSpan move.place) rules.power rules.power
  unary : Parser.Carries move (Expr.mapSpan move.place) rules.unary rules.unary
  statement : Parser.Carries move (Stmt.mapSpan move.place) rules.statement rules.statement

section Expressions

variable {below : Grammar} (nested : below.Carries move)

include nested

theorem items_carry (close : Token.Kind) (wanted : Wanted) :
    Carries move (Prod.map (Expr.mapSpans move.place) move.place) (items below close wanted)
      (items below close wanted) := by
  have closed (values : List Expr) :
      Carries move (Prod.map (Expr.mapSpans move.place) move.place)
        (do
          let token ← expect close wanted
          return (values, token.span))
        (do
          let token ← expect close wanted
          return (values.map (Expr.mapSpan move.place), token.span)) :=
    .bind (.expect close wanted) fun token => .pure (by rw [← Expr.mapSpans_eq_map]; rfl)
  exact .bind_same .peekKind fun kind =>
    .ite (closed []) (.bind (.separated fun _ => nested.expression) closed)

theorem nameOrCall_carries :
    Carries move (Expr.mapSpan move.place) (nameOrCall below) (nameOrCall below) := by
  refine .bind .advance fun name => .bind_same (.accept _) fun _ => .ite ?_ (.pure rfl)
  refine .bind (items_carry nested _ _) fun result => .pure ?_
  rw [Expr.mapSpan, move.place_to]
  rfl

omit nested in
theorem constant_carries (value : Literal) :
    Carries move (Expr.mapSpan move.place) (constant value) (constant value) :=
  .bind .advance fun _ => .pure rfl

theorem group_carries : Carries move (Expr.mapSpan move.place) (group below) (group below) := by
  refine .bind .advance fun start => .bind nested.expression fun inner =>
    .bind (.expect _ _) fun close => .pure ?_
  rw [Expr.mapSpan_withSpan, move.place_to]
  rfl

theorem listLiteral_carries :
    Carries move (Expr.mapSpan move.place) (listLiteral below) (listLiteral below) := by
  refine .bind .advance fun start => .bind (items_carry nested _ _) fun result => .pure ?_
  rw [Expr.mapSpan, move.place_to]
  rfl

theorem setLiteral_carries :
    Carries move (Expr.mapSpan move.place) (setLiteral below) (setLiteral below) := by
  refine .bind .advance fun start => .bind (items_carry nested _ _) fun result => .pure ?_
  rw [Expr.mapSpan, move.place_to]
  rfl

theorem primary_carries :
    Carries move (Expr.mapSpan move.place) (primary below) (primary below) := by
  refine .bind .peek fun token => ?_
  simp only [Token.mapSpan]
  split
  · exact constant_carries _
  · split
    · exact constant_carries _
    · exact .refuse _
  · exact constant_carries _
  · exact constant_carries _
  · exact constant_carries _
  · exact constant_carries _
  · exact nameOrCall_carries nested
  · exact group_carries nested
  · exact listLiteral_carries nested
  · exact setLiteral_carries nested
  · exact .refuse _

omit nested in
/-- The same points start a method call. -/
theorem atMethodCall_mapSpan {cursor : Cursor} (steady : cursor.Steady move) :
    atMethodCall (cursor.mapSpan move.place) = atMethodCall cursor := by
  obtain ⟨previous, rest, finish⟩ := cursor
  match rest, steady with
  | [], _ | [_], _ | [_, _], _ => rfl
  | dot :: name :: mark :: more, steady =>
      have keeps : move.KeepsTouch dot name := List.rel_of_pairwise_cons steady List.mem_cons_self
      rw [Bool.eq_iff_iff]
      simp only [atMethodCall, Cursor.mapSpan, List.map_cons, Token.mapSpan, Bool.and_eq_true,
        decide_eq_true_eq, beq_iff_eq]
      exact and_congr_right fun kinds => keeps kinds.1.1 kinds.1.2

theorem methodCall_carries (receiver : Expr) :
    Carries move (Option.map (Expr.mapSpan move.place)) (methodCall below receiver)
      (methodCall below (receiver.mapSpan move.place)) := by
  refine .get_bind fun cursor steady => ?_
  rw [atMethodCall_mapSpan steady]
  refine .ite ?_ (.pure rfl)
  refine .bind .advance fun _ => .bind .advance fun name => .bind .advance fun _ =>
    .bind (items_carry nested _ _) fun result => .pure ?_
  rw [Expr.span_mapSpan, Option.map_some, Expr.mapSpan, move.place_to]
  rfl

theorem methodChain_carries :
    Carries move (Expr.mapSpan move.place) (methodChain below) (methodChain below) :=
  .bind (primary_carries nested) fun _ => .whileSome (methodCall_carries nested) rfl

omit nested in
theorem unaryOperator_carries : Carries move id unaryOperator unaryOperator :=
  .bind_same (.accept _) fun _ => .ite (.pure rfl) <|
    .bind_same (.accept _) fun _ => .ite (.pure rfl) (.pure rfl)

theorem unary_carries : Carries move (Expr.mapSpan move.place) (unary below) (unary below) := by
  refine .bind .peek fun start => .bind_same unaryOperator_carries fun op => ?_
  cases op with
  | none => exact methodChain_carries nested
  | some op =>
      refine .bind nested.unary fun operand => .pure ?_
      rw [Expr.span_mapSpan, Expr.mapSpan, move.place_to]
      rfl

omit nested in
theorem mapSpan_ofBinary (op : BinaryOp) (left right : Expr) :
    (Expr.ofBinary op left right).mapSpan move.place =
      .ofBinary op (left.mapSpan move.place) (right.mapSpan move.place) := by
  rw [Expr.ofBinary, Expr.ofBinary, Expr.mapSpan, move.place_to, Expr.span_mapSpan,
    Expr.span_mapSpan]

theorem power_carries : Carries move (Expr.mapSpan move.place) (power below) (power below) := by
  refine .bind (unary_carries nested) fun base => .bind_same (.accept _) fun _ =>
    .ite ?_ (.pure rfl)
  exact .bind nested.power fun exponent => .pure (mapSpan_ofBinary .pow base exponent)

omit nested in
theorem chain_carries {operator : Parser (Option BinaryOp)} {operand : Parser Expr}
    (operators : Carries move id operator operator)
    (operands : Carries move (Expr.mapSpan move.place) operand operand) :
    Carries move (Expr.mapSpan move.place) (chain operator operand) (chain operator operand) := by
  refine .bind operands fun first => .whileSome (fun left => ?_) rfl
  refine .bind_same operators fun op => ?_
  cases op with
  | none => exact .pure rfl
  | some op =>
      refine .bind operands fun right => .pure ?_
      rw [Option.map_some, mapSpan_ofBinary]

omit nested in
theorem atImplicitProduct_mapSpan (change : Span → Span) (cursor : Cursor) :
    atImplicitProduct (cursor.mapSpan change) = atImplicitProduct cursor := by
  rw [atImplicitProduct, atImplicitProduct, Cursor.peek_mapSpan]
  cases found : cursor.previous with
  | none => rw [Cursor.mapSpan, found, Option.map_none]
  | some token => rw [Cursor.mapSpan, found, Option.map_some]; rfl

omit nested in
theorem factorOperator_carries : Carries move id factorOperator factorOperator := by
  refine .bind_same (.accept _) fun _ => .ite (.pure rfl) <|
    .bind_same (.accept _) fun _ => .ite (.pure rfl) <|
      .bind_same (.accept _) fun _ => .ite (.pure rfl) <| .get_bind fun cursor _ => ?_
  rw [atImplicitProduct_mapSpan]
  exact .ite (.pure rfl) (.pure rfl)

omit nested in
theorem termOperator_carries : Carries move id termOperator termOperator :=
  .bind_same (.accept _) fun _ => .ite (.pure rfl) <|
    .bind_same (.accept _) fun _ => .ite (.pure rfl) (.pure rfl)

omit nested in
theorem take_carries (op : BinaryOp) : Carries move id (take op) (take op) :=
  .bind .advance fun _ => .pure rfl

omit nested in
theorem comparisonOperator_carries : Carries move id comparisonOperator comparisonOperator := by
  refine .bind_same .peekKind fun kind => ?_
  split
  · exact take_carries _
  · exact take_carries _
  · exact take_carries _
  · exact take_carries _
  · exact take_carries _
  · exact take_carries _
  · exact take_carries _
  · exact .bind .advance fun _ => .bind_same (.accept _) fun _ => .ite (.pure rfl) (.pure rfl)
  · exact .bind_same .peekNextKind fun _ =>
      .ite (.bind .advance fun _ => take_carries _) (.pure rfl)
  · exact .pure rfl

omit nested in
theorem andOperator_carries : Carries move id andOperator andOperator :=
  .bind_same (.accept _) fun _ => .ite (.pure rfl) (.pure rfl)

omit nested in
theorem orOperator_carries : Carries move id orOperator orOperator :=
  .bind_same (.accept _) fun _ => .ite (.pure rfl) (.pure rfl)

theorem disjunction_carries :
    Carries move (Expr.mapSpan move.place) (disjunction below) (disjunction below) :=
  chain_carries orOperator_carries <| chain_carries andOperator_carries <|
    chain_carries comparisonOperator_carries <| chain_carries termOperator_carries <|
      chain_carries factorOperator_carries (power_carries nested)

theorem expression_carries :
    Carries move (Expr.mapSpan move.place) (expression below) (expression below) := by
  refine .bind (disjunction_carries nested) fun value => .bind .peek fun mark =>
    .bind_same (.accept _) fun _ => .ite ?_ (.pure rfl)
  refine .bind (disjunction_carries nested) fun receiver => ?_
  cases value with
  | call name args span =>
      refine .pure ?_
      rw [Expr.mapSpan, Expr.span_mapSpan, move.place_to]
  | literal | «variable» | binary | unary | method | list | set => exact .complain _ _

end Expressions

/-! ## Statements -/

section Statements

variable {below : Grammar} (nested : below.Carries move)

theorem terminator_carries : Carries move id terminator terminator :=
  .bind_same (.accept _) fun _ => .ite (.pure rfl) <|
    .bind_same .peekKind fun _ => .ite (.pure rfl) (.refuse _)

theorem skipPoint_carries : Carries move id skipPoint skipPoint :=
  .bind_same (.accept _) fun _ => .pure rfl

theorem mapSpans_reverse (change : Span → Span) (block : List Stmt) :
    Stmt.mapSpans change block.reverse = (Stmt.mapSpans change block).reverse := by
  rw [Stmt.mapSpans_eq_map, Stmt.mapSpans_eq_map, List.map_reverse]

theorem spanFrom_carries (start : Span) :
    Carries move move.place (spanFrom start) (spanFrom (move.place start)) := by
  refine .get_bind fun cursor _ => ?_
  rw [Cursor.mapSpan]
  cases cursor.previous with
  | none => exact .pure rfl
  | some token => exact .pure (move.place_to start token.span)

include nested

theorem block_carries (ends : Token.Kind → Bool) :
    Carries move (Stmt.mapSpans move.place) (block below ends) (block below ends) := by
  refine .bind (.whileSome (fun stmts => ?_) rfl) fun stmts => .pure (mapSpans_reverse _ stmts)
  refine .bind_same .peekKind fun kind => .ite (.pure rfl) <| .get_bind fun cursor _ => ?_
  rw [Cursor.atEnd_mapSpan]
  exact .ite (.refuse _) (.bind nested.statement fun _ => .pure rfl)

theorem binding_carries :
    Carries move (Prod.map id (Option.map (Expr.mapSpan move.place))) (binding below)
      (binding below) :=
  .bind (.expectName _) fun _ => .bind_same (.accept _) fun _ =>
    .ite (.bind nested.expression fun _ => .pure rfl) (.pure rfl)

theorem varStatement_carries :
    Carries move (Stmt.mapSpan move.place) (varStatement below) (varStatement below) :=
  .bind (.expectKeyword _) fun start => .bind (.separated fun _ => binding_carries nested) fun _ =>
    .bind (spanFrom_carries start.span) fun _ => .bind_same terminator_carries fun _ => .pure rfl

theorem letStatement_carries :
    Carries move (Stmt.mapSpan move.place) (letStatement below) (letStatement below) := by
  refine .bind (.expectKeyword _) fun start => .bind (.expectName _) fun name =>
    .bind (.expectKeyword _) fun _ => .bind nested.expression fun value =>
      .bind_same terminator_carries fun _ => .pure ?_
  rw [Stmt.mapSpan, Expr.span_mapSpan, move.place_to]
  rfl

theorem assignment_carries (op : Option BinaryOp) :
    Carries move (Stmt.mapSpan move.place) (assignment below op) (assignment below op) := by
  refine .bind .advance fun name => .bind .advance fun mark => ?_
  have closed (value : Expr) : Carries move (Stmt.mapSpan move.place)
      (do
        terminator
        return .assign name.text op value (name.span.to value.span))
      (do
        terminator
        return .assign name.text op (value.mapSpan move.place)
          ((move.place name.span).to (value.mapSpan move.place).span)) := by
    refine .bind_same terminator_carries fun _ => .pure ?_
    rw [Stmt.mapSpan, Expr.span_mapSpan, move.place_to]
  exact .ite (closed (one mark.span)) (.bind nested.expression closed)

omit nested in
theorem stepStatement_carries (op : BinaryOp) :
    Carries move (Stmt.mapSpan move.place) (stepStatement op) (stepStatement op) := by
  refine .bind .advance fun mark => .bind (.expectName _) fun name =>
    .bind_same terminator_carries fun _ => .pure ?_
  rw [Stmt.mapSpan, move.place_to]
  rfl

omit nested in
theorem parameters_carry (function : String) :
    Carries move id (parameters function) (parameters function) := by
  refine .bind_same .peekKind fun _ => .ite (.pure rfl) (.separated_same fun earlier => ?_)
  exact .bind (.expectName _) fun param => .ite (.complain param _) (.pure rfl)

theorem functionBody_carries (name : Token) :
    Carries move (Prod.map (Stmt.mapSpans move.place) move.place) (functionBody below name)
      (functionBody below (name.mapSpan move.place)) := by
  refine .bind (.expect _ _) fun _ => .bind (block_carries nested _) fun body =>
    .bind (.expect _ _) fun close => ?_
  rw [Stmt.mapSpans_eq_map, List.isEmpty_map, ← Stmt.mapSpans_eq_map]
  exact .ite (.complain name _) (.bind_same skipPoint_carries fun _ => .pure rfl)

theorem functionStatement_carries :
    Carries move (Stmt.mapSpan move.place) (functionStatement below) (functionStatement below) := by
  refine .bind (.expectKeyword _) fun start => .bind (.expectName _) fun name =>
    .bind_same (.accept _) fun _ => .bind (.expect _ _) fun _ =>
      .bind_same (parameters_carry _) fun params => .bind (.expect _ _) fun close =>
        .bind_same .peekKind fun kind => ?_
  have declared : Carries move (Stmt.mapSpan move.place)
      (do
        skipPoint
        return .define 0 name.text params none (start.span.to close.span))
      (do
        skipPoint
        return .define 0 name.text params none
          ((move.place start.span).to (move.place close.span))) := by
    refine .bind_same skipPoint_carries fun _ => .pure ?_
    rw [Stmt.mapSpan, move.place_to]
    rfl
  split
  · exact declared
  · exact declared
  · refine .bind (functionBody_carries nested name) fun result => .pure ?_
    rw [Stmt.mapSpan, move.place_to]
    rfl

theorem arm_carries (word : String) :
    Carries move (mapArm move.place) (arm below word) (arm below word) :=
  .bind nested.expression fun _ => .bind (.expect _ _) fun _ =>
    .bind (block_carries nested _) fun _ => .pure rfl

theorem laterArms_carry :
    Carries move (List.map (mapArm move.place)) (laterArms below) (laterArms below) := by
  refine .bind (.whileSome (fun arms => ?_) rfl) fun arms => .pure List.map_reverse
  exact .bind_same (.accept _) fun _ =>
    .ite (.bind (arm_carries nested _) fun _ => .pure rfl) (.pure rfl)

theorem lastArm_carries :
    Carries move (Arms.mapSpan move.place) (lastArm below) (lastArm below) :=
  .bind_same (.accept _) fun _ => .ite
    (.bind (.expect _ _) fun _ => .bind (block_carries nested _) fun _ => .pure rfl) (.pure rfl)

theorem ifStatement_carries :
    Carries move (Stmt.mapSpan move.place) (ifStatement below) (ifStatement below) := by
  refine .bind (.expectKeyword _) fun start => .bind (arm_carries nested _) fun first =>
    .bind (laterArms_carry nested) fun later => .bind (lastArm_carries nested) fun last =>
      .bind (.expect _ _) fun close => .bind_same skipPoint_carries fun _ => .pure ?_
  rw [Stmt.mapSpan, Arms.mapSpan_foldr, move.place_to]
  rfl

theorem whileStatement_carries :
    Carries move (Stmt.mapSpan move.place) (whileStatement below) (whileStatement below) := by
  refine .bind (.expectKeyword _) fun start => .bind nested.expression fun condition =>
    .bind (.expect _ _) fun _ => .bind (block_carries nested _) fun body =>
      .bind (.expect _ _) fun close => .bind_same skipPoint_carries fun _ => .pure ?_
  rw [Stmt.mapSpan, move.place_to]
  rfl

/-- The bounds and the step of a range at other places. -/
def mapBounds (change : Span → Span) :
    Expr × Expr × Option Expr → Expr × Expr × Option Expr :=
  Prod.map (Expr.mapSpan change) (Prod.map (Expr.mapSpan change) (Option.map (Expr.mapSpan change)))

theorem rangeBounds_carry (start : Span) :
    Carries move (mapBounds move.place) (rangeBounds below start)
      (rangeBounds below (move.place start)) := by
  refine .bind_same (.accept _) fun _ => .ite ?_ (.bind nested.expression fun _ => .pure rfl)
  exact .bind nested.expression fun _ => .bind (.expectKeyword _) fun _ =>
    .bind nested.expression fun _ => .bind_same (.accept _) fun _ =>
      .ite (.bind nested.expression fun _ => .pure rfl) (.pure rfl)

/-- What follows the clause of a loop gives it the place of the loop. -/
theorem forClause_bind_carries (name : String) {next next' : (Span → Stmt) → Parser Stmt}
    (later : ∀ clause clause' : Span → Stmt,
      (∀ span, (clause span).mapSpan move.place = clause' (move.place span)) →
      Carries move (Stmt.mapSpan move.place) (next clause) (next' clause')) :
    Carries move (Stmt.mapSpan move.place) (forClause below name >>= next)
      (forClause below name >>= next') := by
  rw [forClause, bind_assoc, bind_assoc]
  refine .bind_same (.accept _) fun ranged => ?_
  split
  · simp only [bind_assoc, pure_bind]
    exact .bind (.expect _ _) fun mark => .bind (rangeBounds_carry nested mark.span) fun bounds =>
      .bind (.expect _ _) fun _ => .bind (.expect _ _) fun _ =>
        .bind (block_carries nested _) fun body => later _ _ fun _ => rfl
  · simp only [bind_assoc, pure_bind]
    exact .bind nested.expression fun values => .bind (.expect _ _) fun _ =>
      .bind (block_carries nested _) fun body => later _ _ fun _ => rfl

theorem forStatement_carries :
    Carries move (Stmt.mapSpan move.place) (forStatement below) (forStatement below) := by
  refine .bind (.expectKeyword _) fun start => .bind (.expectName _) fun name =>
    .bind (.expectKeyword _) fun _ => forClause_bind_carries nested _ fun clause clause' same =>
      .bind (.expect _ _) fun close => .bind_same skipPoint_carries fun _ => .pure ?_
  rw [same, move.place_to]
  rfl

theorem givenValue_carries :
    Carries move (Option.map (Expr.mapSpan move.place)) (givenValue below) (givenValue below) :=
  .bind_same .peekKind fun _ => .bind_same .peekNextKind fun _ =>
    .ite (.bind .advance fun _ => .bind .advance fun _ => .pure rfl) <|
      .ite (.pure rfl) (.bind nested.expression fun _ => .pure rfl)

theorem giveStatement_carries :
    Carries move (Stmt.mapSpan move.place) (giveStatement below) (giveStatement below) :=
  .bind (.expectKeyword _) fun start => .bind (givenValue_carries nested) fun _ =>
    .bind (spanFrom_carries start.span) fun _ => .bind_same terminator_carries fun _ => .pure rfl

omit nested in
theorem passStatement_carries :
    Carries move (Stmt.mapSpan move.place) passStatement passStatement :=
  .bind .advance fun _ => .bind_same terminator_carries fun _ => .pure rfl

theorem expressionStatement_carries :
    Carries move (Stmt.mapSpan move.place) (expressionStatement below)
      (expressionStatement below) := by
  refine .bind nested.expression fun value => .bind_same terminator_carries fun _ => .pure ?_
  rw [Stmt.mapSpan, Expr.span_mapSpan]

theorem nameStatement_carries :
    Carries move (Stmt.mapSpan move.place) (nameStatement below) (nameStatement below) := by
  refine .bind_same .peekNextKind fun kind => ?_
  split
  · exact assignment_carries nested _
  · exact expressionStatement_carries nested

theorem statement_carries :
    Carries move (Stmt.mapSpan move.place) (statement below) (statement below) := by
  refine .bind_same .peekKind fun kind => ?_
  split
  · exact varStatement_carries nested
  · exact letStatement_carries nested
  · exact functionStatement_carries nested
  · exact ifStatement_carries nested
  · exact whileStatement_carries nested
  · exact forStatement_carries nested
  · exact giveStatement_carries nested
  · exact passStatement_carries
  · exact stepStatement_carries .add
  · exact stepStatement_carries .sub
  · exact nameStatement_carries nested
  · exact expressionStatement_carries nested

end Statements

/-! ## Programs -/

theorem tooDeep_carries {view : α → β} : Carries move view tooDeep tooDeep := by
  refine .get_bind fun cursor _ => ?_
  rw [Cursor.peek_mapSpan]
  exact .complain _ _

theorem grammar_carries (move : Relocation) (levels : Nat) : (grammar levels).Carries move := by
  induction levels with
  | zero => exact ⟨tooDeep_carries, tooDeep_carries, tooDeep_carries, tooDeep_carries⟩
  | succ levels ih =>
      exact ⟨expression_carries ih, power_carries ih, unary_carries ih, statement_carries ih⟩

theorem statements_carry {rules : Grammar} (carries : rules.Carries move) :
    Carries move (Stmt.mapSpans move.place) (statements rules) (statements rules) := by
  refine .bind (.whileSome (fun stmts => ?_) rfl) fun stmts => .pure (mapSpans_reverse _ stmts)
  refine .get_bind fun cursor _ => ?_
  rw [Cursor.atEnd_mapSpan]
  exact .ite (.pure rfl) (.bind carries.statement fun _ => .pure rfl)

end Parser

theorem Cursor.ofTokens_mapSpan (change : Span → Span) {tokens : List Token} {finish : Token}
    (ends : finish ∈ tokens) (finish_kind : finish.kind = .finish) :
    ofTokens (tokens.map (Token.mapSpan change)) = (ofTokens tokens).mapSpan change := by
  have taken : (tokens.map (Token.mapSpan change)).takeWhile (·.kind ≠ .finish) =
      (tokens.takeWhile (·.kind ≠ .finish)).map (Token.mapSpan change) := List.takeWhile_map ..
  have found : (tokens.map (Token.mapSpan change)).find? (·.kind = .finish) =
      (tokens.find? (·.kind = .finish)).map (Token.mapSpan change) := List.find?_map ..
  rw [ofTokens, finishOf, taken, found]
  cases last : tokens.find? (·.kind = .finish) with
  | none =>
      have absent := List.find?_eq_none.1 last finish ends
      exact absurd finish_kind (by simpa using absent)
  | some token => simp only [ofTokens, finishOf, last, mapSpan, Option.map_some, Option.map_none]

namespace Program

/-- Tokens at other places make the same tree at other places, or the same complaint. -/
theorem ofTokens_relocate (move : Relocation) {tokens : List Token} {finish : Token}
    (ends : finish ∈ tokens) (finish_kind : finish.kind = .finish)
    (keeps : tokens.Pairwise move.KeepsTouch) :
    ofTokens (tokens.map (Token.mapSpan move.place)) =
      match ofTokens tokens with
      | .ok program => .ok (Stmt.mapSpans move.place program)
      | .error diagnostic => .error (diagnostic.mapSpan move.place) := by
  have steady : (Cursor.ofTokens tokens).Steady move := keeps.sublist (List.takeWhile_sublist _)
  have carries := Parser.statements_carry (Parser.grammar_carries move maxNesting) _ steady
  rw [ofTokens, ofTokens, Cursor.ofTokens_mapSpan move.place ends finish_kind]
  cases run : (Parser.statements (Parser.grammar maxNesting)).run (.ofTokens tokens) with
  | error diagnostic =>
      rw [run] at carries
      rw [carries]
      rfl
  | ok result =>
      rw [run] at carries
      rw [carries.1]
      rfl

/-- What parsing comes to, up to places: a tree or what is wrong. -/
def forgetPlaces : Except Diagnostic Program → Except Fault Program
  | .ok program => .ok (Stmt.mapSpans Span.forget program)
  | .error diagnostic => .error diagnostic.fault

end Program

/-- The places in a text into which some bytes and lines were put at an offset. -/
def Relocation.insert (offset bytes lines : Nat) : Relocation where
  place := Span.insert offset bytes lines
  place_to := Span.insert_to offset bytes lines

/-- The token is a name that touches a point. -/
def Token.TouchesPoint (tokens : List Token) (name : Token) : Prop :=
  name.kind = .identifier ∧ ∃ point ∈ tokens, point.kind = .dot ∧ point.span.stop = name.span.start

/-- Bytes that are put before a token part no name from a point, unless the token is that name. -/
theorem Token.pairwise_keepsTouch {source : String} {token : Token} (member : token ∈ scan source)
    (inner : token.kind ≠ .finish) (apart : ¬ token.TouchesPoint (scan source))
    (bytes lines : Nat) :
    (scan source).Pairwise (Relocation.insert token.span.start bytes lines).KeepsTouch := by
  have ordered : (scan source).Pairwise fun first second => first.span.stop ≤ second.span.start :=
    pairwise_scanRest false .start source.toList
  refine ordered.imp_of_mem fun {point name} point_member name_member before dot identifier => ?_
  have elsewhere : point.span.stop = name.span.start → token.span.start ≠ name.span.start := by
    intro touches here
    have name_inner : name.kind ≠ .finish := by
      rw [identifier]
      nofun
    obtain rfl := eq_of_start_eq member name_member inner name_inner here
    exact apart ⟨identifier, point, point_member, dot, touches⟩
  simp only [Relocation.insert, Span.insert]
  split <;> split <;> omega

/-- Layout does not matter.  Blanks before a token leave the tokens of a text as they are, but for
their places; and unless the token is a name that touches a point, the text still makes the same
tree up to places, or is wrong for the same reason. -/
theorem layout_does_not_matter {before after : String} {token : Token}
    (member : token ∈ Token.scan (before ++ after)) (inner : token.kind ≠ .finish)
    (here : token.span.start = before.utf8ByteSize) {gap : String} (some_gap : gap ≠ "")
    (blanks : ∀ b ∈ gap.toList, Text.isBlank b = true) :
    (Token.scan (before ++ gap ++ after)).map (fun token => (token.kind, token.text)) =
        (Token.scan (before ++ after)).map (fun token => (token.kind, token.text)) ∧
      (¬ token.TouchesPoint (Token.scan (before ++ after)) →
        Program.forgetPlaces (Program.parse (before ++ gap ++ after)) =
          Program.forgetPlaces (Program.parse (before ++ after))) := by
  obtain ⟨bytes, lines, scanned⟩ := Token.scan_insert member inner here blanks some_gap
  refine ⟨?_, fun apart => ?_⟩
  · rw [scanned, List.map_map]
    rfl
  · have keeps := Token.pairwise_keepsTouch member inner apart bytes lines
    have moved := Program.ofTokens_relocate _ (Token.finishAt_mem_scan _) rfl keeps
    rw [Relocation.insert, here] at moved
    rw [Program.parse, Program.parse, scanned, moved]
    cases Program.ofTokens (Token.scan (before ++ after)) with
    | error diagnostic => rfl
    | ok program =>
        rw [Program.forgetPlaces, Program.forgetPlaces, Stmt.mapSpans_mapSpans]
        rfl

/-- A blank before a point that ends a statement starts no number with it. -/
theorem blank_before_point_starts_no_number :
    (Token.scan "a .5").map (fun token => (token.kind, token.text)) =
        (Token.scan "a.5").map (fun token => (token.kind, token.text)) ∧
      Program.forgetPlaces (Program.parse "a .5") = Program.forgetPlaces (Program.parse "a.5") := by
  have member : ⟨.dot, ".", ⟨1, 2, 1⟩⟩ ∈ Token.scan ("a" ++ ".5") := by decide +kernel
  have blanks : ∀ b ∈ " ".toList, Text.isBlank b = true := List.all_eq_true.1 (by decide)
  have kept := layout_does_not_matter member nofun rfl (by decide) blanks
  exact ⟨kept.1, kept.2 fun touches => nomatch touches.1⟩

-- a blank between a point and a name that touches it ends the statement before the name
example : (Program.parse "a.f()").toOption.map List.length = some 1 ∧
    (Program.parse "a. f()").toOption.map List.length = some 2 := by
  decide +kernel

end DotScript
