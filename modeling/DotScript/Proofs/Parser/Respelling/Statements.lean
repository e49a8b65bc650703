import DotScript.Proofs.Parser.Respelling.Expressions

/-!
# Statements in two spellings

A statement begins where the two spellings are the same, or else the first one has a point there,
and no statement begins with a point.  At the end of a statement the first run may take a point that
the second one does without.  A declaration of a function is the one statement that looks at what
comes next before it ends, and without a body it needs its point.
-/

namespace DotScript
namespace Parser

variable {omits : Omissions} {α : Type} {cursor cursor' : Cursor}

/-! ## Ends of statements -/

/-- The first run takes the point that is left out, and the second run finds none. -/
theorem AtPoint.accept_run (at_point : AtPoint omits cursor cursor') :
    ∃ next, (accept .dot).run cursor = .ok (true, next) ∧
      (accept .dot).run cursor' = .ok (false, cursor') ∧ Fresh omits next cursor' := by
  have not_dot : cursor'.peek.kind ≠ .dot := endsStatement_ne_of_eq_false at_point.peek_kind' rfl
  cases at_point with
  | point is_point _ fresh =>
      exact ⟨_, accept_run_of_eq rfl is_point, accept_run_of_ne not_dot, fresh⟩

theorem terminator_run_of_endsStatement (ends : endsStatement cursor.peek.kind = true) :
    terminator.run cursor = .ok ((), cursor) := by
  have looked : peekKind.run cursor = .ok (cursor.peek.kind, cursor) := rfl
  rw [terminator, run_bind_of_ok (accept_run_of_ne (endsStatement_ne_of_eq_false ends rfl)),
    if_neg Bool.false_ne_true, run_bind_of_ok looked, if_pos ends]
  rfl

theorem terminator_run_of_ne (not_dot : cursor.peek.kind ≠ .dot)
    (goes_on : endsStatement cursor.peek.kind = false) :
    terminator.run cursor = (refuse (.mark "." "to end the statement")).run cursor := by
  have looked : peekKind.run cursor = .ok (cursor.peek.kind, cursor) := rfl
  rw [terminator, run_bind_of_ok (accept_run_of_ne not_dot), if_neg Bool.false_ne_true,
    run_bind_of_ok looked, if_neg (by rw [goes_on]; exact Bool.false_ne_true)]

theorem endsStatement_of_startsFactor {kind : Token.Kind} (starts : kind.startsFactor = true) :
    endsStatement kind = false := by
  unfold Token.Kind.startsFactor at starts
  split at starts
  all_goals first | rfl | cases starts

theorem retells_terminator : Retells omits (Level omits) (fun _ => Ready omits) terminator := by
  intro cursor cursor' level value final run
  have ending : Retells omits (Fresh omits) (fun _ => Ready omits) terminator := by
    refine .of_accept (.accept_fresh (by decide) id) (.pure (·.ready rfl)) ?_
    refine .peekKind_of_same (·.peek_kind) fun kind => ?_
    split
    · exact .pure fun related => .inl related.1
    · exact .refuse _
  rcases level.cases with (fresh | at_point) | at_product
  · exact ending _ _ fresh _ _ run
  · obtain ⟨next, accepts, -, fresh⟩ := at_point.accept_run
    rw [terminator, run_bind_of_ok accepts, if_pos rfl] at run
    cases run
    rw [terminator_run_of_endsStatement at_point.peek_kind']
    exact .same (.inl fresh)
  · have starts := at_product.peek_kind
    rw [terminator_run_of_ne (startsFactor_ne_of_eq_false starts rfl)
      (endsStatement_of_startsFactor starts), refuse_run] at run
    cases run

theorem retells_skipPoint : Retells omits (Ready omits) (fun _ => Ready omits) skipPoint := by
  rintro cursor cursor' (fresh | at_point) value final run
  · have skips : Retells omits (Fresh omits) (fun _ => Ready omits) skipPoint := by
      refine .bind (.accept_fresh (by decide) id) fun found => .pure ?_
      cases found with
      | true => exact (·.ready rfl)
      | false => exact .inl
    exact skips _ _ fresh _ _ run
  · obtain ⟨next, accepts, accepts', fresh⟩ := at_point.accept_run
    rw [skipPoint, run_bind_of_ok accepts] at run
    rw [skipPoint, run_bind_of_ok accepts']
    cases run
    exact .same (.inl fresh)

theorem retells_spanFrom (start : Span) :
    Retells omits (Level omits) (fun _ => Level omits) (spanFrom start) := by
  intro cursor cursor' level value final run
  rw [spanFrom_run] at run ⊢
  rw [level.previous]
  cases run
  exact .same level

/-! ## The end of the list -/

theorem Fresh.atEnd_eq (fresh : Fresh omits cursor cursor') : cursor'.atEnd = cursor.atEnd := by
  cases fresh with
  | atEnd => rfl
  | facing faces =>
      cases faces with
      | token => rfl

/-- Both runs are at the end, or neither is. -/
theorem Retells.atEnd {before : Cursor → Cursor → Prop} {after : α → Cursor → Cursor → Prop}
    {yes no : Parser α}
    (fresh : ∀ {cursor cursor'}, before cursor cursor' → Fresh omits cursor cursor')
    (ended : Retells omits before after yes) (goes_on : Retells omits before after no) :
    Retells omits before after (do if (← get).atEnd then yes else no) := by
  intro cursor cursor' related value final run
  have got : (get : Parser Cursor).run cursor = .ok (cursor, cursor) := rfl
  have got' : (get : Parser Cursor).run cursor' = .ok (cursor', cursor') := rfl
  rw [run_bind_of_ok got] at run
  rw [run_bind_of_ok got', (fresh related).atEnd_eq]
  split at run
  next at_end =>
    rw [if_pos at_end]
    exact ended _ _ related _ _ run
  next inside =>
    rw [if_neg inside]
    exact goes_on _ _ related _ _ run

variable (omits) in
/-- What is nested in statements is retold. -/
structure RetellsBelow (below : Grammar) : Prop extends RetellsNested omits below where
  statement : Retells omits (Ready omits) (fun _ => Ready omits) below.statement

/-! ## Marks and names -/

theorem retells_passStatement {token : Token} :
    Retells omits (Facing omits token) (fun _ => Ready omits) passStatement :=
  .bind .advance fun _ => .bind (retells_terminator.mono (·.toLevel) id) fun _ => .pure id

theorem retells_stepStatement {token : Token} (no_factor : token.kind.endsFactor = false)
    (op : BinaryOp) :
    Retells omits (Facing omits token) (fun _ => Ready omits) (stepStatement op) := by
  refine .bind .advance fun mark => ?_
  refine .bind (.expect_ready _ rfl (·.ready no_factor)) fun name => ?_
  exact .bind (retells_terminator.mono (·.toLevel) id) fun _ => .pure id

theorem endsFactor_of_assignmentOperator {kind : Token.Kind} {op : Option BinaryOp}
    (assigns : assignmentOperator kind = some op) : kind.endsFactor = false := by
  unfold assignmentOperator at assigns
  split at assigns
  all_goals first | rfl | cases assigns

theorem assignmentOperator_of_endsStatement {kind : Token.Kind} (ends : endsStatement kind = true) :
    assignmentOperator kind = none := by
  unfold endsStatement at ends
  split at ends
  all_goals first | rfl | cases ends

instance (function : String) : RefusesPoint (parameters function) where
  refuses {cursor} at_point := by
    have looked : peekKind.run cursor = .ok (cursor.peek.kind, cursor) := rfl
    rw [parameters, run_bind_of_ok looked, at_point, if_neg (by decide)]
    exact (RefusesPoint.separated inferInstance).refuses at_point

theorem retells_parameters (function : String) :
    Retells omits (After omits .parenOpen) (fun _ => Level omits) (parameters function) := by
  refine .of_fresh (·.ready rfl) (.peekKind_of_same (·.2.peek_kind) fun kind => ?_)
  split
  · exact .pure (·.1.1.toLevel)
  · have operands := parameter_operand function
    refine (Retells.separated fun earlier => ?_).mono (.inl ·.1.2) id
    refine .bind (.expect_ready _ rfl id) fun param => ?_
    split
    · exact .complain _ _
    · exact .pure (·.toLevel)

section Statements

variable {below : Grammar}

/-! ## Results of functions -/

theorem Fresh.atEmptyParens_iff (fresh : Fresh omits cursor cursor') :
    AtEmptyParens cursor ↔ AtEmptyParens cursor' := by
  cases fresh with
  | atEnd ends ends' =>
      refine iff_of_false (fun empty => ?_) fun empty => ?_
      · cases ends.symm.trans empty.1
      · cases ends'.symm.trans empty.1
  | @facing token _ _ faces =>
      cases faces with
      | token later ends ends' =>
          exact and_congr_right fun (opens : token.kind = .parenOpen) =>
            later.headD_kind_iff (by rw [opens]; rfl) ends ends' rfl

theorem retells_emptyParens {token : Token} (opens : token.kind = .parenOpen) :
    Retells omits (fun cursor cursor' => Facing omits token cursor cursor' ∧ AtEmptyParens cursor)
      (fun _ => Level omits) (givenValue below) := by
  rintro cursor cursor' ⟨faces, empty⟩ value final run
  have empty' := (Fresh.facing faces).atEmptyParens_iff.1 empty
  rw [givenValue_run_of_empty empty] at run
  rw [givenValue_run_of_empty empty']
  cases faces with
  | @token previous previous' finish finish' rest rest' later ends ends' =>
      have closes : (rest.headD finish).kind = .parenClose := empty.2
      have fresh := fresh_of_fixed rfl (later.after opens ends ends').toLevel closes
      obtain ⟨close, faces, -⟩ := fresh.exists_facing closes (by decide)
      have last : Retells omits (Facing omits close) (fun _ => Level omits)
          (do let _ ← advance; return none : Parser (Option Expr)) :=
        .bind .advance fun _ => .pure (·.toLevel)
      rw [advance_bind_run] at run ⊢
      exact last _ _ faces _ _ run

variable (nested : RetellsBelow omits below)

include nested

theorem retells_givenValue :
    Retells omits (After omits (.keyword .give)) (fun _ => Level omits) (givenValue below) := by
  intro cursor cursor' after value final run
  rcases after.ready rfl with fresh | at_point
  · by_cases empty : AtEmptyParens cursor
    · obtain ⟨token, faces, opens⟩ := fresh.exists_facing empty.1 (by decide)
      exact retells_emptyParens opens _ _ ⟨faces, empty⟩ _ _ run
    · have plain : Retells omits
          (fun cursor cursor' => Level omits cursor cursor' ∧ Fresh omits cursor cursor')
          (fun _ => Level omits)
          (if cursor.peek.kind = .dot || endsStatement cursor.peek.kind then pure none
            else do return some (← below.expression)) := by
        split
        · exact .pure (·.1)
        · exact .bind (nested.expression.mono (.inl ·.2) id) fun _ => .pure id
      rw [givenValue_run_of_not empty] at run
      rw [givenValue_run_of_not (mt fresh.atEmptyParens_iff.2 empty), fresh.peek_kind]
      exact plain _ _ ⟨after.toLevel, fresh⟩ _ _ run
  · have closes := at_point.peek_kind'
    have no_parens : ¬ AtEmptyParens cursor := by
      intro empty
      cases at_point.peek_kind.symm.trans empty.1
    have no_parens' : ¬ AtEmptyParens cursor' := fun empty =>
      endsStatement_ne_of_eq_false closes rfl empty.1
    rw [givenValue_run_of_not no_parens, at_point.peek_kind] at run
    rw [givenValue_run_of_not no_parens', if_pos (by rw [closes, Bool.or_true])]
    cases run
    exact .same after.toLevel

theorem retells_giveStatement :
    Retells omits (Ready omits) (fun _ => Ready omits) (giveStatement below) := by
  refine .bind (.expect_ready _ rfl id) fun start => ?_
  refine .bind (retells_givenValue nested) fun value => ?_
  exact .bind (retells_spanFrom _) fun span => .bind retells_terminator fun _ => .pure id

/-! ## Simple statements -/

theorem retells_expressionStatement :
    Retells omits (Ready omits) (fun _ => Ready omits) (expressionStatement below) :=
  .bind nested.expression fun _ => .bind retells_terminator fun _ => .pure id

theorem retells_letStatement :
    Retells omits (Ready omits) (fun _ => Ready omits) (letStatement below) := by
  refine .bind (.expect_ready _ rfl id) fun start => ?_
  refine .bind (.expect_ready _ rfl (·.ready rfl)) fun name => ?_
  refine .bind (.expect_ready _ rfl (·.ready rfl)) fun _ => ?_
  refine .bind (nested.expression.mono (·.ready rfl) id) fun value => ?_
  exact .bind retells_terminator fun _ => .pure id

theorem retells_binding : Retells omits (Ready omits) (fun _ => Level omits) (binding below) := by
  refine .bind (.expect_ready _ rfl id) fun name => ?_
  refine .of_accept (.accept_fixed rfl (·.toLevel)) ?_ (.pure (·.toLevel))
  exact .bind (nested.expression.mono (·.ready rfl) id) fun value => .pure id

/-- What follows the name in a change of a variable. -/
theorem retells_assigned {mark : Token} (no_factor : mark.kind.endsFactor = false) (name : Token)
    (op : Option BinaryOp) :
    Retells omits (Facing omits mark) (fun _ => Ready omits) (do
      let mark ← advance
      let value ← if isStep mark.kind then pure (one mark.span) else below.expression
      terminator
      return Stmt.assign name.text op value (name.span.to value.span)) := by
  have ending (value : Expr) : Retells omits (Level omits) (fun _ => Ready omits) (do
      terminator
      return Stmt.assign name.text op value (name.span.to value.span)) :=
    .bind retells_terminator fun _ => .pure id
  refine .bind .advance fun last => ?_
  split
  · exact .bind (.pure (·.toLevel)) ending
  · exact .bind (nested.expression.mono (·.ready no_factor) id) ending

/-- After a name both runs find the same mark of assignment, or neither finds one. -/
theorem retells_nameStatement {token : Token} (kind : token.kind = .identifier) :
    Retells omits (Facing omits token) (fun _ => Ready omits) (nameStatement below) := by
  intro cursor cursor' faces value final run
  have expressions := retells_expressionStatement nested _ _ (.inl (.facing faces))
  cases faces with
  | @token previous previous' finish finish' rest rest' later ends ends' =>
      have looked : peekNextKind.run ⟨previous, token :: rest, finish⟩ =
          .ok ((rest.headD finish).kind, ⟨previous, token :: rest, finish⟩) := rfl
      have looked' : peekNextKind.run ⟨previous', token :: rest', finish'⟩ =
          .ok ((rest'.headD finish').kind, ⟨previous', token :: rest', finish'⟩) := rfl
      have after := later.after kind ends ends'
      rw [nameStatement, run_bind_of_ok looked] at run
      rw [nameStatement, run_bind_of_ok looked']
      rcases after.ready rfl with fresh | at_point
      · have same : (rest'.headD finish').kind = (rest.headD finish).kind := fresh.peek_kind
        rw [same]
        cases assigns : assignmentOperator (rest.headD finish).kind with
        | none =>
            rw [assigns] at run
            exact expressions _ _ run
        | some op =>
            rw [assigns] at run
            have inner : (rest.headD finish).kind ≠ .finish := by
              intro ended
              rw [ended] at assigns
              cases assigns
            obtain ⟨mark, faces, mark_kind⟩ := fresh.exists_facing rfl inner
            have no_factor : mark.kind.endsFactor = false := by
              rw [mark_kind]
              exact endsFactor_of_assignmentOperator assigns
            exact retells_assigned nested no_factor token op _ _ faces _ _ run
      · have point : (rest.headD finish).kind = .dot := at_point.peek_kind
        have closes : endsStatement (rest'.headD finish').kind = true := at_point.peek_kind'
        rw [point] at run
        rw [assignmentOperator_of_endsStatement closes]
        exact expressions _ _ run

variable [below.Orderly]

theorem retells_varStatement :
    Retells omits (Ready omits) (fun _ => Ready omits) (varStatement below) := by
  refine .bind (.expect_ready _ rfl id) fun start => ?_
  have bindings := Retells.separated fun _ : List (String × Option Expr) => retells_binding nested
  refine .bind (bindings.mono (·.ready rfl) id) fun bindings => ?_
  exact .bind (retells_spanFrom _) fun span => .bind retells_terminator fun _ => .pure id

/-! ## Blocks -/

variable [below.RefusesPoints]

variable (below) in
omit [below.Orderly] nested in
theorem blockStep_refusesPoint {ends : Token.Kind → Bool} (inner : ends .dot = false)
    (stmts : List Stmt) :
    RefusesPoint (do
      if ends (← peekKind) then return none
      else if (← get).atEnd then refuse (.mark ";" "to close the block")
      else return some ((← below.statement) :: stmts) : Parser (Option (List Stmt))) where
  refuses {cursor} at_point := by
    have looked : peekKind.run cursor = .ok (cursor.peek.kind, cursor) := rfl
    have got : (get : Parser Cursor).run cursor = .ok (cursor, cursor) := rfl
    rw [run_bind_of_ok looked, at_point, if_neg (by rw [inner]; exact Bool.false_ne_true),
      run_bind_of_ok got]
    split
    · exact ⟨_, refuse_run _ _⟩
    · exact RefusesPoint.refuses at_point

theorem retells_block {ends : Token.Kind → Bool} (inner : ends .dot = false) :
    Retells omits (Ready omits) (fun _ => Fresh omits) (block below ends) := by
  refine .bind (.whileSome ⟨?_, Ready.finishes, ?_⟩ []) fun _ => .pure id
  · intro stmts
    have no_point := blockStep_refusesPoint below inner stmts
    refine .of_fresh id (.peekKind_of_same (·.2.peek_kind) fun kind => ?_)
    split
    · exact .pure (·.1.2)
    · refine .atEnd (·.1.2) (.refuse _) (.bind (nested.statement.mono (·.1.1) id) fun stmt => ?_)
      exact .pure id
  · exact fun run finish => blockStep_shorter run finish

/-! ## Functions -/

theorem retells_functionBody (name : Token) :
    Retells omits (Level omits) (fun _ => Ready omits) (functionBody below name) := by
  refine .bind (.expect_fixed _ rfl id) fun _ => ?_
  refine .bind ((retells_block nested rfl).mono (·.ready rfl) id) fun body => ?_
  refine .bind (.expect_fresh _ (by decide)) fun close => ?_
  split
  · exact .complain _ _
  · exact .bind (retells_skipPoint.mono (·.ready rfl) id) fun _ => .pure id

omit [below.Orderly] [below.RefusesPoints] nested in
theorem functionBody_run_of_ne (name : Token) (other : cursor.peek.kind ≠ .colon) :
    (functionBody below name).run cursor = .error
      ⟨.malformed (unexpected (.mark ":" "to open the function body") cursor.peek),
        cursor.peek.span⟩ :=
  run_bind_of_error (expect_run_of_ne _ other) _

omit [below.Orderly] [below.RefusesPoints] nested in
/-- Where the point after the parameters is left out before the end of a block, the second run
complains about what it finds in its place. -/
theorem AtPoint.excused (at_point : AtPoint omits cursor cursor')
    (taken : ∃ close, cursor.previous = some close ∧ close.kind = .parenClose)
    (inside : cursor'.peek.kind ≠ .finish) :
    Excused omits
      ⟨.malformed (unexpected (.mark ":" "to open the function body") cursor'.peek),
        cursor'.peek.span⟩ := by
  obtain ⟨close, previous, close_kind⟩ := taken
  cases at_point with
  | point _ omitted fresh =>
      cases previous
      cases fresh with
      | atEnd _ ends' => exact absurd ends' inside
      | facing faces =>
          cases faces with
          | token => exact ⟨close, _, _, _, close_kind, omitted, inside, rfl⟩

/-- What follows the parameters of a function.  Before the end of a block only a point says that
there is no body. -/
theorem retells_definition (start close name : Token) (params : List String) :
    Retells omits (After omits .parenClose) (fun _ => Ready omits) (do
      match ← peekKind with
      | .dot | .finish =>
        skipPoint
        return Stmt.define 0 name.text params none (start.span.to close.span)
      | _ =>
        let (body, stop) ← functionBody below name
        return .define 0 name.text params (some body) (start.span.to stop)) := by
  intro cursor cursor' after value final run
  have looked : peekKind.run cursor = .ok (cursor.peek.kind, cursor) := rfl
  have looked' : peekKind.run cursor' = .ok (cursor'.peek.kind, cursor') := rfl
  have declares : Retells omits (Ready omits) (fun _ => Ready omits) (do
      skipPoint
      return Stmt.define 0 name.text params none (start.span.to close.span)) :=
    .bind retells_skipPoint fun _ => .pure id
  have defines : Retells omits (Level omits) (fun _ => Ready omits) (do
      let (body, stop) ← functionBody below name
      return Stmt.define 0 name.text params (some body) (start.span.to stop)) :=
    .bind (retells_functionBody nested name) fun _ => .pure id
  rw [run_bind_of_ok looked] at run
  rw [run_bind_of_ok looked']
  rcases after.toLevel.cases with (fresh | at_point) | at_product
  · rw [fresh.peek_kind]
    split at run
    · exact declares _ _ (.inl fresh) _ _ run
    · exact declares _ _ (.inl fresh) _ _ run
    · exact defines _ _ after.toLevel _ _ run
  · rw [at_point.peek_kind] at run
    have told := declares _ _ (.inr at_point) _ _ run
    split
    · exact told
    · exact told
    next _ inside =>
      have not_colon : cursor'.peek.kind ≠ .colon :=
        endsStatement_ne_of_eq_false at_point.peek_kind' rfl
      rw [run_bind_of_error (functionBody_run_of_ne name not_colon)]
      exact .refused (at_point.excused after.taken inside)
  · have starts := at_product.peek_kind
    have not_colon : cursor.peek.kind ≠ .colon := startsFactor_ne_of_eq_false starts rfl
    split at run
    next is_dot =>
      rw [is_dot] at starts
      cases starts
    next ended =>
      rw [ended] at starts
      cases starts
    next =>
      rw [run_bind_of_error (functionBody_run_of_ne name not_colon)] at run
      cases run

theorem retells_functionStatement :
    Retells omits (Ready omits) (fun _ => Ready omits) (functionStatement below) := by
  refine .bind (.expect_ready _ rfl id) fun start => ?_
  refine .bind (.expect_ready _ rfl (·.ready rfl)) fun name => ?_
  refine .bind (.accept_ready rfl (·.ready rfl)) fun marked => ?_
  have ready {cursor cursor'}
      (related : Found omits .at (After omits .identifier) marked cursor cursor') :
      Ready omits cursor cursor' := by
    cases marked with
    | true => exact After.ready related rfl
    | false => exact After.ready related rfl
  refine .bind (.expect_ready _ rfl ready) fun _ => ?_
  refine .bind (retells_parameters _) fun params => .bind (.expect_fixed _ rfl id) fun close => ?_
  exact retells_definition nested start close name params

/-! ## Conditions and loops -/

theorem retells_arm (word : String) :
    Retells omits (Ready omits) (fun _ => Fresh omits) (arm below word) := by
  refine .bind nested.expression fun condition => .bind (.expect_fixed _ rfl id) fun _ => ?_
  exact .bind ((retells_block nested rfl).mono (·.ready rfl) id) fun body => .pure id

theorem retells_laterArms :
    Retells omits (Fresh omits) (fun _ => Fresh omits) (laterArms below) := by
  refine .bind (.whileSome ⟨?_, Fresh.finishes, ?_⟩ []) fun _ => .pure id
  · intro arms
    refine .of_accept (.accept_fresh (by decide) id) ?_ (.pure id)
    exact .bind ((retells_arm nested _).mono (·.ready rfl) id) fun arm => .pure id
  · exact fun run finish => laterArm_shorter run finish

theorem retells_lastArm : Retells omits (Fresh omits) (fun _ => Fresh omits) (lastArm below) := by
  refine .of_accept (.accept_fresh (by decide) id) (.bind (.expect_ready _ rfl (·.ready rfl)) ?_)
    (.pure id)
  intro _
  exact .bind ((retells_block nested rfl).mono (·.ready rfl) id) fun body => .pure id

theorem retells_ifStatement :
    Retells omits (Ready omits) (fun _ => Ready omits) (ifStatement below) := by
  refine .bind (.expect_ready _ rfl id) fun start => ?_
  refine .bind ((retells_arm nested _).mono (·.ready rfl) id) fun first => ?_
  refine .bind (retells_laterArms nested) fun later => .bind (retells_lastArm nested) fun last => ?_
  refine .bind (.expect_fresh _ (by decide)) fun close => ?_
  exact .bind (retells_skipPoint.mono (·.ready rfl) id) fun _ => .pure id

theorem retells_whileStatement :
    Retells omits (Ready omits) (fun _ => Ready omits) (whileStatement below) := by
  refine .bind (.expect_ready _ rfl id) fun start => ?_
  refine .bind (nested.expression.mono (·.ready rfl) id) fun condition => ?_
  refine .bind (.expect_fixed _ rfl id) fun _ => ?_
  refine .bind ((retells_block nested rfl).mono (·.ready rfl) id) fun body => ?_
  refine .bind (.expect_fresh _ (by decide)) fun close => ?_
  exact .bind (retells_skipPoint.mono (·.ready rfl) id) fun _ => .pure id

omit [below.Orderly] [below.RefusesPoints] in
theorem retells_rangeBounds (start : Span) :
    Retells omits (After omits .parenOpen) (fun _ => Level omits) (rangeBounds below start) := by
  refine .of_accept (.accept_ready rfl (·.ready rfl)) ?_ ?_
  · refine .bind (nested.expression.mono (·.ready rfl) id) fun first => ?_
    refine .bind (.expect_fixed _ rfl id) fun _ => ?_
    refine .bind (nested.expression.mono (·.ready rfl) id) fun last => ?_
    refine .of_accept (.accept_fixed rfl id) ?_ (.pure id)
    exact .bind (nested.expression.mono (·.ready rfl) id) fun step => .pure id
  · exact .bind (nested.expression.mono (·.ready rfl) id) fun last => .pure id

theorem retells_forClause (name : String) :
    Retells omits (Ready omits) (fun _ => Fresh omits) (forClause below name) := by
  refine .of_accept (.accept_ready rfl id) ?_ ?_
  · refine .bind (.expect_ready _ rfl (·.ready rfl)) fun mark => ?_
    refine .bind (retells_rangeBounds nested _) ?_
    rintro ⟨first, last, step⟩
    refine .bind (.expect_fixed _ rfl id) fun _ => ?_
    refine .bind (.expect_fixed _ rfl (·.toLevel)) fun _ => ?_
    exact .bind ((retells_block nested rfl).mono (·.ready rfl) id) fun body => .pure id
  · refine .bind nested.expression fun values => .bind (.expect_fixed _ rfl id) fun _ => ?_
    exact .bind ((retells_block nested rfl).mono (·.ready rfl) id) fun body => .pure id

theorem retells_forStatement :
    Retells omits (Ready omits) (fun _ => Ready omits) (forStatement below) := by
  refine .bind (.expect_ready _ rfl id) fun start => ?_
  refine .bind (.expect_ready _ rfl (·.ready rfl)) fun name => ?_
  refine .bind (.expect_ready _ rfl (·.ready rfl)) fun _ => ?_
  refine .bind ((retells_forClause nested _).mono (·.ready rfl) id) fun clause => ?_
  refine .bind (.expect_fresh _ (by decide)) fun close => ?_
  exact .bind (retells_skipPoint.mono (·.ready rfl) id) fun _ => .pure id

/-! ## The grammar -/

omit [below.Orderly] nested in
instance : RefusesPoint (statement below) where
  refuses {cursor} at_point := by
    have looked : peekKind.run cursor = .ok (cursor.peek.kind, cursor) := rfl
    rw [statement, run_bind_of_ok looked, at_point]
    have expressions : RefusesPoint (expressionStatement below) :=
      inferInstanceAs (RefusesPoint (below.expression >>= _))
    exact expressions.refuses at_point

theorem retells_statement :
    Retells omits (Ready omits) (fun _ => Ready omits) (statement below) := by
  refine .of_fresh id (.peekKind_of_same (·.2.peek_kind) fun kind => ?_)
  have steps {kind : Token.Kind} (inner : kind ≠ .finish) (no_factor : kind.endsFactor = false)
      (op : BinaryOp) : Retells omits (fun cursor cursor' =>
        (Ready omits cursor cursor' ∧ Fresh omits cursor cursor') ∧ cursor.peek.kind = kind)
        (fun _ => Ready omits) (stepStatement op) :=
    .of_kind inner (fun related => ⟨related.1.2, related.2⟩) fun token token_kind =>
      retells_stepStatement (token_kind ▸ no_factor) op
  split
  · exact (retells_varStatement nested).mono (·.1.1) id
  · exact (retells_letStatement nested).mono (·.1.1) id
  · exact (retells_functionStatement nested).mono (·.1.1) id
  · exact (retells_ifStatement nested).mono (·.1.1) id
  · exact (retells_whileStatement nested).mono (·.1.1) id
  · exact (retells_forStatement nested).mono (·.1.1) id
  · exact (retells_giveStatement nested).mono (·.1.1) id
  · exact .of_kind (by decide) (fun related => ⟨related.1.2, related.2⟩) fun _ _ =>
      retells_passStatement
  · exact steps (by decide) (by rfl) _
  · exact steps (by decide) (by rfl) _
  · exact .of_kind (by decide) (fun related => ⟨related.1.2, related.2⟩) fun _ kind =>
      retells_nameStatement nested kind
  · exact (retells_expressionStatement nested).mono (·.1.1) id

end Statements

instance Grammar.refusesPoints_above (below : Grammar) [below.RefusesPoints] :
    below.above.RefusesPoints where
  expression := inferInstanceAs (RefusesPoint (Parser.expression below))
  unary := inferInstanceAs (RefusesPoint (Parser.unary below))
  power := inferInstanceAs (RefusesPoint (Parser.power below))
  statement := inferInstanceAs (RefusesPoint (Parser.statement below))

instance grammar_refusesPoints (levels : Nat) : (grammar levels).RefusesPoints := by
  induction levels with
  | zero =>
      exact ⟨inferInstanceAs (RefusesPoint tooDeep), inferInstanceAs (RefusesPoint tooDeep),
        inferInstanceAs (RefusesPoint tooDeep), inferInstanceAs (RefusesPoint tooDeep)⟩
  | succ levels ih => exact Grammar.refusesPoints_above (grammar levels)

theorem retells_tooDeep {before : Cursor → Cursor → Prop} {after : α → Cursor → Cursor → Prop} :
    Retells omits before after (tooDeep : Parser α) := by
  intro cursor cursor' _ value final run
  cases run

variable (omits) in
/-- Every level of the grammar comes to the same in both spellings. -/
theorem retells_grammar (levels : Nat) : RetellsBelow omits (grammar levels) := by
  induction levels with
  | zero => exact ⟨⟨retells_tooDeep, retells_tooDeep, retells_tooDeep⟩, retells_tooDeep⟩
  | succ levels ih =>
      exact ⟨⟨retells_expression ih.toRetellsNested, retells_power ih.toRetellsNested,
        retells_unary ih.toRetellsNested⟩, retells_statement ih⟩

end Parser
end DotScript
