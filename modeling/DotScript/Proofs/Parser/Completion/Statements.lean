import DotScript.Proofs.Parser.Completion.Expressions

/-!
# Going on with a statement

A statement that stops is gone on with up to a place where a block or the token list may end.  A
block is closed by a semicolon, and one without a statement is given the statement that does
nothing.
-/

namespace DotScript

/-- Whether a token of this kind closes a block or the token list. -/
def Token.Kind.closes : Token.Kind → Bool
  | .semicolon | .finish => true
  | _ => false

namespace Edge

open DotScript.Parser

variable {edge : Edge} {cursor : Cursor} {α β : Type}

theorem encloses_of_closes {kind : Token.Kind} (closes : kind.closes = true) :
    kind.encloses = true := by
  unfold Token.Kind.closes at closes
  split at closes <;> first | rfl | cases closes

theorem endsStatement_of_closes {kind : Token.Kind} (closes : kind.closes = true) :
    endsStatement kind = true := by
  unfold Token.Kind.closes at closes
  split at closes <;> first | rfl | cases closes

theorem eq_semicolon_of_closesBlock {kind : Token.Kind} (closes : closesBlock kind = true) :
    kind = .semicolon := by
  unfold closesBlock at closes
  split at closes <;> first | rfl | cases closes

theorem closes_of_closesBlock {kind : Token.Kind} (closes : closesBlock kind = true) :
    kind.closes = true := by
  rw [eq_semicolon_of_closesBlock closes]
  rfl

/-! ## Ends of statements -/

theorem completes_terminator :
    edge.Completes Token.Kind.closes (fun _ => True) [] terminator terminator where
  inside cursor holds inside := by
    refine .accept inside (fun token rest tokens kind => ?_) (.peekKind inside ?_)
    · exact (Completes.pure trivial).after holds tokens
        (.nil (fun _ => encloses_of_closes) (by rw [kind]; decide))
    · split
      · exact .of_ok rfl inside
      · exact .refuse holds inside _
  supplies := by
    refine .accept (.peekKind fun kind fit => ?_) (ne_of_fits rfl)
    rw [Filler.lead, if_pos (endsStatement_of_closes fit)]
    exact .pure trivial

theorem completes_terminator_return (stmt : Stmt) :
    edge.Completes Token.Kind.closes (fun _ => True) [] (do terminator; return stmt)
      (do terminator; return stmt) :=
  completes_terminator.map fun _ => id

theorem completes_skipPoint :
    edge.Completes Token.Kind.closes (fun _ => True) [] skipPoint skipPoint where
  inside cursor holds inside := by
    refine .accept inside (fun token rest tokens kind => ?_) (.of_ok rfl inside)
    exact (Completes.pure trivial).after holds tokens
      (.nil (fun _ => encloses_of_closes) (by rw [kind]; decide))
  supplies := .accept (.pure trivial) (ne_of_fits rfl)

theorem completes_skipPoint_return (value : α) :
    edge.Completes Token.Kind.closes (fun _ => True) [] (do skipPoint; return value)
      (do skipPoint; return value) :=
  completes_skipPoint.map fun _ => id

/-- The end of a statement with a block. -/
theorem completes_close (wanted : Wanted) (value : Token → α) :
    edge.Completes Token.Kind.closes (fun _ => True) [.semicolon]
      (do let close ← expect .semicolon wanted; skipPoint; return value close)
      (do let close ← expect .semicolon wanted; skipPoint; return value close) :=
  .expect .semicolon (fun _ _ => completes_skipPoint_return _)
    (.nil (fun _ => encloses_of_closes) (by decide))

/-! ## Statements without parts -/

theorem completesAt_stepStatement (holds : edge.Holds cursor) {mark : Token} {rest : List Token}
    (tokens : cursor.rest = mark :: rest)
    (follow : Follow Token.Kind.closes [.nameApart []] mark.kind) (op : BinaryOp) :
    edge.CompletesAt Token.Kind.closes (fun _ => True) (stepStatement op) (stepStatement op)
      cursor := by
  refine .advance tokens (Completes.after ?_ holds tokens follow)
  exact .expect (.nameApart []) (fun name _ => completes_terminator_return _)
    (.nil (fun _ => encloses_of_closes) (by decide))

theorem completesAt_passStatement (holds : edge.Holds cursor) {word : Token} {rest : List Token}
    (tokens : cursor.rest = word :: rest) (kind : word.kind = .keyword .pass) :
    edge.CompletesAt Token.Kind.closes (fun _ => True) passStatement passStatement cursor := by
  refine .advance tokens ((completes_terminator_return _).after holds tokens ?_)
  exact .nil (fun _ => encloses_of_closes) (by rw [kind]; decide)

theorem supplies_passStatement :
    edge.Supplies Token.Kind.closes (fun _ => True) [.passWord] passStatement := by
  intro previous more tail spell fit
  obtain ⟨word, rest, rfl, _, _, later⟩ := spell.exists_cons
  exact (completes_terminator_return (.pass word.span)).supplies _ rest tail later fit

/-- What a token list may go on with changes no variable. -/
theorem assignmentOperator_eq_none {kind : Token.Kind} (goes_on : kind.goesOn = true) :
    assignmentOperator kind = none := by
  unfold assignmentOperator
  split <;> first | rfl | cases goes_on

/-! ## Parameters -/

/-- A name that no earlier parameter has may always come next. -/
theorem completes_parameter (function : String) (earlier : List String) :
    edge.Completes (fun kind => kind = .parenClose) (fun _ => True) [.nameApart earlier]
      (do
        let param ← expectName "parameter name"
        if earlier.contains param.text then
          complain param (.duplicateParameter param.text function)
        else
          return param.text)
      (do
        let param ← expectName "parameter name"
        if earlier.contains param.text then
          complain param (.duplicateParameter param.text function)
        else
          return param.text) where
  inside cursor holds inside := by
    refine .expect holds inside fun param rest tokens kind => ?_
    split
    · exact .of_error rfl (holds.inside param (by simp [tokens])) rfl
    · refine (Completes.pure trivial).after holds tokens ?_
      intro head fit
      rw [kind, Filler.lead, of_decide_eq_true fit]
      rfl
  supplies := by
    refine .expect (.nameApart earlier) fun param _ text => ?_
    have apart : ¬ earlier.contains param.text = true := by
      rw [text, List.contains_iff_mem]
      exact Filler.text_nameApart_not_mem earlier
    rw [if_neg apart]
    exact .pure trivial

theorem stable_parameters (function : String) : edge.Stable (parameters function) :=
  .of_tracks (fun _ => Seam.tracks_parameters function) fun _ _ _ => id

theorem completes_parameters (function : String) :
    edge.Completes (fun kind => kind = .parenClose) (fun _ => True) [] (parameters function)
      (parameters function) where
  inside cursor holds inside := by
    have operand := parameter_operand function
    refine .peekKind inside ?_
    split
    · exact .of_ok rfl inside
    · refine (Completes.separated (fun earlier => [.nameApart earlier]) ?_
        (completes_parameter function) ?_ ?_).inside cursor holds inside
      · exact fun earlier => .bind (.expect _ _) fun param => .ite (.complain _ _) (.pure _)
      · exact fun _ _ _ => rfl
      · exact ne_of_fits rfl
  supplies := by
    refine .peekKind fun kind fit => ?_
    rw [Filler.lead, if_pos (of_decide_eq_true fit)]
    exact .pure trivial

/-! ## Blocks -/

variable (edge) in
/-- What is nested in statements goes on where it runs out. -/
structure CompletesBelow (below below' : Grammar) : Prop
    extends edge.CompletesNested below below' where
  statement : edge.Completes Token.Kind.closes (fun _ => True) [.passWord] below.statement
    below'.statement
  stable : edge.Stable below'.statement

/-- One more statement of a block, if the block goes on. -/
def blockStep (below : Grammar) (ends : Token.Kind → Bool) (stmts : List Stmt) :
    Parser (Option (List Stmt)) := do
  if ends (← peekKind) then return none
  else if (← get).atEnd then refuse (.mark ";" "to close the block")
  else return some ((← below.statement) :: stmts)

section Blocks

variable {below below' : Grammar} [below.Orderly] [below'.Orderly] [below.Deepens below']
  {ends : Token.Kind → Bool}

instance (stmts : List Stmt) : Rests (blockStep below ends stmts) := by
  unfold blockStep
  infer_instance

instance (stmts : List Stmt) :
    Deepens (blockStep below ends stmts) (blockStep below' ends stmts) := by
  unfold blockStep
  infer_instance

theorem shrinks_blockStep : Shrinks (blockStep below ends) :=
  fun _ _ _ _ run finish => blockStep_shorter run finish

omit [below.Orderly] in
/-- A block ends with a semicolon. -/
theorem supplies_blockStep_none (closes : ends .semicolon = true) (stmts : List Stmt) :
    edge.Supplies closesBlock (· = none) [] (blockStep below ends stmts) := by
  refine .peekKind fun kind fit => ?_
  rw [Filler.lead, eq_semicolon_of_closesBlock fit, if_pos closes]
  exact .pure rfl

theorem supplies_block (closes : ends .semicolon = true) (goes_on : ends (.keyword .pass) = false)
    (supplies : edge.Supplies Token.Kind.closes (fun _ => True) [.passWord] below.statement) :
    edge.Supplies closesBlock (· ≠ []) [.passWord] (block below ends) := by
  have first : edge.Supplies closesBlock
      (fun answer : Option (List Stmt) => ∃ stmts, answer = some stmts ∧ stmts ≠ [])
      [.passWord] (blockStep below ends []) := by
    refine .peekKind fun kind fit => ?_
    rw [Filler.lead, Filler.passWord, if_neg (ne_true_of_eq_false goes_on)]
    refine .beforeEnd (.map (supplies.mono ?_) fun stmt _ => ⟨_, rfl, List.cons_ne_nil stmt []⟩)
    rintro _ same
    rw [decide_eq_true_eq] at same
    rw [same]
    exact closes_of_closesBlock fit
  refine .map (.turn shrinks_blockStep first (supplies_blockStep_none closes)) ?_
  exact fun stmts some_stmts reversed => some_stmts (List.reverse_eq_nil_iff.1 reversed)

end Blocks

/-! ## Declarations of functions -/

/-- A declaration of a function after its parameters. -/
def definition (below : Grammar) (start name close : Token) (params : List String) :
    Parser Stmt := do
  match ← peekKind with
  | .dot | .finish =>
    skipPoint
    return .define 0 name.text params none (start.span.to close.span)
  | _ =>
    let (body, stop) ← functionBody below name
    return .define 0 name.text params (some body) (start.span.to stop)

/-- A declaration of a function after its name. -/
def declaration (below : Grammar) (start name : Token) : Parser Stmt := do
  let _ ← accept .at
  let _ ← expect .parenOpen (.mark "(" "to open the parameter list")
  let params ← parameters name.text
  let close ← expect .parenClose (.mark ")" "after parameters")
  definition below start name close params

/-- Without a body a function is declared with a point. -/
theorem supplies_definition {below : Grammar} (start name close : Token) (params : List String) :
    edge.Supplies Token.Kind.closes (fun _ => True) [.dot]
      (definition below start name close params) := by
  intro previous more tail spell fit
  obtain ⟨dot, rest, rfl, kind, _, later⟩ := spell.exists_cons
  obtain rfl := Filler.spell_nil.1 later
  have looked : peekKind.run ((tail.prepend spell).after previous) = .ok (dot.kind, _) := rfl
  have taken : skipPoint.run ((tail.prepend spell).after previous) = .ok ((), _) :=
    run_bind_of_ok (accept_run_of_eq rfl kind) _
  rw [definition, run_bind_of_ok looked, kind]
  change edge.Lands _ _ ((skipPoint >>= fun _ => _).run _)
  rw [run_bind_of_ok taken]
  exact .reaches trivial

theorem supplies_declaration {below : Grammar} (start name : Token) :
    edge.Supplies Token.Kind.closes (fun _ => True) [.atSign, .parenOpen, .parenClose, .dot]
      (declaration below start name) :=
  .optional .atSign <| .expect .parenOpen fun _ _ _ => (completes_parameters _).supplies.bind
    (fun params _ => .expect .parenClose fun close _ _ =>
      supplies_definition start name close params) fun _ _ => rfl

/-! ## What loops run through -/

/-- A range that a loop runs through, and the body of the loop. -/
def rangeClause (below : Grammar) (name : String) : Parser (Span → Stmt) := do
  let mark ← expect .parenOpen (.mark "(" "after `range`")
  let (first, last, step) ← rangeBounds below mark.span
  let _ ← expect .parenClose (.mark ")" "to close `range`")
  let _ ← expect .colon (.mark ":" "after `range(...)`")
  let body ← block below closesBlock
  return .forRange name first last step body

/-- A value that a loop runs through, and the body of the loop. -/
def itemsClause (below : Grammar) (name : String) : Parser (Span → Stmt) := do
  let values ← below.expression
  let _ ← expect .colon (.mark ":" "after the iterable")
  let body ← block below closesBlock
  return .forIn name values body

theorem forClause_eq (below : Grammar) (name : String) :
    forClause below name = (do
      if ← accept (.keyword .range) then rangeClause below name else itemsClause below name) :=
  rfl

instance {below : Grammar} [below.Orderly] (name : String) : Moves (rangeClause below name) := by
  refine .bind inferInstance fun mark => .bind inferInstance fun (first, last, step) => ?_
  infer_instance

instance {below : Grammar} [below.Orderly] (name : String) : Moves (itemsClause below name) := by
  unfold itemsClause
  infer_instance

section Statements

variable {below below' : Grammar} [below.Orderly] [below'.Orderly] [below.Deepens below']
  (nested : edge.CompletesBelow below below')

include nested

omit [below.Orderly] [below.Deepens below'] in
theorem stable_blockStep (ends : Token.Kind → Bool) (stmts : List Stmt) :
    edge.Stable (blockStep below' ends stmts) :=
  .bind .peekKind fun _ => .ite (.pure _) <| .beforeEnd <| .bind nested.stable fun _ => .pure _

omit [below.Orderly] [below.Deepens below'] in
theorem stable_block (ends : Token.Kind → Bool) : edge.Stable (block below' ends) :=
  .bind (.whileSome shrinks_blockStep (stable_blockStep nested ends) []) fun _ => .pure _

omit [below.Orderly] [below'.Orderly] [below.Deepens below'] in
theorem completesAt_blockStep (ends : Token.Kind → Bool) (stmts : List Stmt)
    (holds : edge.Holds cursor) (inside : cursor.rest ≠ []) :
    edge.CompletesAt closesBlock (fun answer => answer.getD stmts ≠ []) (blockStep below ends stmts)
      (blockStep below' ends stmts) cursor := by
  refine .peekKind inside ?_
  split
  · exact .of_ok rfl inside
  · have stmt_added := (nested.statement.inside cursor holds inside).mono (fun _ => id)
      fun _ => closes_of_closesBlock
    exact .beforeEnd inside (stmt_added.map fun stmt _ => List.cons_ne_nil stmt stmts)

/-- A block that runs out has a statement, or is given one. -/
theorem completes_block {ends : Token.Kind → Bool} (closes : ends .semicolon = true)
    (goes_on : ends (.keyword .pass) = false) :
    edge.Completes closesBlock (· ≠ []) [.passWord] (block below ends) (block below' ends) where
  inside cursor holds inside := by
    have loop : edge.CompletesAt closesBlock (· ≠ []) (whileSome (blockStep below ends) [])
        (whileSome (blockStep below' ends) []) cursor :=
      .whileSome shrinks_blockStep shrinks_blockStep (stable_blockStep nested ends)
        (fun stmts _ => completesAt_blockStep nested ends stmts) (supplies_blockStep_none closes)
        holds inside
    exact loop.map fun stmts some_stmts reversed => some_stmts (List.reverse_eq_nil_iff.1 reversed)
  supplies := supplies_block closes goes_on nested.statement.supplies

theorem completes_body :
    edge.Completes closesBlock (· ≠ []) [.passWord] (block below closesBlock)
      (block below' closesBlock) :=
  completes_block nested rfl rfl

/-! ## Simple statements -/

omit [below.Orderly] [below.Deepens below'] in
theorem stable_binding : edge.Stable (binding below') :=
  .bind (.expect _ _) fun _ => .bind (.accept _) fun _ =>
    .ite (.bind (stable_expression nested.toCompletesNested) fun _ => .pure _) (.pure _)

omit [below.Orderly] [below'.Orderly] [below.Deepens below'] in
theorem completes_binding :
    edge.Completes Token.Kind.encloses (fun _ => True) [.nameApart []] (binding below)
      (binding below') := by
  refine .expect (.nameApart []) (fun name _ => ?_) (.nil (fun _ => id) (by decide))
  exact .accept (nested.expression.map fun _ => id) (.pure trivial) (fun _ _ => rfl) (ne_of_fits rfl)

theorem completesAt_varStatement (holds : edge.Holds cursor) (inside : cursor.rest ≠ []) :
    edge.CompletesAt Token.Kind.closes (fun _ => True) (varStatement below) (varStatement below')
      cursor := by
  have bindings := Completes.separated (fun _ => [Filler.nameApart []])
    (fun _ => stable_binding nested) (fun _ => completes_binding nested) (fun _ _ _ => rfl)
    (ne_of_fits rfl)
  exact .behind (fun start _ => .bind_nil (.separated fun _ => stable_binding nested) bindings
    (fun bindings => .spanFrom _ fun span => completes_terminator_return _)
    fun _ => encloses_of_closes) (fun _ _ => rfl) holds inside

theorem completes_expressionStatement :
    edge.Completes Token.Kind.closes (fun _ => True) [.zero] (expressionStatement below)
      (expressionStatement below') :=
  .bind_nil (stable_expression nested.toCompletesNested) nested.expression
    (fun _ => completes_terminator_return _) fun _ => encloses_of_closes

theorem completesAt_letStatement (holds : edge.Holds cursor) (inside : cursor.rest ≠ []) :
    edge.CompletesAt Token.Kind.closes (fun _ => True) (letStatement below) (letStatement below')
      cursor := by
  have value (start name : Token) := nested.expression.bind_nil
    (stable_expression nested.toCompletesNested)
    (fun value => completes_terminator_return (.letBe name.text value (start.span.to value.span)))
    fun _ => encloses_of_closes
  exact .behind (fun start _ => .expect (.nameApart []) (fun name _ => .expect .beWord
    (fun _ _ => value start name) fun _ _ => rfl) fun _ _ => rfl) (fun _ _ => rfl) holds inside

theorem completesAt_assignment {name mark : Token} {rest : List Token} (holds : edge.Holds cursor)
    (tokens : cursor.rest = name :: mark :: rest) (op : Option BinaryOp)
    (assigns : assignmentOperator mark.kind = some op) :
    edge.CompletesAt Token.Kind.closes (fun _ => True) (assignment below op) (assignment below' op)
      cursor := by
  have written : mark.kind ≠ .unterminatedString := by
    intro kind
    rw [kind] at assigns
    cases assigns
  refine .advance tokens (.advance rfl ?_)
  split
  · refine .of_step rfl rfl (fun _ _ => rfl) ?_
    exact (completes_terminator_return _).after (holds.take tokens) rfl
      (.nil (fun _ => encloses_of_closes) written)
  · refine Completes.after (.bind_nil (stable_expression nested.toCompletesNested) nested.expression
      (fun _ => completes_terminator_return _) fun _ => encloses_of_closes) (holds.take tokens) rfl ?_
    intro _ _
    simp [Token.Kind.joins, Token.Kind.goesOn, Filler.lead, Filler.zero, written]

theorem completesAt_nameStatement (holds : edge.Holds cursor) (inside : cursor.rest ≠ []) :
    edge.CompletesAt Token.Kind.closes (fun _ => True) (nameStatement below) (nameStatement below')
      cursor := by
  obtain ⟨name, rest, tokens⟩ := List.exists_cons_of_ne_nil inside
  have looked (cursor : Cursor) : peekNextKind.run cursor = .ok (cursor.peekNext.kind, cursor) :=
    rfl
  have expressions := (completes_expressionStatement nested).inside cursor holds inside
  cases rest with
  | nil =>
      have ahead : cursor.peekNext.kind = .finish := by
        rw [Cursor.peekNext, tokens]
        exact holds.finish_kind
      have ahead' (beyond : Beyond) : (cursor.onward beyond).peekNext.kind = beyond.headKind := by
        rw [Cursor.peekNext, onward_rest tokens beyond]
        rfl
      refine .congr ?_ (fun beyond joins => ?_) expressions
      · rw [nameStatement, run_bind_of_ok (looked _), ahead]
        rfl
      · have goes_on : beyond.headKind.goesOn = true := by
          have joined := joins name (by rw [Cursor.last, tokens]; rfl)
          simp only [Token.Kind.joins, Bool.and_eq_true] at joined
          exact joined.1.1.1
        rw [nameStatement, run_bind_of_ok (looked _), ahead', assignmentOperator_eq_none goes_on]
  | cons mark rest =>
      have ahead : cursor.peekNext = mark := by rw [Cursor.peekNext, tokens]; rfl
      have ahead' (beyond : Beyond) : (cursor.onward beyond).peekNext = mark := by
        rw [Cursor.peekNext, onward_rest tokens beyond]
        rfl
      refine .of_step (looked _) rfl (fun beyond _ => ?_) ?_
      · rw [ahead, ← ahead' beyond]
        exact looked _
      · rw [ahead]
        split
        · exact completesAt_assignment nested holds tokens _ (by assumption)
        · exact expressions

/-! ## Functions -/

/-- A body without a statement is found before the edge, and a body that runs out is given one. -/
theorem completesAt_functionBody {name : Token} (named : name ∈ edge.tokens)
    (holds : edge.Holds cursor) (inside : cursor.rest ≠ []) :
    edge.CompletesAt Token.Kind.closes (fun _ => True) (functionBody below name)
      (functionBody below' name) cursor := by
  refine .expect holds inside fun colon rest tokens kind => ?_
  have body := (completes_body nested).after holds tokens (by rw [kind]; exact fun _ _ => rfl)
  have closed (body : List Stmt) (some_stmts : body ≠ []) :
      edge.Supplies Token.Kind.closes (fun _ => True) [.semicolon] (do
        let close ← expect .semicolon (.mark ";" "to close the function body")
        if body.isEmpty then complain name (.emptyBody name.text)
        else
          skipPoint
          return (body, close.span)) := by
    refine .expect .semicolon fun close _ _ => ?_
    rw [if_neg (by rwa [List.isEmpty_iff])]
    exact (completes_skipPoint_return _).supplies
  refine .bind (stable_block nested _) (holds.take tokens) body (fun body after _ holds inside => ?_)
    closed fun _ _ => rfl
  refine .expect holds inside fun close rest tokens kind => ?_
  split
  · exact .of_error rfl named rfl
  · exact (completes_skipPoint_return _).after holds tokens
      (.nil (fun _ => encloses_of_closes) (by rw [kind]; decide))

theorem completes_definition {name : Token} (named : name ∈ edge.tokens) (start close : Token)
    (params : List String) :
    edge.Completes Token.Kind.closes (fun _ => True) [.dot] (definition below start name close params)
      (definition below' start name close params) where
  inside cursor holds inside := by
    have pointed (stmt : Stmt) := (completes_skipPoint_return stmt).inside cursor holds inside
    refine .peekKind inside ?_
    split
    · exact pointed _
    · exact pointed _
    · exact (completesAt_functionBody nested named holds inside).map fun _ => id
  supplies := supplies_definition start name close params

theorem completes_declaration {name : Token} (named : name ∈ edge.tokens) (start : Token) :
    edge.Completes Token.Kind.closes (fun _ => True) [.atSign, .parenOpen, .parenClose, .dot]
      (declaration below start name) (declaration below' start name) :=
  .optional .atSign (.expect .parenOpen (fun _ _ => .bind (stable_parameters _)
    (completes_parameters _) (fun params => .expect .parenClose
      (fun close _ => completes_definition nested named start close params) fun _ _ => rfl)
    fun _ _ => rfl) fun _ _ => rfl) fun _ _ => rfl

theorem completesAt_functionStatement (holds : edge.Holds cursor) (inside : cursor.rest ≠ []) :
    edge.CompletesAt Token.Kind.closes (fun _ => True) (functionStatement below)
      (functionStatement below') cursor := by
  refine .expect holds inside fun start rest tokens kind => ?_
  by_cases at_edge : rest = []
  · have named : edge.Supplies Token.Kind.closes (fun _ => True)
        [.nameApart [], .atSign, .parenOpen, .parenClose, .dot]
        (expectName "function name after `fn`" >>= fun name => declaration below' start name) :=
      .expect (.nameApart []) fun name _ _ => supplies_declaration start name
    refine named.completesAt at_edge fun head fit => joinsTo_of_previous at_edge rfl ?_
    rw [kind]
    rfl
  · refine .expect (holds.take tokens) at_edge fun name rest tokens' kind => ?_
    have member : name ∈ edge.tokens := (holds.take tokens).inside name (by rw [tokens']; simp)
    exact (completes_declaration nested member start).after (holds.take tokens) tokens'
      (by rw [kind]; exact fun _ _ => rfl)

/-! ## Conditions and loops -/

omit [below.Orderly] [below.Deepens below'] in
theorem stable_arm (word : String) : edge.Stable (arm below' word) :=
  .bind (stable_expression nested.toCompletesNested) fun _ => .bind (.expect _ _) fun _ =>
    .bind (stable_block nested _) fun _ => .pure _

theorem completes_arm (word : String) :
    edge.Completes closesBlock (fun _ => True) [.zero, .colon, .passWord] (arm below word)
      (arm below' word) :=
  .bind (stable_expression nested.toCompletesNested) nested.expression
    (fun _ => .expect .colon (fun _ _ => (completes_block nested rfl rfl).map fun _ _ => trivial)
      fun _ _ => rfl) fun _ _ => rfl

omit nested in
theorem shrinks_laterArm : Shrinks fun arms : List (Expr × List Stmt) => (do
    if ← accept (.keyword .elif) then return some ((← arm below "elif") :: arms)
    else return none : Parser (Option (List (Expr × List Stmt)))) :=
  fun _ _ _ _ run finish => laterArm_shorter run finish

theorem completes_laterArm (arms : List (Expr × List Stmt)) :
    edge.Completes closesBlock (fun _ => True) []
      (do if ← accept (.keyword .elif) then return some ((← arm below "elif") :: arms)
          else return none)
      (do if ← accept (.keyword .elif) then return some ((← arm below' "elif") :: arms)
          else return none) :=
  .accept ((completes_arm nested "elif").map fun _ => id) (.pure trivial) (fun _ _ => rfl)
    (ne_of_fits rfl)

omit [below.Orderly] [below.Deepens below'] in
theorem stable_laterArms : edge.Stable (laterArms below') :=
  .bind (.whileSome shrinks_laterArm (fun _ => .bind (.accept _) fun _ =>
    .ite (.bind (stable_arm nested _) fun _ => .pure _) (.pure _)) []) fun _ => .pure _

theorem completes_laterArms :
    edge.Completes closesBlock (fun _ => True) [] (laterArms below) (laterArms below') := by
  have loop := Completes.whileSome shrinks_laterArm shrinks_laterArm ?_
    (fun arms => (completes_laterArm nested arms).inside)
    (fun _ => .accept (.pure rfl) (ne_of_fits rfl)) []
  · exact loop.map fun _ => id
  · refine fun _ => .bind (.accept _) fun _ => .ite ?_ (.pure _)
    exact .bind (stable_arm nested _) fun _ => .pure _

theorem completes_lastArm :
    edge.Completes closesBlock (fun _ => True) [] (lastArm below) (lastArm below') :=
  .accept (.expect .colon (fun _ _ => (completes_body nested).map fun _ _ => trivial) fun _ _ => rfl)
    (.pure trivial) (fun _ _ => rfl) (ne_of_fits rfl)

omit [below.Orderly] [below.Deepens below'] in
theorem stable_lastArm : edge.Stable (lastArm below') :=
  .bind (.accept _) fun _ => .ite
    (.bind (.expect _ _) fun _ => .bind (stable_block nested _) fun _ => .pure _) (.pure _)

theorem completesAt_ifStatement (holds : edge.Holds cursor) (inside : cursor.rest ≠ []) :
    edge.CompletesAt Token.Kind.closes (fun _ => True) (ifStatement below) (ifStatement below')
      cursor :=
  .behind (fun _ _ => .bind (stable_arm nested _) (completes_arm nested _) (fun _ =>
    .bind (stable_laterArms nested) (completes_laterArms nested) (fun _ =>
      .bind (stable_lastArm nested) (completes_lastArm nested) (fun _ => completes_close _ _)
        fun _ _ => rfl) fun _ _ => rfl) fun _ _ => rfl) (fun _ _ => rfl) holds inside

theorem completesAt_whileStatement (holds : edge.Holds cursor) (inside : cursor.rest ≠ []) :
    edge.CompletesAt Token.Kind.closes (fun _ => True) (whileStatement below) (whileStatement below')
      cursor :=
  .behind (fun _ _ => .bind (stable_expression nested.toCompletesNested) nested.expression (fun _ =>
    .expect .colon (fun _ _ => .bind (stable_block nested _) (completes_body nested)
      (fun _ => completes_close _ _) fun _ _ => rfl) fun _ _ => rfl) fun _ _ => rfl)
    (fun _ _ => rfl) holds inside

omit [below.Orderly] [below.Deepens below'] in
theorem stable_rangeBounds (start : Span) : edge.Stable (rangeBounds below' start) := by
  have expression := stable_expression nested.toCompletesNested
  refine .bind (.accept _) fun _ => .ite ?_ (.bind expression fun _ => .pure _)
  exact .bind expression fun _ => .bind (.expect _ _) fun _ => .bind expression fun _ =>
    .bind (.accept _) fun _ => .ite (.bind expression fun _ => .pure _) (.pure _)

theorem completes_rangeBounds (start : Span) :
    edge.Completes Token.Kind.encloses (fun _ => True) [.zero] (rangeBounds below start)
      (rangeBounds below' start) := by
  have expression := stable_expression nested.toCompletesNested
  exact .accept (.bind expression nested.expression (fun _ => .expect .toWord (fun _ _ =>
    .bind_nil expression nested.expression (fun _ =>
      .accept (nested.expression.map fun _ => id) (.pure trivial) (fun _ _ => rfl) (ne_of_fits rfl))
      fun _ => id) fun _ _ => rfl) fun _ _ => rfl)
    (nested.expression.map fun _ => id) (fun _ _ => rfl) fun _ _ => nofun

omit [below.Orderly] [below.Deepens below'] in
theorem stable_rangeClause (name : String) : edge.Stable (rangeClause below' name) :=
  .bind (.expect _ _) fun _ => .bind (stable_rangeBounds nested _) fun _ =>
    .bind (.expect _ _) fun _ => .bind (.expect _ _) fun _ =>
      .bind (stable_block nested _) fun _ => .pure _

omit [below.Orderly] [below.Deepens below'] in
theorem stable_itemsClause (name : String) : edge.Stable (itemsClause below' name) :=
  .bind (stable_expression nested.toCompletesNested) fun _ => .bind (.expect _ _) fun _ =>
    .bind (stable_block nested _) fun _ => .pure _

omit [below.Orderly] [below.Deepens below'] in
theorem stable_forClause (name : String) : edge.Stable (forClause below' name) := by
  rw [forClause_eq]
  exact .bind (.accept _) fun _ =>
    .ite (stable_rangeClause nested name) (stable_itemsClause nested name)

theorem completes_rangeClause (name : String) :
    edge.Completes closesBlock (fun _ => True) [.parenOpen, .zero, .parenClose, .colon, .passWord]
      (rangeClause below name) (rangeClause below' name) :=
  .expect .parenOpen (fun _ _ => .bind (stable_rangeBounds nested _) (completes_rangeBounds nested _)
    (fun _ => .expect .parenClose (fun _ _ => .expect .colon
      (fun _ _ => (completes_body nested).map fun _ _ => trivial) fun _ _ => rfl) fun _ _ => rfl)
    fun _ _ => rfl) fun _ _ => rfl

theorem completes_itemsClause (name : String) :
    edge.Completes closesBlock (fun _ => True) [.zero, .colon, .passWord] (itemsClause below name)
      (itemsClause below' name) :=
  .bind (stable_expression nested.toCompletesNested) nested.expression
    (fun _ => .expect .colon (fun _ _ => (completes_body nested).map fun _ _ => trivial)
      fun _ _ => rfl) fun _ _ => rfl

theorem completes_forClause (name : String) :
    edge.Completes closesBlock (fun _ => True) [.zero, .colon, .passWord] (forClause below name)
      (forClause below' name) := by
  rw [forClause_eq, forClause_eq]
  exact .accept (completes_rangeClause nested name) (completes_itemsClause nested name)
    (fun _ _ => rfl) fun _ _ => nofun

theorem completesAt_forStatement (holds : edge.Holds cursor) (inside : cursor.rest ≠ []) :
    edge.CompletesAt Token.Kind.closes (fun _ => True) (forStatement below) (forStatement below')
      cursor :=
  .behind (fun _ _ => .expect (.nameApart []) (fun _ _ => .expect .inWord (fun _ _ =>
    .bind (stable_forClause nested _) (completes_forClause nested _)
      (fun _ => completes_close _ _) fun _ _ => rfl) fun _ _ => rfl) fun _ _ => rfl)
    (fun _ _ => rfl) holds inside

/-! ## Results of functions -/

omit [below.Orderly] [below'.Orderly] [below.Deepens below'] nested in
theorem supplies_givenValue :
    edge.Supplies Token.Kind.closes (fun _ => True) [] (givenValue below) := by
  intro previous more tail spell fit
  have no_paren : tail.headKind ≠ .parenOpen := ne_of_fits rfl _ fit
  have no_parens : ¬ AtEmptyParens (tail.after previous) := fun empty => no_paren empty.1
  have ends : endsStatement (tail.after previous).peek.kind = true :=
    endsStatement_of_closes fit
  rw [Beyond.prepend_nil, givenValue_run_of_not no_parens, ends, Bool.or_true, if_pos rfl]
  exact .reaches trivial

omit [below.Orderly] [below'.Orderly] [below.Deepens below'] nested in
/-- Empty parentheses stay where they are. -/
theorem givenValue_run_onward_of_empty (holds : edge.Holds cursor) (empty : AtEmptyParens cursor)
    (beyond : Beyond) : (givenValue below).run (cursor.onward beyond) =
      (do let _ ← advance; let _ ← advance; return none : Parser (Option Expr)).run
        (cursor.onward beyond) := by
  obtain ⟨rest, tokens⟩ :=
    Cursor.exists_cons_cons_of_peekNext holds.finish_kind (by rw [empty.2]; decide)
  refine givenValue_run_of_empty ⟨?_, ?_⟩
  · rw [Cursor.peek_of_rest_eq_cons (onward_rest tokens beyond)]
    exact empty.1
  · rw [Cursor.peekNext, onward_rest tokens beyond]
    exact empty.2

omit [below.Orderly] [below'.Orderly] [below.Deepens below'] nested in
/-- No empty parentheses come up, unless the edge is right behind an opening one. -/
theorem givenValue_run_onward_of_not {mark : Token} {rest : List Token}
    (tokens : cursor.rest = mark :: rest) (whole : mark.kind = .parenOpen → rest ≠ [])
    (other : ¬ AtEmptyParens cursor) (beyond : Beyond) :
    (givenValue below).run (cursor.onward beyond) =
      (if cursor.peek.kind = .dot || endsStatement cursor.peek.kind then pure none
        else do return some (← below.expression) : Parser (Option Expr)).run
          (cursor.onward beyond) := by
  have head : cursor.peek = mark := Cursor.peek_of_rest_eq_cons tokens
  have head' : (cursor.onward beyond).peek = mark :=
    Cursor.peek_of_rest_eq_cons (onward_rest tokens beyond)
  have other' : ¬ AtEmptyParens (cursor.onward beyond) := by
    rintro ⟨opens, closes⟩
    rw [head'] at opens
    obtain ⟨close, rest, rfl⟩ := List.exists_cons_of_ne_nil (whole opens)
    rw [Cursor.peekNext, onward_rest tokens beyond] at closes
    refine other ⟨head ▸ opens, ?_⟩
    rw [Cursor.peekNext, tokens]
    exact closes
  rw [givenValue_run_of_not other', head, head']

omit [below.Orderly] [below.Deepens below'] in
theorem stable_givenValue : edge.Stable (givenValue below') := by
  refine .of_inside fun cursor value next beyond holds inside run before joins => ?_
  by_cases empty : AtEmptyParens cursor
  · have kept : edge.Stable
        (do let _ ← advance; let _ ← advance; return none : Parser (Option Expr)) :=
      .bind .advance fun _ => .bind .advance fun _ => .pure none
    rw [givenValue_run_of_empty empty] at run
    rw [givenValue_run_onward_of_empty holds empty]
    exact kept _ _ _ _ holds run before joins
  obtain ⟨mark, rest, tokens⟩ := List.exists_cons_of_ne_nil inside
  rw [givenValue_run_of_not empty] at run
  by_cases whole : mark.kind = .parenOpen → rest ≠ []
  · have kept : edge.Stable
        (if cursor.peek.kind = .dot || endsStatement cursor.peek.kind then pure none
          else do return some (← below'.expression)) :=
      .ite (.pure _) (.bind (stable_expression nested.toCompletesNested) fun _ => .pure _)
    rw [givenValue_run_onward_of_not tokens whole empty]
    exact kept _ _ _ _ holds run before joins
  · obtain ⟨opens, alone⟩ := Classical.not_imp.1 whole
    rw [not_not] at alone
    subst alone
    rw [Cursor.peek_of_rest_eq_cons tokens, opens, if_neg (by decide)] at run
    obtain ⟨_, _, expression_run, last⟩ := run_bind_eq_ok run
    cases last
    have shorter := Takes.takes expression_run holds.finish_kind inside
    rw [tokens, List.length_singleton, Nat.lt_one_iff, List.length_eq_zero_iff] at shorter
    exact absurd shorter before

omit [below.Orderly] [below'.Orderly] [below.Deepens below'] in
/-- An opening parenthesis alone is closed. -/
theorem completesAt_givenValue (holds : edge.Holds cursor) (inside : cursor.rest ≠ []) :
    edge.CompletesAt Token.Kind.closes (fun _ => True) (givenValue below) (givenValue below')
      cursor := by
  by_cases empty : AtEmptyParens cursor
  · obtain ⟨rest, tokens⟩ :=
      Cursor.exists_cons_cons_of_peekNext holds.finish_kind (by rw [empty.2]; decide)
    refine .congr (givenValue_run_of_empty empty)
      (fun beyond _ => givenValue_run_onward_of_empty holds empty beyond) ?_
    exact .advance tokens <| .advance rfl <| (Completes.pure trivial).after (holds.take tokens) rfl
      (.nil (fun _ => encloses_of_closes) (by rw [empty.2]; decide))
  obtain ⟨mark, rest, tokens⟩ := List.exists_cons_of_ne_nil inside
  by_cases whole : mark.kind = .parenOpen → rest ≠ []
  · refine .congr (givenValue_run_of_not empty)
      (fun beyond _ => givenValue_run_onward_of_not tokens whole empty beyond) ?_
    split
    · exact .of_ok rfl inside
    · exact ((nested.expression.inside cursor holds inside).mono (fun _ => id)
        fun _ => encloses_of_closes).map fun _ => id
  · obtain ⟨opens, alone⟩ := Classical.not_imp.1 whole
    rw [not_not] at alone
    subst alone
    refine fun _ => ⟨[.parenClose], fun head _ last found => ?_, fun more tail spell _ => ?_⟩
    · rw [Cursor.last, tokens] at found
      cases found
      change mark.kind.joins .parenClose = true
      rw [opens]
      rfl
    · obtain ⟨close, rest, rfl, kind, _, later⟩ := spell.exists_cons
      obtain rfl := Filler.spell_nil.1 later
      have tokens' : (cursor.onward (tail.prepend spell)).rest = mark :: close :: tail.tokens :=
        onward_rest tokens _
      rw [givenValue_run_of_empty ⟨?_, ?_⟩, run_bind_of_ok (advance_run_cons tokens'),
        run_bind_of_ok (advance_run_cons rfl)]
      · exact .reaches trivial
      · rw [Cursor.peek_of_rest_eq_cons tokens', opens]
      · rw [Cursor.peekNext, tokens']
        exact kind

theorem completesAt_giveStatement (holds : edge.Holds cursor) (inside : cursor.rest ≠ []) :
    edge.CompletesAt Token.Kind.closes (fun _ => True) (giveStatement below) (giveStatement below')
      cursor := by
  have given : edge.Completes Token.Kind.closes (fun _ => True) [] (givenValue below)
      (givenValue below') :=
    ⟨fun _ => completesAt_givenValue nested, supplies_givenValue⟩
  exact .behind (fun _ _ => .bind_nil (stable_givenValue nested) given
    (fun _ => .spanFrom _ fun _ => completes_terminator_return _) fun _ => id)
    (.nil (fun _ => encloses_of_closes) (by decide)) holds inside

/-! ## The grammar -/

theorem completesAt_statement (holds : edge.Holds cursor) (inside : cursor.rest ≠ []) :
    edge.CompletesAt Token.Kind.closes (fun _ => True) (statement below) (statement below')
      cursor := by
  obtain ⟨token, rest, tokens⟩ := List.exists_cons_of_ne_nil inside
  have head : cursor.peek = token := Cursor.peek_of_rest_eq_cons tokens
  refine .peekKind inside ?_
  split
  next => exact completesAt_varStatement nested holds inside
  next => exact completesAt_letStatement nested holds inside
  next => exact completesAt_functionStatement nested holds inside
  next => exact completesAt_ifStatement nested holds inside
  next => exact completesAt_whileStatement nested holds inside
  next => exact completesAt_forStatement nested holds inside
  next => exact completesAt_giveStatement nested holds inside
  next kind => exact completesAt_passStatement holds tokens (head ▸ kind)
  next kind =>
    exact completesAt_stepStatement holds tokens (by rw [← head, kind]; exact fun _ _ => rfl) _
  next kind =>
    exact completesAt_stepStatement holds tokens (by rw [← head, kind]; exact fun _ _ => rfl) _
  next => exact completesAt_nameStatement nested holds inside
  next => exact (completes_expressionStatement nested).inside cursor holds inside

end Statements

theorem supplies_statement {below : Grammar} :
    edge.Supplies Token.Kind.closes (fun _ => True) [.passWord] (statement below) := by
  intro previous more tail spell fit
  obtain ⟨word, rest, rfl, kind, _, _⟩ := spell.exists_cons
  have looked : peekKind.run ((tail.prepend spell).after previous) = .ok (word.kind, _) := rfl
  rw [statement, run_bind_of_ok looked, kind]
  exact supplies_passStatement previous _ tail spell fit

/-- Where there are too few levels, nothing runs out. -/
theorem completes_tooDeep {fits : Token.Kind → Bool} {post : α → Prop} {fillers : List Filler}
    {parser' : Parser α} (supplies : edge.Supplies fits post fillers parser') :
    edge.Completes fits post fillers tooDeep parser' where
  inside cursor _ _ out := by
    cases out with
    | asked _ shallow => exact absurd rfl shallow
  supplies := supplies

theorem tracksBelow_grammar (seam : Seam) (levels : Nat) :
    seam.TracksBelow (grammar levels) (grammar levels) :=
  Seam.tracks_grammar (Nat.le_refl levels) fun _ => rfl

theorem stable_grammar_statement (levels : Nat) : edge.Stable (grammar levels).statement := by
  refine .of_inside fun cursor stmt next beyond holds inside run before joins => ?_
  have tracks := tracksBelow_grammar (edge.seam beyond) levels
  have agree := tracks.statement _ _ (holds.follows joins) inside
  refine run_eq_of_agree agree (fun stmt stmt' same => ?_) run before
  have mapped : stmt.mapSpan id = stmt'.mapSpan id := same
  rwa [Stmt.mapSpan_id, Stmt.mapSpan_id] at mapped

/-- Where the grammar runs out, it goes on with one more level. -/
theorem completesBelow_grammar (levels : Nat) :
    edge.CompletesBelow (grammar levels) (grammar (levels + 1)) := by
  induction levels with
  | zero =>
      exact {
        expression := completes_tooDeep supplies_expression
        power := completes_tooDeep supplies_power
        unary := completes_tooDeep supplies_unary
        statement := completes_tooDeep supplies_statement
        tracks := fun seam => (tracksBelow_grammar seam 1).toTracksNested
        stable := stable_grammar_statement 1 }
  | succ levels ih =>
      have deepens := grammar_deepens (Nat.le_succ levels)
      have nested := ih.toCompletesNested
      exact {
        expression := completes_expression nested
        power := completes_power nested
        unary := completes_unary nested
        statement := ⟨fun _ => completesAt_statement ih, supplies_statement⟩
        tracks := fun seam => (tracksBelow_grammar seam (levels + 2)).toTracksNested
        stable := stable_grammar_statement (levels + 2) }

end Edge
end DotScript
