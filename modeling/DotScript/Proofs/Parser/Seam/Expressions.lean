import DotScript.Proofs.Parser.Seam.Basic

/-!
# Expressions along a seam

The parsers of expressions agree with themselves on two token lists that are alike up to a seam.  A
run that stops at the seam does so before a token that may go on with the expression.
-/

namespace DotScript
namespace Seam

open DotScript.Parser

variable {seam : Seam} {α β γ : Type} {halt : Cursor → Prop}

variable (seam) in
/-- Two expressions that differ in their places at most. -/
def SameExpr (expr expr' : Expr) : Prop :=
  expr.mapSpan seam.left = expr'.mapSpan seam.right

variable (seam) in
/-- Two lists of expressions that differ in their places at most. -/
def SameExprs (exprs exprs' : List Expr) : Prop :=
  Expr.mapSpans seam.left exprs = Expr.mapSpans seam.right exprs'

variable (seam) in
/-- Two spans that are the same after the changes. -/
def SameSpan (span span' : Span) : Prop :=
  seam.left span = seam.right span'

theorem SameExpr.span {expr expr' : Expr} (same : seam.SameExpr expr expr') :
    seam.SameSpan expr.span expr'.span := by
  have spans := congrArg Expr.span same
  rwa [Expr.span_mapSpan, Expr.span_mapSpan] at spans

theorem SameExpr.withSpan {expr expr' : Expr} {span span' : Span} (same : seam.SameExpr expr expr')
    (spans : seam.SameSpan span span') :
    seam.SameExpr (expr.withSpan span) (expr'.withSpan span') := by
  rw [SameExpr, Expr.mapSpan_withSpan, Expr.mapSpan_withSpan, same, spans]

theorem SameExpr.ofBinary {left left' right right' : Expr} (op : BinaryOp)
    (same_left : seam.SameExpr left left') (same_right : seam.SameExpr right right') :
    seam.SameExpr (.ofBinary op left right) (.ofBinary op left' right') := by
  have spans := seam.joins same_left.span same_right.span
  simp only [SameExpr, Expr.ofBinary, Expr.mapSpan, Expr.binary.injEq, true_and]
  exact ⟨same_left, same_right, spans⟩

/-! ## Items -/

theorem tracks_separated {item : List α → Parser α} {item' : List β → Parser β} (view : α → γ)
    (view' : β → γ) [operand : ∀ earlier, Operand (item earlier)]
    (tracks : ∀ earlier earlier', earlier.map view = earlier'.map view' →
      seam.Tracks (fun _ => seam.Open) (fun value value' => view value = view' value')
        (item earlier) (item' earlier')) :
    seam.Tracks (fun _ => seam.Open) (fun values values' => values.map view = values'.map view')
      (separated item) (separated item') := by
  refine .bind (tracks [] [] rfl) fun first first' same => ?_
  refine .bind (.whileSome (fun values values' => values.map view = values'.map view') ?_ ?_ ?_) ?_
  · exact fun _ _ _ _ run finish => ((separatedStep_extends operand).closes run finish).shorter
  · intro earlier earlier' same
    refine .accept rfl (.bind (tracks _ _ same) fun value value' added => ?_) (.pure .none)
    refine .pure (.some ?_)
    rw [List.map_cons, List.map_cons, added, same]
  · rw [List.map_singleton, List.map_singleton, same]
  · intro values values' same
    refine .pure ?_
    rw [List.map_reverse, List.map_reverse, same]

variable (seam) in
/-- What is nested in expressions agrees on both sides of the seam. -/
structure TracksNested (below below' : Grammar) : Prop where
  expression : seam.Tracks (fun _ => seam.Open) seam.SameExpr below.expression below'.expression
  power : seam.Tracks (fun _ => seam.Open) seam.SameExpr below.power below'.power
  unary : seam.Tracks (fun _ => seam.Open) seam.SameExpr below.unary below'.unary

section Expressions

variable {below below' : Grammar} [below.Orderly] [below'.Orderly] (nested : seam.TracksNested below below')

include nested

theorem tracks_items {close : Token.Kind} (wanted : Wanted) (ends : close.endsOperand = true) :
    seam.Tracks halt (fun result result' => seam.SameExprs result.1 result'.1 ∧
      seam.SameSpan result.2 result'.2) (items below close wanted) (items below' close wanted) := by
  have : Operand (items below close wanted) := items_operand wanted ends
  have : Operand (items below' close wanted) := items_operand wanted ends
  have inner : close ≠ .finish := by
    rintro rfl
    cases ends
  have closing {values values' : List Expr} (same : seam.SameExprs values values') :
      seam.Tracks halt (fun result result' => seam.SameExprs result.1 result'.1 ∧
        seam.SameSpan result.2 result'.2)
        (expect close wanted >>= fun token => (pure (values, token.span)))
        (expect close wanted >>= fun token => (pure (values', token.span))) :=
    .expect wanted inner fun token token' _ alike => .pure ⟨same, alike.span⟩
  have refusing (values : List Expr) : Refuses (expect close wanted >>= fun token =>
      (pure (values, token.span) : Parser (List Expr × Span))) :=
    .bind (.expect wanted inner) inferInstance
  have nothing : seam.SameExprs [] [] := rfl
  apply Tracks.of_locked
  intro cursor cursor' locked
  apply locked.peekKind_bind
  split
  · exact closing nothing _ _ locked.toFollows
  · refine Tracks.bind_refuses (tracks_separated (Expr.mapSpan seam.left) (Expr.mapSpan seam.right)
      fun _ _ _ => nested.expression) ?_ _ _ locked.toFollows
    intro values values' same
    refine closing ?_
    rw [SameExprs, Expr.mapSpans_eq_map, Expr.mapSpans_eq_map, same]

omit nested [below.Orderly] [below'.Orderly] in
theorem Locked.constant {cursor cursor' : Cursor} (locked : seam.Locked cursor cursor')
    (value : Literal) :
    seam.Agree halt seam.SameExpr ((constant value).run cursor) ((constant value).run cursor') := by
  refine locked.advance_bind fun token token' alike => .pure ?_
  simp only [SameExpr, Expr.mapSpan, alike.span]

theorem Locked.nameOrCall {cursor cursor' : Cursor} (locked : seam.Locked cursor cursor') :
    seam.Agree (fun _ => seam.Open) seam.SameExpr ((nameOrCall below).run cursor)
      ((nameOrCall below').run cursor') := by
  have args : Operand (items below .parenClose (.mark ")" "after arguments")) :=
    items_operand _ rfl
  refine locked.advance_bind fun name name' alike => .accept rfl ?_ (.pure ?_)
  · refine .bind (tracks_items nested _ rfl) fun result result' same => .pure ?_
    have spans := seam.joins alike.span same.2
    simp only [SameExpr, Expr.mapSpan, Expr.call.injEq]
    exact ⟨alike.text, same.1, spans⟩
  · simp only [SameExpr, Expr.mapSpan, alike.text, alike.span]

omit [below.Orderly] [below'.Orderly] in
theorem Locked.group {cursor cursor' : Cursor} (locked : seam.Locked cursor cursor') :
    seam.Agree (fun _ => seam.Open) seam.SameExpr ((group below).run cursor)
      ((group below').run cursor') := by
  refine locked.advance_bind fun start start' open_alike => ?_
  refine .bind nested.expression fun inner inner' same => ?_
  refine .expect _ (by decide) fun close close' _ close_alike => .pure ?_
  exact same.withSpan (seam.joins open_alike.span close_alike.span)

theorem Locked.listLiteral {cursor cursor' : Cursor} (locked : seam.Locked cursor cursor') :
    seam.Agree (fun _ => seam.Open) seam.SameExpr ((listLiteral below).run cursor)
      ((listLiteral below').run cursor') := by
  refine locked.advance_bind fun start start' alike => ?_
  refine .bind (tracks_items nested _ rfl) fun result result' same => .pure ?_
  have spans := seam.joins alike.span same.2
  simp only [SameExpr, Expr.mapSpan, Expr.list.injEq]
  exact ⟨same.1, spans⟩

theorem Locked.setLiteral {cursor cursor' : Cursor} (locked : seam.Locked cursor cursor') :
    seam.Agree (fun _ => seam.Open) seam.SameExpr ((setLiteral below).run cursor)
      ((setLiteral below').run cursor') := by
  refine locked.advance_bind fun start start' alike => ?_
  refine .bind (tracks_items nested _ rfl) fun result result' same => .pure ?_
  have spans := seam.joins alike.span same.2
  simp only [SameExpr, Expr.mapSpan, Expr.set.injEq]
  exact ⟨same.1, spans⟩

theorem tracks_primary :
    seam.Tracks (fun _ => seam.Open) seam.SameExpr (primary below) (primary below') := by
  apply Tracks.of_locked
  intro cursor cursor' locked
  have looked : peek.run cursor = .ok (cursor.peek, cursor) := rfl
  have looked' : peek.run cursor' = .ok (cursor'.peek, cursor') := rfl
  rw [primary, primary, run_bind_of_ok looked, run_bind_of_ok looked', ← locked.peek.kind,
    ← locked.peek.text]
  split
  · exact locked.constant _
  · split
    · exact locked.constant _
    · exact agree_refuse _ _ _
  · exact locked.constant _
  · exact locked.constant _
  · exact locked.constant _
  · exact locked.constant _
  · exact locked.nameOrCall nested
  · exact locked.group nested
  · exact locked.listLiteral nested
  · exact locked.setLiteral nested
  · exact agree_refuse _ _ _

theorem tracks_methodCall {receiver receiver' : Expr} (same : seam.SameExpr receiver receiver') :
    seam.Tracks (fun _ => seam.Open) (Option.Rel seam.SameExpr) (methodCall below receiver)
      (methodCall below' receiver') := by
  apply Tracks.of_still
  intro cursor cursor' still
  have looked : (get : Parser Cursor).run cursor = .ok (cursor, cursor) := rfl
  have looked' : (get : Parser Cursor).run cursor' = .ok (cursor', cursor') := rfl
  have calls : atMethodCall cursor = startsMethodCall cursor.rest := rfl
  have calls' : atMethodCall cursor' = startsMethodCall cursor'.rest := rfl
  rw [methodCall, methodCall, run_bind_of_ok looked, run_bind_of_ok looked', calls, calls',
    ← still.startsMethodCall_eq]
  split
  · rename_i starts
    obtain ⟨dot, name, mark, rest, tokens, _⟩ := exists_of_startsMethodCall starts
    refine still.toFollows.advance_bind tokens fun dot' tokens' _ follows => ?_
    refine follows.advance_bind rfl fun name' tokens' alike follows => ?_
    refine follows.advance_bind rfl fun mark' tokens' _ follows => ?_
    refine Tracks.bind (tracks_items nested _ rfl) ?_ _ _ follows
    intro result result' items_same
    refine .pure (.some ?_)
    have spans := seam.joins same.span items_same.2
    simp only [SameExpr, Expr.mapSpan, Expr.method.injEq]
    exact ⟨same, alike.text, items_same.1, spans⟩
  · exact .same .none still.toFollows

theorem tracks_methodChain :
    seam.Tracks (fun _ => seam.Open) seam.SameExpr (methodChain below) (methodChain below') := by
  refine .bind (tracks_primary nested) fun receiver receiver' same => ?_
  refine .whileSome seam.SameExpr ?_ (fun _ _ => tracks_methodCall nested) same
  intro receiver value cursor next run finish
  exact (methodCall_extends.closes run finish).shorter

/-! ## Operators -/

omit nested [below.Orderly]

theorem tracks_unaryOperator : seam.Tracks (fun _ => seam.Open) Eq unaryOperator unaryOperator :=
  .accept rfl (.pure rfl) (.accept rfl (.pure rfl) (.pure rfl))

theorem tracks_termOperator : seam.Tracks (fun _ => seam.Open) Eq termOperator termOperator :=
  .accept rfl (.pure rfl) (.accept rfl (.pure rfl) (.pure rfl))

theorem tracks_andOperator : seam.Tracks (fun _ => seam.Open) Eq andOperator andOperator :=
  .accept rfl (.pure rfl) (.pure rfl)

theorem tracks_orOperator : seam.Tracks (fun _ => seam.Open) Eq orOperator orOperator :=
  .accept rfl (.pure rfl) (.pure rfl)

theorem Still.atImplicitProduct_eq {cursor cursor' : Cursor} (still : seam.Still cursor cursor') :
    atImplicitProduct cursor = atImplicitProduct cursor' := by
  have opens : cursor.peek.kind = .parenOpen ↔ cursor'.peek.kind = .parenOpen :=
    still.peek_kind_eq_iff rfl
  have names : cursor.peek.kind = .identifier ↔ cursor'.peek.kind = .identifier :=
    still.peek_kind_eq_iff rfl
  have before := still.previous
  rw [atImplicitProduct, atImplicitProduct]
  generalize cursor.previous = previous at before
  generalize cursor'.previous = previous' at before
  cases before with
  | start ended =>
      cases previous' with
      | none => rfl
      | some token => rcases ended token rfl with kind | kind <;> simp [kind]
  | after alike => simp only [alike.kind, opens, names]

theorem tracks_factorOperator :
    seam.Tracks (fun _ => seam.Open) Eq factorOperator factorOperator := by
  refine .accept rfl (.pure rfl) (.accept rfl (.pure rfl) (.accept rfl (.pure rfl) ?_))
  apply Tracks.of_still
  intro cursor cursor' still
  have looked : (get : Parser Cursor).run cursor = .ok (cursor, cursor) := rfl
  have looked' : (get : Parser Cursor).run cursor' = .ok (cursor', cursor') := rfl
  rw [run_bind_of_ok looked, run_bind_of_ok looked', ← still.atImplicitProduct_eq]
  split
  · exact .same rfl still.toFollows
  · exact .same rfl still.toFollows

/-- No comparison starts where an expression ends. -/
theorem comparisonOperator_run_of_endsExpression {cursor : Cursor}
    (ends : cursor.peek.kind.endsExpression = true) :
    comparisonOperator.run cursor = .ok (none, cursor) := by
  have looked : peekKind.run cursor = .ok (cursor.peek.kind, cursor) := rfl
  rw [comparisonOperator, run_bind_of_ok looked]
  split
  case h_10 => rfl
  all_goals
    rename_i kind
    rw [kind] at ends
    cases ends

theorem Locked.take {cursor cursor' : Cursor} (locked : seam.Locked cursor cursor')
    (op : BinaryOp) : seam.Agree halt Eq ((take op).run cursor) ((take op).run cursor') :=
  locked.advance_bind fun _ _ _ => .pure rfl

/-- After `not` both runs find `points`, or neither does. -/
theorem Follows.peekNext_points_iff {cursor cursor' : Cursor} {token : Token} {rest : List Token}
    (follows : seam.Follows cursor cursor') (tokens : cursor.rest = token :: rest)
    (negates : token.kind = .not) :
    cursor.peekNext.kind = .keyword .points ↔ cursor'.peekNext.kind = .keyword .points := by
  have starts (tokens : List Token) (finish : Token) (ends : finish.kind = .finish) :
      (tokens.headD finish).kind = .keyword .points ↔ startsPoints tokens = true := by
    cases tokens with
    | nil => simp [startsPoints, ends]
    | cons token rest => simp [startsPoints]
  have tracked := follows.rest
  rw [tokens] at tracked
  rw [Cursor.peekNext, Cursor.peekNext, tokens]
  generalize cursor'.rest = tokens' at tracked
  cases tracked with
  | step _ _ points _ =>
      rw [List.tail_cons, List.tail_cons, starts _ _ (follows.finish ▸ seam.finish_kind),
        starts _ _ (follows.finish' ▸ seam.finish_kind'), points negates]

theorem tracks_comparisonOperator :
    seam.Tracks (fun _ => seam.Open) Eq comparisonOperator comparisonOperator := by
  apply Tracks.of_still
  intro cursor cursor' still
  cases tokens : cursor.rest with
  | nil =>
      have ends : cursor.peek.kind.endsExpression = true := by rw [(still.peek_atEnd tokens).1]; rfl
      have ends' : cursor'.peek.kind.endsExpression = true := by
        rcases still.peek_kind with same | ⟨_, ends'⟩
        · rwa [← same]
        · exact ends'
      rw [comparisonOperator_run_of_endsExpression ends, comparisonOperator_run_of_endsExpression ends']
      exact .same rfl still.toFollows
  | cons token rest =>
      have locked : seam.Locked cursor cursor' :=
        ⟨still.toFollows, by rw [tokens]; exact List.cons_ne_nil _ _⟩
      apply locked.peekKind_bind
      split
      case h_8 => exact locked.advance_bind fun _ _ _ => .accept rfl (.pure rfl) (.pure rfl)
      case h_9 negates =>
        rw [Cursor.peek_of_rest_eq_cons tokens] at negates
        have looked : peekNextKind.run cursor = .ok (cursor.peekNext.kind, cursor) := rfl
        have looked' : peekNextKind.run cursor' = .ok (cursor'.peekNext.kind, cursor') := rfl
        have points := still.peekNext_points_iff tokens negates
        rw [run_bind_of_ok looked, run_bind_of_ok looked']
        by_cases found : cursor.peekNext.kind = .keyword .points
        · rw [if_pos found, if_pos (points.1 found)]
          refine still.toFollows.advance_bind tokens fun _ _ _ follows => ?_
          cases rest with
          | nil =>
              rw [Cursor.peekNext, tokens] at found
              rw [List.tail_cons, List.headD_nil, still.finish, seam.finish_kind] at found
              cases found
          | cons word rest =>
              exact follows.advance_bind rfl fun _ _ _ follows => .same rfl follows
        · rw [if_neg found, if_neg (mt points.2 found)]
          exact .same rfl still.toFollows
      case h_10 => exact .same rfl still.toFollows
      all_goals exact locked.take _

/-! ## Chains of operators -/

theorem tracks_chain {operator : Parser (Option BinaryOp)} {operand operand' : Parser Expr}
    [Peels operator] [Operand operand]
    (operators : seam.Tracks (fun _ => seam.Open) Eq operator operator)
    (operands : seam.Tracks (fun _ => seam.Open) seam.SameExpr operand operand') :
    seam.Tracks (fun _ => seam.Open) seam.SameExpr (chain operator operand)
      (chain operator operand') := by
  have rests := rests_chainStep operand
  refine .bind operands fun first first' same => .whileSome seam.SameExpr ?_ ?_ same
  · exact fun _ _ _ _ run finish => ((chainStep_extends operator operand).closes run finish).shorter
  · intro left left' same
    refine .bind operators ?_
    rintro answer _ rfl
    cases answer with
    | none => exact .pure .none
    | some op => exact .bind operands fun right right' same_right => .pure (.some (same.ofBinary op same_right))

include nested

variable [below.Orderly]

variable (below) in
omit nested [below'.Orderly] in
/-- What follows a sign, or its absence, stays where no token is left. -/
theorem rests_signed (start : Token) (answer : Option UnaryOp) : Rests (match answer with
    | some op => do
      let operand ← below.unary
      return .unary op operand (start.span.to operand.span)
    | none => methodChain below) := by
  cases answer <;> infer_instance

theorem tracks_unary :
    seam.Tracks (fun _ => seam.Open) seam.SameExpr (unary below) (unary below') := by
  apply Tracks.of_locked
  intro cursor cursor' locked
  have looked : peek.run cursor = .ok (cursor.peek, cursor) := rfl
  have looked' : peek.run cursor' = .ok (cursor'.peek, cursor') := rfl
  have spans := locked.peek.span
  rw [unary, unary, run_bind_of_ok looked, run_bind_of_ok looked']
  have rests := rests_signed below cursor.peek
  refine Tracks.bind tracks_unaryOperator ?_ _ _ locked.toFollows
  rintro answer _ rfl
  cases answer with
  | none => exact tracks_methodChain nested
  | some op =>
      refine .bind nested.unary fun operand operand' same => .pure ?_
      have joined := seam.joins spans same.span
      simp only [SameExpr, Expr.mapSpan, Expr.unary.injEq, true_and]
      exact ⟨same, joined⟩

theorem tracks_power :
    seam.Tracks (fun _ => seam.Open) seam.SameExpr (power below) (power below') := by
  refine .bind (tracks_unary nested) fun base base' same => .accept rfl ?_ (.pure same)
  exact .bind nested.power fun exponent exponent' same' => .pure (same.ofBinary .pow same')

theorem tracks_factor :
    seam.Tracks (fun _ => seam.Open) seam.SameExpr (factor below) (factor below') :=
  tracks_chain tracks_factorOperator (tracks_power nested)

theorem tracks_term :
    seam.Tracks (fun _ => seam.Open) seam.SameExpr (term below) (term below') :=
  tracks_chain tracks_termOperator (tracks_factor nested)

theorem tracks_comparison :
    seam.Tracks (fun _ => seam.Open) seam.SameExpr (comparison below) (comparison below') :=
  tracks_chain tracks_comparisonOperator (tracks_term nested)

theorem tracks_conjunction :
    seam.Tracks (fun _ => seam.Open) seam.SameExpr (conjunction below) (conjunction below') :=
  tracks_chain tracks_andOperator (tracks_comparison nested)

theorem tracks_disjunction :
    seam.Tracks (fun _ => seam.Open) seam.SameExpr (disjunction below) (disjunction below') :=
  tracks_chain tracks_orOperator (tracks_conjunction nested)

omit nested [below.Orderly] in
/-- Calls correspond to calls. -/
theorem SameExpr.exists_call {name : String} {args : List Expr} {span : Span} {expr' : Expr}
    (same : seam.SameExpr (.call name args span) expr') :
    ∃ args' span', expr' = .call name args' span' ∧ seam.SameExprs args args' ∧
      seam.SameSpan span span' := by
  cases expr' with
  | call name' args' span' =>
      simp only [SameExpr, Expr.mapSpan, Expr.call.injEq] at same
      obtain ⟨rfl, same_args, spans⟩ := same
      exact ⟨args', span', rfl, same_args, spans⟩
  | _ => simp [SameExpr, Expr.mapSpan] at same

omit nested [below.Orderly] [below'.Orderly] in
/-- A complaint is the end of a run, whatever comes before it. -/
theorem exists_run_complain (first : Parser α) (mark : Token) (fault : SyntaxFault)
    (cursor : Cursor) :
    ∃ diagnostic, (first >>= fun _ => (complain mark fault : Parser β)).run cursor =
      .error diagnostic := by
  cases run : first.run cursor with
  | error diagnostic => exact ⟨diagnostic, run_bind_of_error run _⟩
  | ok result => exact ⟨_, run_bind_of_ok run _⟩

omit nested [below.Orderly] [below'.Orderly] in
/-- Behind a misplaced `of` both runs come to a complaint. -/
theorem tracks_misplacedOf (mark mark' : Token) :
    seam.Tracks halt seam.SameExpr
      (disjunction below >>= fun _ => complain mark .misplacedOf)
      (disjunction below' >>= fun _ => complain mark' .misplacedOf) := by
  intro cursor cursor' _
  obtain ⟨_, run⟩ := exists_run_complain (β := Expr) (disjunction below) mark .misplacedOf cursor
  obtain ⟨_, run'⟩ := exists_run_complain (β := Expr) (disjunction below') mark' .misplacedOf cursor'
  rw [run, run']
  exact .failed

omit nested [below.Orderly] [below'.Orderly] in
/-- What follows `of` and a receiver takes no token. -/
theorem moves_receiver (value receiver : Expr) (mark : Token) : Moves (match value with
    | .call name args span => pure (.method receiver name args (span.to receiver.span))
    | _ => (complain mark .misplacedOf : Parser Expr)) := by
  split <;> infer_instance

theorem tracks_expression :
    seam.Tracks (fun _ => seam.Open) seam.SameExpr (expression below) (expression below') := by
  intro cursor cursor' follows
  have moves := moves_receiver
  refine (tracks_disjunction nested _ _ follows).bind ?_ (fun _ _ _ _ _ halted _ => halted) ?_
  · exact fun value => .bind inferInstance fun mark => rests_accept (by decide)
  intro value value' final final' _ same next_follows
  have looked : peek.run final = .ok (final.peek, final) := rfl
  have looked' : peek.run final' = .ok (final'.peek, final') := rfl
  rw [run_bind_of_ok looked, run_bind_of_ok looked']
  refine Tracks.accept rfl ?_ (.pure same) _ _ next_follows
  cases value with
  | call name args span =>
      obtain ⟨args', span', rfl, same_args, spans⟩ := same.exists_call
      refine .bind (tracks_disjunction nested) fun receiver receiver' same' => .pure ?_
      have joined := seam.joins spans same'.span
      simp only [SameExpr, Expr.mapSpan, Expr.method.injEq, true_and]
      exact ⟨same', same_args, joined⟩
  | _ =>
      cases value' with
      | call name args span => simp [SameExpr, Expr.mapSpan] at same
      | _ => exact tracks_misplacedOf _ _

end Expressions

end Seam
end DotScript
