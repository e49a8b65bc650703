import DotScript.Proofs.Parser.Seam.Expressions

/-!
# Statements along a seam

The parsers of statements agree with themselves on two token lists that are alike up to a seam.  A
statement whose point or semicolon is the last token before the seam is the same in both lists,
unless a point comes right after the seam.  `tracks_grammar` ties the levels of the grammar
together.
-/

namespace DotScript

/-- The last token that was taken is a point or a semicolon. -/
def Cursor.AfterPoint (cursor : Cursor) : Prop :=
  ∃ token, cursor.previous = some token ∧ (token.kind = .dot ∨ token.kind = .semicolon)

theorem Parser.Closes.not_afterPoint {before after : Cursor} (closes : Parser.Closes before after) :
    ¬ after.AfterPoint := by
  obtain ⟨token, previous, ends⟩ := closes.ends
  rintro ⟨token', previous', kind⟩
  rw [previous] at previous'
  cases previous'
  rcases kind with kind | kind <;> rw [kind] at ends <;> cases ends

namespace Seam

open DotScript.Parser

variable {seam : Seam} {α β γ : Type} {halt : Cursor → Prop}

variable (seam) in
/-- Two statements that differ in their places at most. -/
def SameStmt (stmt stmt' : Stmt) : Prop :=
  stmt.mapSpan seam.left = stmt'.mapSpan seam.right

variable (seam) in
/-- Two blocks that differ in their places at most. -/
def SameStmts (stmts stmts' : List Stmt) : Prop :=
  Stmt.mapSpans seam.left stmts = Stmt.mapSpans seam.right stmts'

variable (seam) in
/-- Where a declaration may stop at the seam. -/
def Drops (cursor : Cursor) : Prop :=
  ¬ cursor.AfterPoint ∨ seam.headKind = .dot

variable (seam) in
/-- Where other statements may stop at the seam. -/
def Halts (cursor : Cursor) : Prop :=
  seam.headKind ≠ .semicolon ∧ seam.Drops cursor

theorem headKind_ne_semicolon_of_open (opens : seam.Open) : seam.headKind ≠ .semicolon := by
  intro semicolon
  rcases opens with calls | goes_on
  · obtain ⟨dot, name, mark, rest, more, kind⟩ := exists_of_startsMethodCall calls
    rw [headKind, more, List.headD_cons, kind] at semicolon
    cases semicolon
  · rw [semicolon] at goes_on
    cases goes_on

theorem halts_of_open {cursor final : Cursor} (closes : Closes cursor final) (opens : seam.Open) :
    seam.Halts final :=
  ⟨headKind_ne_semicolon_of_open opens, .inl closes.not_afterPoint⟩

theorem more_ne_nil_of_headKind (kind : seam.headKind ≠ .finish) : seam.more ≠ [] := by
  intro nothing
  rw [headKind, nothing, List.headD_nil, seam.finish_kind'] at kind
  exact kind rfl

/-! ## Ends of statements -/

theorem endsStatement_of_eq {kind : Token.Kind} (ends : kind = .semicolon ∨ kind = .finish) :
    endsStatement kind = true := by
  rcases ends with rfl | rfl <;> rfl

theorem Follows.terminator {cursor cursor' : Cursor} (follows : seam.Follows cursor cursor')
    (before : ¬ cursor.AfterPoint) :
    seam.Agree seam.Halts Eq (terminator.run cursor) (terminator.run cursor') := by
  by_cases at_end : cursor.rest = []
  · obtain ⟨kind, kind'⟩ := follows.peek_atEnd at_end
    obtain ⟨looked, looked'⟩ := follows.peekKind_run at_end
    have run : Parser.terminator.run cursor = .ok ((), cursor) := by
      rw [Parser.terminator, run_bind_of_ok (accept_run_of_ne (by rw [kind]; decide)),
        if_neg Bool.false_ne_true, run_bind_of_ok looked]
      rfl
    rw [run]
    by_cases ends : seam.headKind = .semicolon ∨ seam.headKind = .finish
    · have no_point : cursor'.peek.kind ≠ .dot := by
        rw [kind']
        rcases ends with ends | ends <;> rw [ends] <;> nofun
      rw [Parser.terminator, run_bind_of_ok (accept_run_of_ne no_point), if_neg Bool.false_ne_true,
        run_bind_of_ok looked', if_pos (endsStatement_of_eq ends)]
      exact .same rfl follows
    · rw [not_or] at ends
      exact .stopped (more_ne_nil_of_headKind ends.2) at_end follows.finish ⟨ends.1, .inl before⟩
  · have locked : seam.Locked cursor cursor' := ⟨follows, at_end⟩
    have point : cursor.peek.kind = .dot ↔ cursor'.peek.kind = .dot := by rw [locked.peek.kind]
    rcases follows.accept_run (by decide) point with ⟨next, next', run, run', next_follows⟩ | ⟨run, run'⟩
    · rw [Parser.terminator, run_bind_of_ok run, run_bind_of_ok run']
      exact .same rfl next_follows
    · rw [Parser.terminator, run_bind_of_ok run, run_bind_of_ok run']
      apply locked.peekKind_bind
      split
      · exact .same rfl follows
      · exact agree_refuse _ _ _

/-- A statement ends. -/
theorem Follows.terminator_return {cursor cursor' : Cursor} (follows : seam.Follows cursor cursor')
    (before : ¬ cursor.AfterPoint) {stmt stmt' : Stmt} (same : seam.SameStmt stmt stmt') :
    seam.Agree seam.Halts seam.SameStmt
      ((do Parser.terminator; return stmt : Parser Stmt).run cursor)
      ((do Parser.terminator; return stmt' : Parser Stmt).run cursor') := by
  refine (follows.terminator before).bind inferInstance (fun _ _ _ _ _ halted _ => halted) ?_
  intro _ _ final final' _ _ next_follows
  exact .same same next_follows

theorem tracks_skipPoint : seam.Tracks seam.Halts Eq skipPoint skipPoint := by
  intro cursor cursor' follows
  by_cases stops : cursor.rest = [] ∧ seam.headKind = .dot
  · have further : seam.more ≠ [] := more_ne_nil_of_headKind (by rw [stops.2]; decide)
    apply follows.agree_of_rests _ stops.1 further
    exact ⟨by rw [stops.2]; decide, .inr stops.2⟩
  · have point : cursor.peek.kind = .dot ↔ cursor'.peek.kind = .dot := by
      by_cases at_end : cursor.rest = []
      · obtain ⟨kind, kind'⟩ := follows.peek_atEnd at_end
        rw [kind, kind']
        exact iff_of_false nofun fun dot => stops ⟨at_end, dot⟩
      · have locked : seam.Locked cursor cursor' := ⟨follows, at_end⟩
        rw [locked.peek.kind]
    rcases follows.accept_run (by decide) point with ⟨next, next', run, run', next_follows⟩ | ⟨run, run'⟩
    · rw [skipPoint, run_bind_of_ok run, run_bind_of_ok run']
      exact .same rfl next_follows
    · rw [skipPoint, run_bind_of_ok run, run_bind_of_ok run']
      exact .same rfl follows

theorem tracks_skipPoint_return {stmt stmt' : Stmt} (same : seam.SameStmt stmt stmt') :
    seam.Tracks seam.Halts seam.SameStmt (do skipPoint; return stmt) (do skipPoint; return stmt') :=
  .bind tracks_skipPoint fun _ _ _ => .pure same

/-! ## Blocks -/

variable (seam) in
/-- What is nested in statements agrees on both sides of the seam. -/
structure TracksBelow (below below' : Grammar) : Prop extends seam.TracksNested below below' where
  statement : ∀ cursor cursor', seam.Follows cursor cursor' → cursor.rest ≠ [] →
    seam.Agree seam.Drops seam.SameStmt (below.statement.run cursor) (below'.statement.run cursor')

section Statements

variable {below below' : Grammar} [below.Orderly] (nested : seam.TracksBelow below below')

include nested

omit [below.Orderly] in
theorem Follows.add_statement {cursor cursor' : Cursor} (follows : seam.Follows cursor cursor')
    (inside : cursor.rest ≠ []) {stmts stmts' : List Stmt} (same : seam.SameStmts stmts stmts') :
    seam.Agree seam.Drops (Option.Rel seam.SameStmts)
      ((do return some ((← below.statement) :: stmts) : Parser (Option (List Stmt))).run cursor)
      ((do return some ((← below'.statement) :: stmts') : Parser (Option (List Stmt))).run
        cursor') := by
  refine (nested.statement _ _ follows inside).bind inferInstance (fun _ _ _ _ _ halted _ => halted) ?_
  intro stmt stmt' final final' _ added next_follows
  refine .same (.some ?_) next_follows
  rw [SameStmts, Stmt.mapSpans, Stmt.mapSpans, added, same]

theorem tracks_block {ends : Token.Kind → Bool} (inner : ends .finish = false) :
    seam.Tracks seam.Drops seam.SameStmts (block below ends) (block below' ends) := by
  have related : seam.SameStmts [] [] := rfl
  refine .bind (.whileSome seam.SameStmts ?_ ?_ related) fun stmts stmts' same => .pure ?_
  · exact fun _ _ _ _ run finish => blockStep_shorter run finish
  · intro stmts stmts' same cursor cursor' follows
    have got : (get : Parser Cursor).run cursor = .ok (cursor, cursor) := rfl
    have got' : (get : Parser Cursor).run cursor' = .ok (cursor', cursor') := rfl
    cases tokens : cursor.rest with
    | nil =>
        obtain ⟨looked, looked'⟩ := follows.peekKind_run tokens
        have at_end : cursor.atEnd = true := by rw [Cursor.atEnd, tokens]; rfl
        rw [run_bind_of_ok looked, if_neg (by rw [inner]; decide), run_bind_of_ok got, if_pos at_end,
          refuse_run, Cursor.peek_of_rest_eq_nil tokens]
        by_cases nothing : seam.more = []
        · have at_end' : cursor'.atEnd = true := by
            rw [Cursor.atEnd, (follows.atEnd_of_more_eq_nil tokens nothing).rest]
            rfl
          have kind' : seam.headKind = .finish := by
            rw [headKind, nothing, List.headD_nil, seam.finish_kind']
          rw [run_bind_of_ok looked', kind', if_neg (by rw [inner]; decide), run_bind_of_ok got',
            if_pos at_end', refuse_run]
          exact .failed
        · exact .refused nothing (.inl (by rw [follows.finish]))
    | cons token rest =>
        obtain ⟨token', rest', tokens', _, _⟩ := follows.exists_cons tokens
        have inside : cursor.rest ≠ [] := by rw [tokens]; exact List.cons_ne_nil _ _
        have locked : seam.Locked cursor cursor' := ⟨follows, inside⟩
        have not_end : ¬ cursor.atEnd = true := by
          rw [Cursor.atEnd, tokens, List.isEmpty_cons]
          decide
        have not_end' : ¬ cursor'.atEnd = true := by
          rw [Cursor.atEnd, tokens', List.isEmpty_cons]
          decide
        apply locked.peekKind_bind
        split
        · exact .same .none follows
        · rw [run_bind_of_ok got, run_bind_of_ok got', if_neg not_end, if_neg not_end']
          exact follows.add_statement nested inside same
  · rw [SameStmts, Stmt.mapSpans_eq_map, Stmt.mapSpans_eq_map] at same ⊢
    rw [List.map_reverse, List.map_reverse, same]

/-! ## Simple statements -/

omit nested [below.Orderly] in
theorem Follows.spanFrom_bind {cursor cursor' : Cursor} (follows : seam.Follows cursor cursor')
    (taken : cursor.previous ≠ none) {start start' : Span} (starts : seam.SameSpan start start')
    {next : Span → Parser α} {next' : Span → Parser β} {related : α → β → Prop}
    (goes_on : ∀ span span', seam.SameSpan span span' →
      seam.Agree halt related ((next span).run cursor) ((next' span').run cursor')) :
    seam.Agree halt related ((spanFrom start >>= next).run cursor)
      ((spanFrom start' >>= next').run cursor') := by
  rw [run_bind_of_ok (spanFrom_run start cursor), run_bind_of_ok (spanFrom_run start' cursor')]
  apply goes_on
  have before := follows.previous
  generalize cursor.previous = previous at before taken
  generalize cursor'.previous = previous' at before
  cases before with
  | start => exact absurd rfl taken
  | after alike => exact seam.joins starts alike.span

theorem tracks_binding :
    seam.Tracks (fun _ => seam.Open) (fun binding binding' =>
      (binding.1, binding.2.map (Expr.mapSpan seam.left)) =
        (binding'.1, binding'.2.map (Expr.mapSpan seam.right)))
      (binding below) (binding below') := by
  refine .expect _ (by decide) fun name name' _ alike => .accept rfl ?_ (.pure ?_)
  · refine .bind nested.expression fun value value' same => .pure ?_
    rw [alike.text, Option.map_some, Option.map_some, same]
  · rw [alike.text]
    rfl

theorem tracks_varStatement :
    seam.Tracks seam.Halts seam.SameStmt (varStatement below) (varStatement below') := by
  refine .expect _ (by decide) fun start start' _ alike => ?_
  refine .bind_operand (tracks_separated _ _ fun _ _ _ => tracks_binding nested)
    (fun _ _ => halts_of_open) ?_
  intro bindings bindings' same cursor final final' closes follows
  have taken : final.previous ≠ none := by
    obtain ⟨token, previous, _⟩ := closes.ends
    rw [previous]
    exact Option.some_ne_none token
  refine follows.spanFrom_bind taken alike.span fun span span' spans => ?_
  refine follows.terminator_return closes.not_afterPoint ?_
  simp only [SameStmt, Stmt.mapSpan, mapBindings, Stmt.var.injEq]
  exact ⟨same, spans⟩

theorem tracks_letStatement :
    seam.Tracks seam.Halts seam.SameStmt (letStatement below) (letStatement below') := by
  refine .expect _ (by decide) fun start start' _ alike => ?_
  refine .expect _ (by decide) fun name name' _ name_alike => ?_
  refine .expect _ (by decide) fun _ _ _ _ => ?_
  refine .bind_operand nested.expression (fun _ _ => halts_of_open) ?_
  intro value value' same cursor final final' closes follows
  refine follows.terminator_return closes.not_afterPoint ?_
  have spans := seam.joins alike.span same.span
  simp only [SameStmt, Stmt.mapSpan, Stmt.letBe.injEq]
  exact ⟨name_alike.text, same, spans⟩

theorem tracks_expressionStatement :
    seam.Tracks seam.Halts seam.SameStmt (expressionStatement below) (expressionStatement below') := by
  refine .bind_operand nested.expression (fun _ _ => halts_of_open) ?_
  intro value value' same cursor final final' closes follows
  refine follows.terminator_return closes.not_afterPoint ?_
  simp only [SameStmt, Stmt.mapSpan, Stmt.expression.injEq]
  exact ⟨same, same.span⟩

omit nested [below.Orderly] in
theorem not_afterPoint_of_previous {cursor : Cursor} {token : Token}
    (previous : cursor.previous = some token) (not_dot : token.kind ≠ .dot)
    (not_semicolon : token.kind ≠ .semicolon) : ¬ cursor.AfterPoint := by
  rintro ⟨token', previous', kind⟩
  rw [previous] at previous'
  cases previous'
  exact kind.elim not_dot not_semicolon

theorem Follows.assignment {cursor cursor' : Cursor} (follows : seam.Follows cursor cursor')
    {name mark : Token} {rest : List Token} (tokens : cursor.rest = name :: mark :: rest)
    (op : Option BinaryOp) :
    seam.Agree seam.Halts seam.SameStmt ((assignment below op).run cursor)
      ((assignment below' op).run cursor') := by
  refine follows.advance_bind tokens fun name' _ name_alike follows => ?_
  refine follows.advance_bind rfl fun mark' _ alike follows => ?_
  rw [← alike.kind]
  split
  · rename_i steps
    have not_dot : mark.kind ≠ .dot := by
      intro kind
      rw [kind] at steps
      cases steps
    have not_semicolon : mark.kind ≠ .semicolon := by
      intro kind
      rw [kind] at steps
      cases steps
    refine follows.terminator_return (not_afterPoint_of_previous rfl not_dot not_semicolon) ?_
    have spans := seam.joins name_alike.span alike.span
    simp only [SameStmt, Stmt.mapSpan, one, Expr.mapSpan, Stmt.assign.injEq]
    exact ⟨name_alike.text, trivial, by rw [alike.span], spans⟩
  · refine Tracks.bind_operand nested.expression (fun _ _ => halts_of_open) ?_ _ _ follows
    intro value value' same cursor final final' closes follows
    refine follows.terminator_return closes.not_afterPoint ?_
    have spans := seam.joins name_alike.span same.span
    simp only [SameStmt, Stmt.mapSpan, Stmt.assign.injEq]
    exact ⟨name_alike.text, trivial, same, spans⟩

omit nested [below.Orderly] in
theorem Follows.stepStatement {cursor cursor' : Cursor} (follows : seam.Follows cursor cursor')
    {mark : Token} {rest : List Token} (tokens : cursor.rest = mark :: rest) (op : BinaryOp) :
    seam.Agree seam.Halts seam.SameStmt ((stepStatement op).run cursor)
      ((stepStatement op).run cursor') := by
  refine follows.advance_bind tokens fun mark' _ alike follows => ?_
  rw [← alike.text]
  have names (role : String) : seam.Tracks (fun _ => seam.Open) seam.Alike (expectName role)
      (expectName role) := tracks_expect _ (by decide)
  refine Tracks.bind_operand (names _) (fun _ _ => halts_of_open) ?_ _ _ follows
  intro name name' name_alike cursor final final' closes follows
  refine follows.terminator_return closes.not_afterPoint ?_
  have spans := seam.joins alike.span name_alike.span
  simp only [SameStmt, Stmt.mapSpan, one, Expr.mapSpan, Stmt.assign.injEq]
  exact ⟨name_alike.text, trivial, by rw [alike.span], spans⟩

omit nested in
/-- A name that comes last is an expression on its own, whatever comes after the seam. -/
theorem Follows.expressionStatement_alone {cursor cursor' : Cursor}
    (follows : seam.Follows cursor cursor') {token : Token} (tokens : cursor.rest = [token])
    (kind : token.kind = .identifier) (further : seam.more ≠ [])
    (goes_on : seam.headKind ≠ .semicolon) (outcome : Except Diagnostic (Stmt × Cursor)) :
    seam.Agree seam.Halts seam.SameStmt ((expressionStatement below).run cursor) outcome := by
  have settling : Settles (expressionStatement below) := .bind inferInstance inferInstance
  have finish : cursor.finish.kind = .finish := by rw [follows.finish, seam.finish_kind]
  rcases settling.settles tokens (.inl kind) finish with ⟨value, run⟩ | ⟨diagnostic, run, cause⟩
  · rw [run]
    refine .stopped further rfl follows.finish ⟨goes_on, .inl ?_⟩
    exact not_afterPoint_of_previous rfl (by rw [kind]; decide) (by rw [kind]; decide)
  · rw [run]
    exact .refused further (follows.finish ▸ cause)

theorem Follows.nameStatement {cursor cursor' : Cursor} (follows : seam.Follows cursor cursor')
    {token : Token} {rest : List Token} (tokens : cursor.rest = token :: rest)
    (kind : token.kind = .identifier) :
    seam.Agree seam.Halts seam.SameStmt ((nameStatement below).run cursor)
      ((nameStatement below').run cursor') := by
  have looked : peekNextKind.run cursor = .ok (cursor.peekNext.kind, cursor) := rfl
  have looked' : peekNextKind.run cursor' = .ok (cursor'.peekNext.kind, cursor') := rfl
  obtain ⟨token', rest', tokens', alike, next_follows⟩ := follows.exists_cons tokens
  have expressions := tracks_expressionStatement nested _ _ follows
  have next : cursor.peekNext = (rest.headD cursor.finish) := by rw [Cursor.peekNext, tokens]; rfl
  have next' : cursor'.peekNext = (rest'.headD cursor'.finish) := by
    rw [Cursor.peekNext, tokens']
    rfl
  rw [Parser.nameStatement, Parser.nameStatement, run_bind_of_ok looked, run_bind_of_ok looked',
    next, next']
  cases rest with
  | nil =>
      have at_end : assignmentOperator (([] : List Token).headD cursor.finish).kind = none := by
        rw [List.headD_nil, follows.finish, seam.finish_kind]
        rfl
      rw [at_end]
      have rest_eq : rest' = seam.more := next_follows.rest_eq_more rfl
      cases assigns : assignmentOperator (rest'.headD cursor'.finish).kind with
      | none => exact expressions
      | some op =>
          have head : (rest'.headD cursor'.finish).kind = seam.headKind := by
            rw [rest_eq, follows.finish', headKind]
          rw [head] at assigns
          apply follows.expressionStatement_alone tokens kind
          · intro nothing
            rw [headKind, nothing, List.headD_nil, seam.finish_kind'] at assigns
            cases assigns
          · intro semicolon
            rw [semicolon] at assigns
            cases assigns
  | cons mark rest =>
      obtain ⟨mark', rest'', more', mark_alike, _⟩ := next_follows.exists_cons rfl
      obtain rfl : rest' = mark' :: rest'' := more'
      rw [List.headD_cons, List.headD_cons, ← mark_alike.kind]
      split
      · exact follows.assignment nested tokens _
      · exact expressions

omit nested [below.Orderly] in
theorem Follows.passStatement {cursor cursor' : Cursor} (follows : seam.Follows cursor cursor')
    {word : Token} {rest : List Token} (tokens : cursor.rest = word :: rest)
    (kind : word.kind = .keyword .pass) :
    seam.Agree seam.Halts seam.SameStmt (passStatement.run cursor) (passStatement.run cursor') := by
  refine follows.advance_bind tokens fun word' _ alike follows => ?_
  have before : ¬ ({ cursor with previous := some word, rest } : Cursor).AfterPoint :=
    not_afterPoint_of_previous rfl (by rw [kind]; decide) (by rw [kind]; decide)
  refine follows.terminator_return before ?_
  simp only [SameStmt, Stmt.mapSpan, alike.span]

/-! ## Functions -/

omit nested [below.Orderly] in
theorem tracks_parameters (function : String) :
    seam.Tracks (fun _ => seam.Open) Eq (parameters function) (parameters function) := by
  apply Tracks.of_locked
  intro cursor cursor' locked
  apply locked.peekKind_bind
  split
  · exact .same rfl locked.toFollows
  · have operand := parameter_operand function
    refine Agree.mono (tracks_separated id id ?_ _ _ locked.toFollows) ?_ (fun _ _ _ halted => halted)
    · intro earlier earlier' same
      rw [List.map_id, List.map_id] at same
      subst same
      refine .expect _ (by decide) fun param param' _ alike => ?_
      rw [← alike.text]
      split
      · exact fun _ _ _ => .failed
      · exact .pure rfl
    · intro params params' same
      rwa [List.map_id, List.map_id] at same

theorem tracks_functionBody (name name' : Token) :
    seam.Tracks seam.Halts (fun result result' => seam.SameStmts result.1 result'.1 ∧
      seam.SameSpan result.2 result'.2) (functionBody below name) (functionBody below' name') := by
  refine .expect _ (by decide) fun _ _ _ _ => ?_
  refine .bind_refuses (tracks_block nested rfl) fun body body' same => ?_
  refine .expect _ (by decide) fun close close' _ alike => ?_
  have empty : body.isEmpty = body'.isEmpty := by
    rw [SameStmts, Stmt.mapSpans_eq_map, Stmt.mapSpans_eq_map] at same
    rw [← List.isEmpty_map, same, List.isEmpty_map]
  rw [← empty]
  split
  · exact fun _ _ _ => .failed
  · exact .bind tracks_skipPoint fun _ _ _ => .pure ⟨same, alike.span⟩

variable (below) in
omit nested in
/-- What follows the parameters of a function stays where no token is left. -/
theorem rests_definition (start close name : Token) (params : List String) (kind : Token.Kind) :
    Rests (match kind with
      | .dot | .finish => do
        skipPoint
        return .define 0 name.text params none (start.span.to close.span)
      | _ => do
        let (body, stop) ← functionBody below name
        return .define 0 name.text params (some body) (start.span.to stop) : Parser Stmt) := by
  split <;> infer_instance

/-- A function may be declared without a body only where its parameters are followed by a point or
by the end, so the declaration may stop at the seam. -/
theorem tracks_functionStatement :
    seam.Tracks seam.Drops seam.SameStmt (functionStatement below) (functionStatement below') := by
  refine .expect _ (by decide) fun start start' _ start_alike => ?_
  refine .expect _ (by decide) fun name name' _ name_alike => ?_
  have rests := rests_definition below start
  refine .bind_refuses (tracks_accept rfl) fun _ _ _ => ?_
  refine .expect _ (by decide) fun _ _ _ _ => ?_
  rw [← name_alike.text]
  refine .bind_refuses (tracks_parameters _) ?_
  rintro params _ rfl
  refine .bind_operand (tracks_expect _ (by decide))
    (fun _ _ closes (_ : seam.Open) => .inl closes.not_afterPoint) ?_
  intro close close' close_alike cursor final final' closes follows
  have spans := seam.joins start_alike.span close_alike.span
  have declares : seam.SameStmt (.define 0 name.text params none (start.span.to close.span))
      (.define 0 name.text params none (start'.span.to close'.span)) := by
    simp only [SameStmt, Stmt.mapSpan, Stmt.define.injEq, true_and]
    exact ⟨rfl, spans⟩
  have ends := (tracks_skipPoint_return declares _ _ follows).mono (fun _ _ => id)
    fun _ _ _ => And.right
  by_cases at_end : final.rest = []
  · by_cases nothing : seam.more = []
    · obtain ⟨looked, looked'⟩ := follows.peekKind_run at_end
      have kind' : seam.headKind = .finish := by
        rw [headKind, nothing, List.headD_nil, seam.finish_kind']
      rw [run_bind_of_ok looked, run_bind_of_ok looked', kind']
      exact ends
    · exact follows.agree_of_rests _ at_end nothing (.inl closes.not_afterPoint) _
  · have locked : seam.Locked final final' := ⟨follows, at_end⟩
    apply locked.peekKind_bind
    split
    · exact ends
    · exact ends
    · have body := tracks_functionBody nested name name' _ _ follows
      refine body.bind inferInstance (fun _ _ _ _ _ halted _ => halted.2) ?_
      intro result result' _ _ _ same next_follows
      refine .same ?_ next_follows
      have spans := seam.joins start_alike.span same.2
      simp only [SameStmt, Stmt.mapSpan, Stmt.mapBody, Stmt.define.injEq, true_and, Option.some.injEq]
      exact ⟨same.1, spans⟩

/-! ## Conditions and loops -/

theorem tracks_arm (word : String) :
    seam.Tracks seam.Drops (fun arm arm' => mapArm seam.left arm = mapArm seam.right arm')
      (arm below word) (arm below' word) := by
  refine .bind_refuses nested.expression fun condition condition' same => ?_
  refine .expect _ (by decide) fun _ _ _ _ => ?_
  refine .bind (tracks_block nested rfl) fun body body' same_body => .pure ?_
  rw [mapArm, mapArm, same, same_body]

theorem tracks_laterArms :
    seam.Tracks (fun _ => True)
      (fun arms arms' => arms.map (mapArm seam.left) = arms'.map (mapArm seam.right))
      (laterArms below) (laterArms below') := by
  refine .bind (.whileSome (fun arms arms' : List (Expr × List Stmt) =>
    arms.map (mapArm seam.left) = arms'.map (mapArm seam.right)) ?_ ?_ rfl) ?_
  · exact fun _ _ _ _ run finish => laterArm_shorter run finish
  · intro arms arms' same
    refine .bind (tracks_accept rfl).weaken ?_
    rintro found _ rfl
    cases found with
    | true =>
        refine .bind (tracks_arm nested _).weaken fun arm arm' added => .pure (.some ?_)
        rw [List.map_cons, List.map_cons, added, same]
    | false => exact .pure .none
  · intro arms arms' same
    refine .pure ?_
    rw [List.map_reverse, List.map_reverse, same]

theorem tracks_lastArm :
    seam.Tracks (fun _ => True) (fun arms arms' => arms.mapSpan seam.left = arms'.mapSpan seam.right)
      (lastArm below) (lastArm below') := by
  refine .bind (tracks_accept rfl).weaken ?_
  rintro found _ rfl
  cases found with
  | true =>
      refine .expect _ (by decide) fun _ _ _ _ => ?_
      refine .bind (tracks_block nested rfl).weaken fun body body' same => .pure ?_
      rw [Arms.mapSpan, Arms.mapSpan, same]
  | false => exact .pure rfl

theorem tracks_ifStatement :
    seam.Tracks seam.Halts seam.SameStmt (ifStatement below) (ifStatement below') := by
  refine .expect _ (by decide) fun start start' _ alike => ?_
  refine .bind_refuses (tracks_arm nested _) fun first first' same_first => ?_
  refine .bind_refuses (tracks_laterArms nested) fun later later' same_later => ?_
  refine .bind_refuses (tracks_lastArm nested) fun last last' same_last => ?_
  refine .expect _ (by decide) fun close close' _ close_alike => tracks_skipPoint_return ?_
  have spans := seam.joins alike.span close_alike.span
  simp only [SameStmt, Stmt.mapSpan, Stmt.choose.injEq]
  rw [Arms.mapSpan_foldr, Arms.mapSpan_foldr, List.map_cons, List.map_cons, same_first, same_later,
    same_last]
  exact ⟨rfl, spans⟩

theorem tracks_whileStatement :
    seam.Tracks seam.Halts seam.SameStmt (whileStatement below) (whileStatement below') := by
  refine .expect _ (by decide) fun start start' _ alike => ?_
  refine .bind_refuses nested.expression fun condition condition' same => ?_
  refine .expect _ (by decide) fun _ _ _ _ => ?_
  refine .bind_refuses (tracks_block nested rfl) fun body body' same_body => ?_
  refine .expect _ (by decide) fun close close' _ close_alike => tracks_skipPoint_return ?_
  have spans := seam.joins alike.span close_alike.span
  simp only [SameStmt, Stmt.mapSpan, Stmt.whileLoop.injEq]
  exact ⟨same, same_body, spans⟩

theorem tracks_rangeBounds {start start' : Span} (starts : seam.SameSpan start start') :
    seam.Tracks (fun _ => seam.Open) (fun bounds bounds' =>
      seam.SameExpr bounds.1 bounds'.1 ∧ seam.SameExpr bounds.2.1 bounds'.2.1 ∧
        bounds.2.2.map (Expr.mapSpan seam.left) = bounds'.2.2.map (Expr.mapSpan seam.right))
      (rangeBounds below start) (rangeBounds below' start') := by
  refine .accept rfl ?_ ?_
  · refine .bind nested.expression fun first first' same_first => ?_
    refine .expect _ (by decide) fun _ _ _ _ => ?_
    refine .bind nested.expression fun last last' same_last => .accept rfl ?_ (.pure ?_)
    · refine .bind nested.expression fun step step' same_step => .pure ⟨same_first, same_last, ?_⟩
      rw [Option.map_some, Option.map_some, same_step]
    · exact ⟨same_first, same_last, rfl⟩
  · refine .bind nested.expression fun last last' same_last => .pure ⟨?_, same_last, rfl⟩
    simp only [SameExpr, Expr.mapSpan, Expr.literal.injEq, true_and]
    exact starts

theorem tracks_forClause (name : String) :
    seam.Tracks (fun _ => True) (fun clause clause' => ∀ span span', seam.SameSpan span span' →
      seam.SameStmt (clause span) (clause' span')) (forClause below name) (forClause below' name) := by
  intro cursor cursor' follows
  refine (tracks_accept rfl cursor cursor' follows).bind ?_ (fun _ _ _ _ _ _ _ => trivial) ?_
  · intro ranged
    split
    · refine .bind inferInstance fun mark => .bind inferInstance fun bounds => ?_
      obtain ⟨first, last, step⟩ := bounds
      infer_instance
    · infer_instance
  rintro ranged _ final final' _ rfl next_follows
  cases ranged with
  | true =>
      refine Tracks.expect _ (by decide) ?_ _ _ next_follows
      intro mark mark' _ alike cursor cursor' follows
      refine (tracks_rangeBounds nested alike.span _ _ follows).bind ?_
        (fun _ _ _ _ _ _ _ => trivial) ?_
      · rintro ⟨first, last, step⟩
        infer_instance
      rintro ⟨first, last, step⟩ ⟨first', last', step'⟩ _ _ _ same follows
      refine Tracks.expect _ (by decide) (fun _ _ _ _ => .expect _ (by decide) ?_) _ _ follows
      intro _ _ _ _
      refine .bind (tracks_block nested rfl).weaken fun body body' same_body => .pure ?_
      intro span span' spans
      simp only [SameStmt, Stmt.mapSpan, Stmt.forRange.injEq, true_and]
      exact ⟨same.1, same.2.1, same.2.2, same_body, spans⟩
  | false =>
      refine Tracks.bind_refuses nested.expression ?_ _ _ next_follows
      intro values values' same
      refine .expect _ (by decide) fun _ _ _ _ => ?_
      refine .bind (tracks_block nested rfl).weaken fun body body' same_body => .pure ?_
      intro span span' spans
      simp only [SameStmt, Stmt.mapSpan, Stmt.forIn.injEq, true_and]
      exact ⟨same, same_body, spans⟩

theorem tracks_forStatement :
    seam.Tracks seam.Halts seam.SameStmt (forStatement below) (forStatement below') := by
  refine .expect _ (by decide) fun start start' _ alike => ?_
  refine .expect _ (by decide) fun name name' _ name_alike => ?_
  refine .expect _ (by decide) fun _ _ _ _ => ?_
  rw [← name_alike.text]
  refine .bind_refuses (tracks_forClause nested _) fun clause clause' same => ?_
  refine .expect _ (by decide) fun close close' _ close_alike => tracks_skipPoint_return ?_
  exact same _ _ (seam.joins alike.span close_alike.span)

/-! ## Results of functions -/

variable (seam) in
/-- Two results that differ in their places at most. -/
def SameValue (value value' : Option Expr) : Prop :=
  value.map (Expr.mapSpan seam.left) = value'.map (Expr.mapSpan seam.right)

omit nested in
/-- What is given does not end with a point. -/
theorem givenValue_not_afterPoint {cursor next : Cursor} {value : Option Expr}
    (run : (givenValue below).run cursor = .ok (value, next))
    (finish : cursor.finish.kind = .finish) (before : ¬ cursor.AfterPoint) : ¬ next.AfterPoint := by
  have looked : peekKind.run cursor = .ok (cursor.peek.kind, cursor) := rfl
  have looked_next : peekNextKind.run cursor = .ok (cursor.peekNext.kind, cursor) := rfl
  rw [givenValue, run_bind_of_ok looked, run_bind_of_ok looked_next] at run
  split at run
  · rename_i empty
    rw [Bool.and_eq_true, decide_eq_true_eq, decide_eq_true_eq] at empty
    obtain ⟨rest, tokens⟩ := Cursor.exists_cons_cons_of_peekNext finish (by rw [empty.2]; decide)
    rw [run_bind_of_ok (advance_run_cons tokens), run_bind_of_ok (advance_run_cons rfl)] at run
    cases run
    exact not_afterPoint_of_previous rfl (by rw [empty.2]; decide) (by rw [empty.2]; decide)
  split at run
  · cases run
    exact before
  · obtain ⟨_, _, expression_run, last⟩ := run_bind_eq_ok run
    cases last
    exact (Operand.closes expression_run finish).not_afterPoint

/-- What is given if it is not empty parentheses. -/
theorem Locked.givenValue_rest {cursor cursor' : Cursor} (locked : seam.Locked cursor cursor') :
    seam.Agree seam.Halts seam.SameValue
      ((if cursor.peek.kind = .dot || endsStatement cursor.peek.kind then pure none
        else do return some (← below.expression) : Parser (Option Expr)).run cursor)
      ((if cursor.peek.kind = .dot || endsStatement cursor.peek.kind then pure none
        else do return some (← below'.expression) : Parser (Option Expr)).run cursor') := by
  split
  · exact .same rfl locked.toFollows
  · refine Tracks.bind_operand nested.expression (fun _ _ => halts_of_open) ?_ _ _ locked.toFollows
    intro value value' same cursor final final' _ follows
    refine .same ?_ follows
    rw [SameValue, Option.map_some, Option.map_some, same]

omit nested in
/-- An opening parenthesis that comes last is not given, whatever comes after the seam. -/
theorem Follows.givenValue_alone {cursor cursor' : Cursor} (follows : seam.Follows cursor cursor')
    {token : Token} (tokens : cursor.rest = [token]) (kind : token.kind = .parenOpen)
    (closes : seam.headKind = .parenClose) (outcome : Except Diagnostic (Option Expr × Cursor)) :
    seam.Agree seam.Halts seam.SameValue
      ((do return some (← below.expression) : Parser (Option Expr)).run cursor) outcome := by
  have settling : Settles (do return some (← below.expression) : Parser (Option Expr)) :=
    .bind inferInstance inferInstance
  have finish : cursor.finish.kind = .finish := by rw [follows.finish, seam.finish_kind]
  have further : seam.more ≠ [] := by
    intro nothing
    rw [headKind, nothing, List.headD_nil, seam.finish_kind'] at closes
    cases closes
  rcases settling.settles tokens (.inr kind) finish with ⟨value, run⟩ | ⟨diagnostic, run, cause⟩
  · rw [run]
    refine .stopped further rfl follows.finish ⟨by rw [closes]; decide, .inl ?_⟩
    exact not_afterPoint_of_previous rfl (by rw [kind]; decide) (by rw [kind]; decide)
  · rw [run]
    exact .refused further (follows.finish ▸ cause)

theorem Locked.givenValue {cursor cursor' : Cursor} (locked : seam.Locked cursor cursor') :
    seam.Agree seam.Halts seam.SameValue ((givenValue below).run cursor)
      ((givenValue below').run cursor') := by
  have follows := locked.toFollows
  have finish : cursor.finish.kind = .finish := by rw [follows.finish, seam.finish_kind]
  have next : peekNextKind.run cursor = .ok (cursor.peekNext.kind, cursor) := rfl
  have next' : peekNextKind.run cursor' = .ok (cursor'.peekNext.kind, cursor') := rfl
  apply locked.peekKind_bind
  rw [run_bind_of_ok next, run_bind_of_ok next']
  by_cases opens : cursor.peek.kind = .parenOpen
  · obtain ⟨rest, tokens⟩ := Cursor.exists_cons_of_peek finish (by rw [opens]; decide)
    obtain ⟨token', rest', tokens', alike, next_follows⟩ := follows.exists_cons tokens
    cases rest with
    | nil =>
        have alone : ¬ (decide (cursor.peek.kind = .parenOpen) &&
            decide (cursor.peekNext.kind = .parenClose)) = true := by
          rw [Cursor.peekNext, tokens, List.tail_cons, List.headD_nil, finish]
          simp
        have rest_eq : rest' = seam.more := next_follows.rest_eq_more rfl
        have next_kind : cursor'.peekNext.kind = seam.headKind := by
          rw [Cursor.peekNext, tokens', List.tail_cons, rest_eq, follows.finish', headKind]
        rw [if_neg alone]
        by_cases closes : seam.headKind = .parenClose
        · have plain : ¬ (decide (cursor.peek.kind = .dot) || endsStatement cursor.peek.kind) = true := by
            rw [opens]
            decide
          rw [if_neg plain]
          exact follows.givenValue_alone tokens opens closes _
        · have apart : ¬ (decide (cursor.peek.kind = .parenOpen) &&
              decide (cursor'.peekNext.kind = .parenClose)) = true := by
            rw [next_kind]
            simp [closes]
          rw [if_neg apart]
          exact locked.givenValue_rest nested
    | cons close rest =>
        obtain ⟨close', rest'', more', close_alike, last_follows⟩ := next_follows.exists_cons rfl
        obtain rfl : rest' = close' :: rest'' := more'
        have next_kind : cursor.peekNext.kind = close.kind := by
          rw [Cursor.peekNext, tokens]
          rfl
        have next_kind' : cursor'.peekNext.kind = close.kind := by
          rw [Cursor.peekNext, tokens', close_alike.kind]
          rfl
        rw [next_kind, next_kind']
        split
        · rw [run_bind_of_ok (advance_run_cons tokens), run_bind_of_ok (advance_run_cons tokens'),
            run_bind_of_ok (advance_run_cons rfl), run_bind_of_ok (advance_run_cons rfl)]
          exact .same rfl last_follows
        · exact locked.givenValue_rest nested
  · have plain (kind : Token.Kind) : ¬ (decide (cursor.peek.kind = .parenOpen) &&
        decide (kind = .parenClose)) = true := by
      simp [opens]
    rw [if_neg (plain _), if_neg (plain _)]
    exact locked.givenValue_rest nested

theorem Follows.givenValue {cursor cursor' : Cursor} (follows : seam.Follows cursor cursor')
    (before : ¬ cursor.AfterPoint) :
    seam.Agree seam.Halts seam.SameValue ((givenValue below).run cursor)
      ((givenValue below').run cursor') := by
  by_cases at_end : cursor.rest = []
  · obtain ⟨looked, looked'⟩ := follows.peekKind_run at_end
    by_cases ends : seam.headKind = .semicolon ∨ seam.headKind = .finish
    · have next : peekNextKind.run cursor = .ok (cursor.peekNext.kind, cursor) := rfl
      have next' : peekNextKind.run cursor' = .ok (cursor'.peekNext.kind, cursor') := rfl
      rw [Parser.givenValue, Parser.givenValue, run_bind_of_ok looked, run_bind_of_ok looked',
        run_bind_of_ok next, run_bind_of_ok next']
      rcases ends with ends | ends <;> rw [ends] <;> exact .same rfl follows
    · rw [not_or] at ends
      exact follows.agree_of_rests _ at_end (more_ne_nil_of_headKind ends.2) ⟨ends.1, .inl before⟩ _
  · exact Locked.givenValue nested ⟨follows, at_end⟩

theorem Follows.giveStatement {cursor cursor' : Cursor} (follows : seam.Follows cursor cursor')
    {word : Token} {rest : List Token} (tokens : cursor.rest = word :: rest)
    (kind : word.kind = .keyword .give) :
    seam.Agree seam.Halts seam.SameStmt ((giveStatement below).run cursor)
      ((giveStatement below').run cursor') := by
  obtain ⟨word', rest', tokens', alike, next_follows⟩ := follows.exists_cons tokens
  have kind' : word'.kind = .keyword .give := by rw [← alike.kind, kind]
  have finish : cursor.finish.kind = .finish := by rw [follows.finish, seam.finish_kind]
  have before : ¬ ({ cursor with previous := some word, rest } : Cursor).AfterPoint :=
    not_afterPoint_of_previous rfl (by rw [kind]; decide) (by rw [kind]; decide)
  rw [Parser.giveStatement, Parser.giveStatement, expectKeyword,
    run_bind_of_ok (expect_run_of_eq (.keyword .give) tokens kind),
    run_bind_of_ok (expect_run_of_eq (.keyword .give) tokens' kind')]
  refine (next_follows.givenValue nested before).bind inferInstance (fun _ _ _ _ _ halted _ => halted) ?_
  intro value value' final final' run same follows
  obtain ⟨_, passes⟩ := Moves.passes run
  have taken : final.previous ≠ none := passes.previous_ne_none (Option.some_ne_none word)
  refine follows.spanFrom_bind taken alike.span fun span span' spans => ?_
  refine follows.terminator_return (givenValue_not_afterPoint run finish before) ?_
  simp only [SameStmt, Stmt.mapSpan, Stmt.give.injEq]
  exact ⟨same, spans⟩

/-! ## The grammar -/

theorem Follows.statement {cursor cursor' : Cursor} (follows : seam.Follows cursor cursor')
    (inside : cursor.rest ≠ []) :
    seam.Agree seam.Drops seam.SameStmt ((statement below).run cursor)
      ((statement below').run cursor') := by
  have locked : seam.Locked cursor cursor' := ⟨follows, inside⟩
  have drops {outcome outcome' : Except Diagnostic (Stmt × Cursor)}
      (agree : seam.Agree seam.Halts seam.SameStmt outcome outcome') :
      seam.Agree seam.Drops seam.SameStmt outcome outcome' :=
    agree.mono (fun _ _ => id) fun _ _ _ => And.right
  obtain ⟨token, rest, tokens⟩ := List.exists_cons_of_ne_nil inside
  have head : cursor.peek = token := Cursor.peek_of_rest_eq_cons tokens
  apply locked.peekKind_bind
  split
  · exact drops (tracks_varStatement nested _ _ follows)
  · exact drops (tracks_letStatement nested _ _ follows)
  · exact tracks_functionStatement nested _ _ follows
  · exact drops (tracks_ifStatement nested _ _ follows)
  · exact drops (tracks_whileStatement nested _ _ follows)
  · exact drops (tracks_forStatement nested _ _ follows)
  · rename_i kind
    exact drops (follows.giveStatement nested tokens (head ▸ kind))
  · rename_i kind
    exact drops (follows.passStatement tokens (head ▸ kind))
  · exact drops (follows.stepStatement tokens _)
  · exact drops (follows.stepStatement tokens _)
  · rename_i kind
    exact drops (follows.nameStatement nested tokens (head ▸ kind))
  · exact drops (tracks_expressionStatement nested _ _ follows)

end Statements

theorem tracks_tooDeep {related : α → β → Prop} {parser' : Parser β} (further : seam.more ≠ []) :
    seam.Tracks halt related tooDeep parser' :=
  fun _ _ _ => .refused further (.inr rfl)

/-- The grammar agrees with itself, and also with a grammar that has more levels left if there are
further tokens. -/
theorem tracks_grammar {levels levels' : Nat} (fewer : levels ≤ levels')
    (same : seam.more = [] → levels = levels') :
    seam.TracksBelow (grammar levels) (grammar levels') := by
  induction levels generalizing levels' with
  | zero =>
      by_cases nothing : seam.more = []
      · obtain rfl := same nothing
        exact ⟨⟨fun _ _ _ => .failed, fun _ _ _ => .failed, fun _ _ _ => .failed⟩,
          fun _ _ _ _ => .failed⟩
      · exact ⟨⟨tracks_tooDeep nothing, tracks_tooDeep nothing, tracks_tooDeep nothing⟩,
          fun _ _ follows _ => tracks_tooDeep nothing _ _ follows⟩
  | succ levels ih =>
      obtain ⟨levels', rfl⟩ : ∃ below, levels' = below + 1 := ⟨levels' - 1, by omega⟩
      have below : seam.TracksBelow (grammar levels) (grammar levels') := by
        refine ih (by omega) fun nothing => ?_
        have := same nothing
        omega
      exact ⟨⟨tracks_expression below.toTracksNested, tracks_power below.toTracksNested,
        tracks_unary below.toTracksNested⟩, fun _ _ follows inside => follows.statement below inside⟩

end Seam
end DotScript
