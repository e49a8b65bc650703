import DotScript.Proofs.Parser.Seam.Statements

/-!
# Programs along a seam

A program is read one statement after the other until no token is left.  Read on its own and with
further tokens behind it, a token list gives the same statements up to the seam, if the last one
ends with a point or a semicolon and no point comes after it.
-/

namespace DotScript
namespace Parser

/-- The statements between two cursors, each read where a token is left. -/
inductive ReadsAll (rules : Grammar) : Cursor → List Stmt → Cursor → Prop
  | done (cursor : Cursor) : ReadsAll rules cursor [] cursor
  | next {cursor middle final : Cursor} {stmt : Stmt} {stmts : List Stmt} (inside : cursor.rest ≠ [])
      (run : rules.statement.run cursor = .ok (stmt, middle))
      (later : ReadsAll rules middle stmts final) : ReadsAll rules cursor (stmt :: stmts) final

theorem ReadsAll.append {rules : Grammar} {cursor middle final : Cursor} {stmts more : List Stmt}
    (first : ReadsAll rules cursor stmts middle) (second : ReadsAll rules middle more final) :
    ReadsAll rules cursor (stmts ++ more) final := by
  induction first with
  | done => exact second
  | next inside run _ ih => exact .next inside run (ih second)

theorem ReadsAll.passes {rules : Grammar} [rules.Orderly] {cursor final : Cursor}
    {stmts : List Stmt} (reads : ReadsAll rules cursor stmts final) :
    ∃ taken, cursor.Passes taken final := by
  induction reads with
  | done cursor => exact ⟨[], .refl cursor⟩
  | next _ run _ ih =>
      obtain ⟨_, first⟩ := Moves.passes run
      obtain ⟨_, later⟩ := ih
      exact ⟨_, first.trans later⟩

/-- One turn of the loop over the statements of a program, which are collected in reverse. -/
def addStatement (rules : Grammar) (stmts : List Stmt) : Parser (Option (List Stmt)) := do
  if (← get).atEnd then return none else return some ((← rules.statement) :: stmts)

theorem statements_eq (rules : Grammar) :
    statements rules = do return (← whileSome (addStatement rules) []).reverse :=
  rfl

section Loop

variable {rules : Grammar} {cursor : Cursor}

theorem addStatement_run_nil (at_end : cursor.rest = []) (stmts : List Stmt) :
    (addStatement rules stmts).run cursor = .ok (none, cursor) := by
  have got : (get : Parser Cursor).run cursor = .ok (cursor, cursor) := rfl
  have ended : cursor.atEnd = true := by rw [Cursor.atEnd, at_end]; rfl
  rw [addStatement, run_bind_of_ok got, if_pos ended]
  rfl

theorem addStatement_run_cons (inside : cursor.rest ≠ []) (stmts : List Stmt) :
    (addStatement rules stmts).run cursor =
      (do return some ((← rules.statement) :: stmts) : Parser (Option (List Stmt))).run cursor := by
  have got : (get : Parser Cursor).run cursor = .ok (cursor, cursor) := rfl
  have goes_on : ¬ cursor.atEnd = true := by
    rw [Cursor.atEnd, List.isEmpty_iff]
    exact inside
  rw [addStatement, run_bind_of_ok got, if_neg goes_on]

instance [rules.Orderly] (stmts : List Stmt) : Rests (addStatement rules stmts) := by
  unfold addStatement
  infer_instance

theorem addStatement_shorter [rules.Orderly] {stmts value : List Stmt} {next : Cursor}
    (run : (addStatement rules stmts).run cursor = .ok (some value, next))
    (finish : cursor.finish.kind = .finish) : next.rest.length < cursor.rest.length := by
  by_cases inside : cursor.rest = []
  · rw [addStatement_run_nil inside] at run
    cases run
  · rw [addStatement_run_cons inside] at run
    obtain ⟨stmt, _, statement_run, last⟩ := run_bind_eq_ok run
    cases last
    exact Takes.takes statement_run finish inside

variable [rules.Orderly]

/-- The statements of a program come after those that were collected before. -/
theorem ReadsAll.repeatAlong_run {final : Cursor} {stmts : List Stmt}
    (reads : ReadsAll rules cursor stmts final) (at_end : final.rest = [])
    (finish : cursor.finish.kind = .finish) {tokens : List Token}
    (enough : cursor.rest.length ≤ tokens.length) (earlier : List Stmt) :
    (repeatAlong (addStatement rules) tokens earlier).run cursor =
      .ok (stmts.reverse ++ earlier, final) := by
  induction reads generalizing tokens earlier with
  | done cursor =>
      cases tokens with
      | nil => rw [repeatAlong, turn, run_bind_of_ok (addStatement_run_nil at_end earlier)]; rfl
      | cons => rw [repeatAlong, turn, run_bind_of_ok (addStatement_run_nil at_end earlier)]; rfl
  | @next cursor middle final stmt stmts inside run later ih =>
      obtain ⟨_, passes⟩ := Moves.passes run
      have shorter := Takes.takes run finish inside
      have added : (addStatement rules earlier).run cursor = .ok (some (stmt :: earlier), middle) := by
        rw [addStatement_run_cons inside, run_bind_of_ok run]
        rfl
      cases tokens with
      | nil =>
          rw [List.length_nil] at enough
          omega
      | cons token tokens =>
          rw [List.length_cons] at enough
          rw [repeatAlong, turn, run_bind_of_ok added]
          rw [List.reverse_cons, List.append_assoc]
          exact ih at_end (passes.finish ▸ finish) (by omega) (stmt :: earlier)

theorem exists_readsAll_of_repeatAlong_run {final : Cursor} {tokens : List Token}
    {earlier result : List Stmt}
    (run : (repeatAlong (addStatement rules) tokens earlier).run cursor = .ok (result, final))
    (finish : cursor.finish.kind = .finish) (enough : cursor.rest.length ≤ tokens.length) :
    ∃ stmts, ReadsAll rules cursor stmts final ∧ final.rest = [] ∧
      result = stmts.reverse ++ earlier := by
  induction tokens generalizing cursor earlier with
  | nil =>
      have at_end : cursor.rest = [] := List.length_eq_zero_iff.1 (Nat.le_zero.1 enough)
      rw [repeatAlong, turn, run_bind_of_ok (addStatement_run_nil at_end earlier)] at run
      cases run
      exact ⟨[], .done _, at_end, rfl⟩
  | cons token tokens ih =>
      rw [repeatAlong, turn] at run
      by_cases inside : cursor.rest = []
      · rw [run_bind_of_ok (addStatement_run_nil inside earlier)] at run
        cases run
        exact ⟨[], .done _, inside, rfl⟩
      · obtain ⟨answer, middle, added, next_run⟩ := run_bind_eq_ok run
        rw [addStatement_run_cons inside] at added
        obtain ⟨stmt, _, statement_run, last⟩ := run_bind_eq_ok added
        cases last
        obtain ⟨_, passes⟩ := Moves.passes statement_run
        have shorter := Takes.takes statement_run finish inside
        rw [List.length_cons] at enough
        obtain ⟨stmts, reads, at_end, rfl⟩ := ih next_run (passes.finish ▸ finish) (by omega)
        refine ⟨stmt :: stmts, .next inside statement_run reads, at_end, ?_⟩
        rw [List.reverse_cons, List.append_assoc]
        rfl

/-- A program is what is read up to the end. -/
theorem statements_run_iff (finish : cursor.finish.kind = .finish) {stmts : List Stmt}
    {final : Cursor} :
    (statements rules).run cursor = .ok (stmts, final) ↔
      ReadsAll rules cursor stmts final ∧ final.rest = [] := by
  have got : (get : Parser Cursor).run cursor = .ok (cursor, cursor) := rfl
  rw [statements_eq]
  constructor
  · intro run
    obtain ⟨result, _, loop_run, last⟩ := run_bind_eq_ok run
    cases last
    rw [whileSome, run_bind_of_ok got] at loop_run
    obtain ⟨stmts, reads, at_end, rfl⟩ :=
      exists_readsAll_of_repeatAlong_run loop_run finish (Nat.le_refl _)
    rw [List.append_nil, List.reverse_reverse]
    exact ⟨reads, at_end⟩
  · rintro ⟨reads, at_end⟩
    have loop_run := reads.repeatAlong_run at_end finish (Nat.le_refl _) []
    rw [List.append_nil] at loop_run
    have whole : (whileSome (addStatement rules) []).run cursor = .ok (stmts.reverse, final) := by
      rw [whileSome, run_bind_of_ok got, loop_run]
    rw [run_bind_of_ok whole, List.reverse_reverse]
    rfl

end Loop
end Parser

/-! ## Along the seam -/

/-- A cursor starts before the first end of a token list, whatever stands behind it. -/
theorem Cursor.ofTokens_append_cons {inner : List Token} {finish : Token}
    (inside : ∀ token ∈ inner, token.kind ≠ .finish) (ends : finish.kind = .finish)
    (beyond : List Token) :
    ofTokens (inner ++ finish :: beyond) = { previous := none, rest := inner, finish } := by
  have taken : (inner ++ finish :: beyond).takeWhile (·.kind ≠ .finish) = inner := by
    rw [List.takeWhile_append_of_pos (by simpa using inside), List.takeWhile_cons_of_neg (by simp [ends]),
      List.append_nil]
  have found : (inner ++ finish :: beyond).find? (·.kind = .finish) = some finish := by
    rw [List.find?_append, List.find?_eq_none.2 (by simpa using inside)]
    simp [ends]
  rw [ofTokens, finishOf, taken, found]

theorem Cursor.ofTokens_append {inner : List Token} {finish : Token}
    (inside : ∀ token ∈ inner, token.kind ≠ .finish) (ends : finish.kind = .finish) :
    ofTokens (inner ++ [finish]) = { previous := none, rest := inner, finish } :=
  ofTokens_append_cons inside ends []

/-- The last token of the list, or else the one before the cursor. -/
def Cursor.last (cursor : Cursor) : Option Token :=
  cursor.rest.getLast?.or cursor.previous

theorem Cursor.Passes.last {before after : Cursor} {taken : List Token}
    (passes : before.Passes taken after) : after.last = before.last := by
  rw [Cursor.last, Cursor.last, passes.rest, passes.previous, List.getLast?_append,
    Option.or_assoc]

theorem startsMethodCall_of_ne {token : Token} {rest : List Token} (other : token.kind ≠ .dot) :
    startsMethodCall (token :: rest) = false := by
  match rest with
  | [] => rfl
  | [name] => rfl
  | name :: mark :: rest => simp [startsMethodCall, other]

/-- A point that touches no name calls no method. -/
theorem startsMethodCall_of_apart {point : Token} {more : List Token}
    (apart : ∀ token ∈ more, point.span.stop < token.span.start) :
    startsMethodCall (point :: more) = false := by
  apply eq_false_of_ne_true
  intro calls
  match more, calls with
  | name :: rest, calls =>
      have touches := (name_of_startsMethodCall calls).2.2
      have before := apart name List.mem_cons_self
      omega

namespace Seam

open DotScript.Parser

variable {seam : Seam} {levels levels' : Nat}

/-- A token list is alike up to a seam that separates nothing. -/
theorem tracked_append (same : ∀ token, seam.Alike token token) {tokens : List Token}
    (points : ∀ word, [word] <:+ tokens → word.kind = .not → startsPoints seam.more = false)
    (last : ∀ point, [point] <:+ tokens → startsMethodCall (point :: seam.more) = false)
    (last_two : ∀ point name, [point, name] <:+ tokens →
      startsMethodCall (point :: name :: seam.more) = false) :
    seam.Tracked tokens (tokens ++ seam.more) := by
  induction tokens with
  | nil => exact .stop
  | cons token rest ih =>
      have later : seam.Tracked rest (rest ++ seam.more) := by
        have suffix := List.suffix_cons token rest
        apply ih
        · exact fun word ends => points word (ends.trans suffix)
        · exact fun point ends => last point (ends.trans suffix)
        · exact fun point name ends => last_two point name (ends.trans suffix)
      refine .step (same token) ?_ ?_ later
      · match rest, last, last_two with
        | [], last, _ => exact (last token (List.suffix_refl _)).symm
        | [name], _, last_two => exact (last_two token name (List.suffix_refl _)).symm
        | name :: mark :: rest, _, _ => rfl
      · intro negates
        match rest, points with
        | [], points => exact (points token (List.suffix_refl _) negates).symm
        | next :: rest, _ => rfl

/-- Programs agree up to the seam. -/
theorem tracks_statements (fewer : levels ≤ levels') (same : seam.more = [] → levels = levels') :
    seam.Tracks (fun _ => True) seam.SameStmts (statements (grammar levels))
      (statements (grammar levels')) := by
  have rules := seam.tracks_grammar fewer same
  have nothing : seam.SameStmts [] [] := rfl
  rw [statements_eq, statements_eq]
  refine .bind (.whileSome seam.SameStmts ?_ ?_ nothing) fun stmts stmts' same => .pure ?_
  · intro stmts value cursor next run finish
    exact addStatement_shorter run finish
  · intro stmts stmts' same cursor cursor' follows
    by_cases at_end : cursor.rest = []
    · rw [addStatement_run_nil at_end]
      by_cases nothing : seam.more = []
      · rw [addStatement_run_nil ((follows.rest_eq_more at_end).trans nothing)]
        exact .same .none follows
      · exact .stopped nothing at_end follows.finish trivial
    · rw [addStatement_run_cons at_end, addStatement_run_cons (follows.rest_ne_nil at_end)]
      exact (follows.add_statement rules at_end same).mono (fun _ _ => id) fun _ _ _ _ => trivial
  · rw [SameStmts, Stmt.mapSpans_eq_map, Stmt.mapSpans_eq_map] at same ⊢
    rw [List.map_reverse, List.map_reverse, same]

theorem Tracked.kind_ne_finish {tokens tokens' : List Token} (tracked : seam.Tracked tokens tokens')
    (inside : ∀ token ∈ tokens, token.kind ≠ .finish)
    (further : ∀ token ∈ seam.more, token.kind ≠ .finish) :
    ∀ token ∈ tokens', token.kind ≠ .finish := by
  induction tracked with
  | stop => exact further
  | step alike _ _ _ ih =>
      obtain ⟨head, tail⟩ := List.forall_mem_cons.1 inside
      exact List.forall_mem_cons.2 ⟨alike.kind ▸ head, ih tail⟩

/-- A token list that is a program with further tokens behind it. -/
theorem Tracked.ofTokens_outcome {tokens tokens' : List Token} (tracked : seam.Tracked tokens tokens')
    (inside : ∀ token ∈ tokens, token.kind ≠ .finish)
    (further : ∀ token ∈ seam.more, token.kind ≠ .finish)
    (succeeds : (Program.ofTokens (tokens' ++ [seam.finish'])).isOk = true) :
    (Program.ofTokens (tokens ++ [seam.finish])).isOk = true ∨
      ∃ diagnostic, Program.ofTokens (tokens ++ [seam.finish]) = .error diagnostic ∧
        (diagnostic.span = seam.finish.span ∨ diagnostic.fault = .malformed .tooDeep) := by
  rw [Program.ofTokens, Cursor.ofTokens_append inside seam.finish_kind]
  rw [Program.ofTokens, Cursor.ofTokens_append (tracked.kind_ne_finish inside further)
    seam.finish_kind'] at succeeds
  have follows : seam.Follows ⟨none, tokens, seam.finish⟩ ⟨none, tokens', seam.finish'⟩ :=
    ⟨tracked, .start nofun, rfl, rfl⟩
  have agree : seam.Agree (fun _ => True) seam.SameStmts
      ((statements (grammar maxNesting)).run ⟨none, tokens, seam.finish⟩)
      ((statements (grammar maxNesting)).run ⟨none, tokens', seam.finish'⟩) :=
    tracks_statements (Nat.le_refl _) (fun _ => rfl) _ _ follows
  generalize (statements (grammar maxNesting)).run ⟨none, tokens, seam.finish⟩ = outcome at agree
  generalize (statements (grammar maxNesting)).run ⟨none, tokens', seam.finish'⟩ = outcome'
    at agree succeeds
  cases agree with
  | same => exact .inl rfl
  | stopped => exact .inl rfl
  | refused _ cause => exact .inr ⟨_, rfl, cause⟩
  | failed => cases succeeds

/-- A statement is the same with further tokens behind it if the last token before them is a point
or a semicolon and they do not start with a point. -/
theorem Follows.statement_run {cursor cursor' next : Cursor} {stmt : Stmt}
    (follows : seam.Follows cursor cursor') (inside : cursor.rest ≠ [])
    (ended : seam.more ≠ [] → ∀ token ∈ cursor.last, token.kind = .dot ∨ token.kind = .semicolon)
    (no_point : seam.headKind ≠ .dot)
    (run : (grammar levels).statement.run cursor = .ok (stmt, next)) :
    ∃ stmt' next', (grammar levels).statement.run cursor' = .ok (stmt', next') ∧
      seam.SameStmt stmt stmt' ∧ seam.Follows next next' := by
  have rules : seam.TracksBelow (grammar levels) (grammar levels) :=
    seam.tracks_grammar (Nat.le_refl _) fun _ => rfl
  have agree := rules.statement _ _ follows inside
  rw [run] at agree
  generalize outcome : (grammar levels).statement.run cursor' = result at agree
  cases agree with
  | same alike next_follows => exact ⟨_, _, rfl, alike, next_follows⟩
  | stopped further at_end _ halted =>
      -- the token before the seam was taken, so the statement ends with it
      exfalso
      obtain ⟨taken, passes⟩ := Moves.passes run
      have found : next.previous = cursor.last := by
        rw [← passes.last, Cursor.last, at_end]
        rfl
      have last : cursor.last = some (cursor.rest.getLast inside) := by
        rw [Cursor.last, List.getLast?_eq_some_getLast inside]
        rfl
      rcases halted with before | point
      · exact before ⟨_, found.trans last, ended further _ last⟩
      · exact no_point point

/-- All statements are the same. -/
theorem Follows.readsAll {cursor cursor' final : Cursor} {stmts : List Stmt}
    (follows : seam.Follows cursor cursor')
    (ended : seam.more ≠ [] → ∀ token ∈ cursor.last, token.kind = .dot ∨ token.kind = .semicolon)
    (no_point : seam.headKind ≠ .dot) (reads : ReadsAll (grammar levels) cursor stmts final) :
    ∃ stmts' final', ReadsAll (grammar levels) cursor' stmts' final' ∧
      seam.SameStmts stmts stmts' ∧ seam.Follows final final' := by
  induction reads generalizing cursor' with
  | done cursor => exact ⟨[], cursor', .done _, rfl, follows⟩
  | next inside run _ ih =>
      obtain ⟨stmt', middle', run', same, next_follows⟩ :=
        follows.statement_run inside ended no_point run
      obtain ⟨_, passes⟩ := Moves.passes run
      have next_ended := ended
      rw [← passes.last] at next_ended
      obtain ⟨stmts', final', reads', later, last_follows⟩ := ih next_follows next_ended
      have inside' := follows.rest_ne_nil inside
      refine ⟨stmt' :: stmts', final', .next inside' run' reads', ?_, last_follows⟩
      rw [SameStmts, Stmt.mapSpans, Stmt.mapSpans, same, later]

end Seam
end DotScript
