import DotScript.Proofs.Parser.Completion.Loops

/-!
# Going on with a chain of operators

An operator that was read before the edge stays when the tokens go on.  Behind it an operand is
missing, and zero can be put there.  At the edge no operator is needed, so a chain may end there.
-/

namespace DotScript
namespace Edge

open DotScript.Parser

variable {edge : Edge} {cursor : Cursor} {α β : Type}

theorem endsExpression_of_encloses {kind : Token.Kind} (encloses : kind.encloses = true) :
    kind.endsExpression = true := by
  unfold Token.Kind.encloses at encloses
  split at encloses <;> first | rfl | cases encloses

theorem eq_of_sameExpr {beyond : Beyond} {expr expr' : Expr}
    (same : (edge.seam beyond).SameExpr expr expr') : expr = expr' := by
  have mapped : expr.mapSpan id = expr'.mapSpan id := same
  rwa [Expr.mapSpan_id, Expr.mapSpan_id] at mapped

theorem Stable.of_tracks_expr {parser : Parser Expr} [Moves parser]
    (tracks : ∀ seam : Seam, seam.Tracks (fun _ => seam.Open) seam.SameExpr parser parser) :
    edge.Stable parser :=
  .of_tracks tracks fun _ _ _ => eq_of_sameExpr

/-! ## Answers -/

/-- An operator answers the same when the tokens go on. -/
structure Answers (operator : Parser (Option α)) (cursor : Cursor) (answer : Option α)
    (after : Cursor) : Prop where
  run : operator.run cursor = .ok (answer, after)
  run' : ∀ beyond, cursor.JoinsTo beyond.headKind →
    operator.run (cursor.onward beyond) = .ok (answer, after.onward beyond)
  last : after.last = cursor.last
  stays : answer = none → after = cursor
  taken : ∀ op ∈ answer, ∃ token, after.previous = some token ∧ token.kind ≠ .unterminatedString

/-- An operator has an answer that stays when the tokens go on. -/
def AnswersAt (operator : Parser (Option α)) (cursor : Cursor) : Prop :=
  ∃ answer after, Answers operator cursor answer after

variable (edge) in
/-- Before the edge an operator answers the same when the tokens go on, and at the edge there is
none. -/
structure Operates (operator : Parser (Option α)) : Prop where
  answers : ∀ cursor, edge.Holds cursor → cursor.rest ≠ [] → AnswersAt operator cursor
  supplies : edge.Supplies Token.Kind.encloses (· = none) [] operator

theorem Answers.none (operator : Parser (Option α)) (run : operator.run cursor = .ok (none, cursor))
    (run' : ∀ beyond, cursor.JoinsTo beyond.headKind →
      operator.run (cursor.onward beyond) = .ok (none, cursor.onward beyond)) :
    Answers operator cursor none cursor :=
  ⟨run, run', rfl, fun _ => rfl, nofun⟩

theorem Operates.none : edge.Operates (pure none : Parser (Option α)) where
  answers _ _ _ := ⟨_, _, .none _ rfl fun _ _ => rfl⟩
  supplies := .pure rfl

theorem Operates.accept {kind : Token.Kind} {op : α} {operator : Parser (Option α)}
    (written : kind ≠ .unterminatedString) (other : kind.encloses = false)
    (others : edge.Operates operator) :
    edge.Operates (accept kind >>= fun found => if found then pure (some op) else operator) where
  answers cursor holds inside := by
    obtain ⟨token, rest, tokens⟩ := List.exists_cons_of_ne_nil inside
    by_cases same : token.kind = kind
    · refine ⟨some op, { cursor with previous := some token, rest }, ?_, fun beyond _ => ?_,
        last_take tokens, fun absent => absurd absent (Option.some_ne_none _), ?_⟩
      · rw [run_bind_of_ok (accept_run_of_eq tokens same)]
        rfl
      · rw [run_bind_of_ok (accept_run_of_eq (onward_rest tokens beyond) same)]
        rfl
      · exact fun _ _ => ⟨token, rfl, same ▸ written⟩
    · rw [← Cursor.peek_of_rest_eq_cons tokens] at same
      obtain ⟨answer, after, here⟩ := others.answers cursor holds inside
      refine ⟨answer, after, ?_, fun beyond joins => ?_, here.last, here.stays, here.taken⟩
      · rw [run_bind_of_ok (accept_run_of_ne same)]
        exact here.run
      · rw [← peek_onward inside beyond] at same
        rw [run_bind_of_ok (accept_run_of_ne same)]
        exact here.run' beyond joins
  supplies := .accept others.supplies (ne_of_fits other)

/-! ## The operators -/

theorem operates_unaryOperator : edge.Operates unaryOperator :=
  .accept nofun rfl (.accept nofun rfl .none)

theorem operates_termOperator : edge.Operates termOperator :=
  .accept nofun rfl (.accept nofun rfl .none)

theorem operates_andOperator : edge.Operates andOperator :=
  .accept nofun rfl .none

theorem operates_orOperator : edge.Operates orOperator :=
  .accept nofun rfl .none

theorem atImplicitProduct_onward (inside : cursor.rest ≠ []) (beyond : Beyond) :
    atImplicitProduct (cursor.onward beyond) = atImplicitProduct cursor := by
  rw [atImplicitProduct, atImplicitProduct, peek_onward inside beyond]
  rfl

theorem atImplicitProduct_eq_false {previous : Option Token} {tail : Beyond}
    (fit : tail.headKind.encloses = true) :
    atImplicitProduct (tail.after previous) = false := by
  have head : (tail.after previous).peek.kind = tail.headKind := rfl
  have no_paren : tail.headKind ≠ .parenOpen := ne_of_fits rfl _ fit
  have no_name : tail.headKind ≠ .identifier := ne_of_fits rfl _ fit
  rw [atImplicitProduct, head]
  simp only [no_paren, no_name, decide_false, Bool.or_false, Bool.and_false]
  split <;> rfl

theorem operates_implicitProduct : edge.Operates (do
    if atImplicitProduct (← get) then return some BinaryOp.mul else return none) where
  answers cursor _ inside := by
    have looked (cursor : Cursor) : (get : Parser Cursor).run cursor = .ok (cursor, cursor) := rfl
    by_cases multiplies : atImplicitProduct cursor = true
    · refine ⟨some .mul, cursor, ?_, fun beyond _ => ?_, rfl,
        fun absent => absurd absent (Option.some_ne_none _), fun _ _ => ?_⟩
      · rw [run_bind_of_ok (looked cursor), if_pos multiplies]
        rfl
      · rw [← atImplicitProduct_onward inside beyond] at multiplies
        rw [run_bind_of_ok (looked _), if_pos multiplies]
        rfl
      · rw [atImplicitProduct] at multiplies
        split at multiplies
        · cases multiplies
        · rename_i previous found
          refine ⟨previous, found, fun unterminated => ?_⟩
          simp [unterminated] at multiplies
    · refine ⟨none, cursor, .none _ ?_ fun beyond _ => ?_⟩
      · rw [run_bind_of_ok (looked cursor), if_neg multiplies]
        rfl
      · rw [← atImplicitProduct_onward inside beyond] at multiplies
        rw [run_bind_of_ok (looked _), if_neg multiplies]
        rfl
  supplies previous more tail spell fit := by
    have looked : (get : Parser Cursor).run (tail.after previous) = .ok (_, _) := rfl
    rw [Beyond.prepend_nil, run_bind_of_ok looked, atImplicitProduct_eq_false fit]
    exact .reaches rfl

theorem operates_factorOperator : edge.Operates factorOperator :=
  .accept nofun rfl (.accept nofun rfl (.accept nofun rfl operates_implicitProduct))

theorem AnswersAt.peekKind {next : Token.Kind → Parser (Option α)} (inside : cursor.rest ≠ [])
    (later : AnswersAt (next cursor.peek.kind) cursor) :
    AnswersAt (peekKind >>= next) cursor := by
  obtain ⟨answer, after, here⟩ := later
  have looked : Parser.peekKind.run cursor = .ok (cursor.peek.kind, cursor) := rfl
  refine ⟨answer, after, ?_, fun beyond joins => ?_, here.last, here.stays, here.taken⟩
  · rw [run_bind_of_ok looked]
    exact here.run
  · have looked' : Parser.peekKind.run (cursor.onward beyond) =
        .ok (cursor.peek.kind, cursor.onward beyond) := by
      rw [← peek_onward inside beyond]
      rfl
    rw [run_bind_of_ok looked']
    exact here.run' beyond joins

/-- An operator that takes its first token. -/
theorem AnswersAt.advance {token : Token} {rest : List Token} {next : Token → Parser (Option α)}
    (tokens : cursor.rest = token :: rest) (op : α) (after : Cursor)
    (run : (next token).run { cursor with previous := some token, rest } = .ok (some op, after))
    (run' : ∀ beyond, cursor.JoinsTo beyond.headKind →
      (next token).run (({ cursor with previous := some token, rest } : Cursor).onward beyond) =
        .ok (some op, after.onward beyond))
    (last : after.last = ({ cursor with previous := some token, rest } : Cursor).last)
    (taken : ∃ token, after.previous = some token ∧ token.kind ≠ .unterminatedString) :
    AnswersAt (advance >>= next) cursor := by
  refine ⟨some op, after, ?_, fun beyond joins => ?_, last.trans (last_take tokens),
    fun absent => absurd absent (Option.some_ne_none _), fun _ _ => taken⟩
  · rw [run_bind_of_ok (advance_run_cons tokens)]
    exact run
  · rw [run_bind_of_ok (advance_run_cons (onward_rest tokens beyond))]
    exact run' beyond joins

theorem AnswersAt.take {token : Token} {rest : List Token} (tokens : cursor.rest = token :: rest)
    (written : token.kind ≠ .unterminatedString) (op : BinaryOp) :
    AnswersAt (take op) cursor :=
  .advance tokens op _ rfl (fun _ _ => rfl) rfl ⟨token, rfl, written⟩

/-- What goes on behind the edge is neither `not` nor `points`. -/
theorem ne_of_joins {last next other : Token.Kind} (joins : last.joins next = true)
    (elsewhere : other.goesOn = false) : next ≠ other := by
  rintro rfl
  rw [Token.Kind.joins, elsewhere] at joins
  cases joins

theorem peek_onward_ne {token : Token} {kind : Token.Kind} {beyond : Beyond}
    (previous : cursor.previous = some token) (absent : cursor.peek.kind ≠ kind)
    (elsewhere : kind.goesOn = false) (joins : cursor.JoinsTo beyond.headKind) :
    (cursor.onward beyond).peek.kind ≠ kind := by
  by_cases at_edge : cursor.rest = []
  · have head : (cursor.onward beyond).peek.kind = beyond.headKind := by
      rw [Cursor.onward, at_edge]
      rfl
    have last : cursor.last = some token := by rw [Cursor.last, at_edge, previous]; rfl
    rw [head]
    exact ne_of_joins (joins token last) elsewhere
  · rwa [peek_onward at_edge]

theorem answersAt_is {token : Token} {rest : List Token} (holds : edge.Holds cursor)
    (tokens : cursor.rest = token :: rest) (kind : token.kind = .keyword .is) :
    AnswersAt (do
      let _ ← advance
      if ← accept .not then return some BinaryOp.notEqual else return some .equal) cursor := by
  let here : Cursor := { cursor with previous := some token, rest }
  have here_last : here.last = cursor.last := last_take tokens
  by_cases negated : here.peek.kind = .not
  · obtain ⟨later, here_tokens⟩ : ∃ later, here.rest = here.peek :: later :=
      Cursor.exists_cons_of_peek holds.finish_kind (by rw [negated]; decide)
    let after : Cursor := { here with previous := some here.peek, rest := later }
    refine .advance tokens .notEqual after ?_ (fun beyond _ => ?_) ?_ ?_
    · rw [run_bind_of_ok (accept_run_of_eq here_tokens negated)]
      rfl
    · rw [run_bind_of_ok (accept_run_of_eq (onward_rest here_tokens beyond) negated)]
      rfl
    · exact last_take here_tokens
    · exact ⟨here.peek, rfl, by rw [negated]; decide⟩
  · refine .advance tokens .equal here ?_ (fun beyond joins => ?_) rfl ?_
    · rw [run_bind_of_ok (accept_run_of_ne negated)]
      rfl
    · have joined : here.JoinsTo beyond.headKind := joinsTo_of_last here_last joins
      rw [run_bind_of_ok (accept_run_of_ne (peek_onward_ne rfl negated rfl joined))]
      rfl
    · exact ⟨token, rfl, by rw [kind]; decide⟩

/-- The word `not` is part of an operator only before `points`. -/
theorem answersAt_notPoints {token : Token} {rest : List Token} (holds : edge.Holds cursor)
    (tokens : cursor.rest = token :: rest) :
    AnswersAt (do
      if (← peekNextKind) = .keyword .points then
        let _ ← advance
        take .notIdentical
      else
        return none) cursor := by
  let here : Cursor := { cursor with previous := some token, rest }
  have here_last : here.last = cursor.last := last_take tokens
  have looked (cursor : Cursor) : peekNextKind.run cursor = .ok (cursor.peekNext.kind, cursor) :=
    rfl
  have ahead : cursor.peekNext = here.peek := by rw [Cursor.peekNext, tokens]; rfl
  have ahead' (beyond : Beyond) :
      (cursor.onward beyond).peekNext = (here.onward beyond).peek := by
    rw [Cursor.peekNext, onward_rest tokens beyond]
    rfl
  by_cases points : here.peek.kind = .keyword .points
  · obtain ⟨later, here_tokens⟩ : ∃ later, here.rest = here.peek :: later :=
      Cursor.exists_cons_of_peek holds.finish_kind (by rw [points]; decide)
    have before : here.rest ≠ [] := by rw [here_tokens]; exact List.cons_ne_nil _ _
    refine ⟨some .notIdentical, { here with previous := some here.peek, rest := later }, ?_,
      fun beyond _ => ?_, (last_take here_tokens).trans here_last,
      fun absent => absurd absent (Option.some_ne_none _),
      fun _ _ => ⟨here.peek, rfl, by rw [points]; decide⟩⟩
    · rw [run_bind_of_ok (looked cursor), ahead, if_pos points,
        run_bind_of_ok (advance_run_cons tokens), take,
        run_bind_of_ok (advance_run_cons here_tokens)]
      rfl
    · rw [run_bind_of_ok (looked _), ahead', peek_onward before, if_pos points,
        run_bind_of_ok (advance_run_cons (onward_rest tokens beyond)), take]
      exact run_bind_of_ok (advance_run_cons (onward_rest here_tokens beyond)) _
  · refine ⟨none, cursor, .none _ ?_ fun beyond joins => ?_⟩
    · rw [run_bind_of_ok (looked cursor), ahead, if_neg points]
      rfl
    · have joined : here.JoinsTo beyond.headKind := joinsTo_of_last here_last joins
      rw [run_bind_of_ok (looked _), ahead', if_neg (peek_onward_ne rfl points rfl joined)]
      rfl

theorem operates_comparisonOperator : edge.Operates comparisonOperator where
  answers cursor holds inside := by
    obtain ⟨token, rest, tokens⟩ := List.exists_cons_of_ne_nil inside
    have head : cursor.peek = token := Cursor.peek_of_rest_eq_cons tokens
    have taking {kind : Token.Kind} (op : BinaryOp) (same : cursor.peek.kind = kind)
        (written : kind ≠ .unterminatedString) : AnswersAt (take op) cursor :=
      .take tokens (by rwa [← head, same]) op
    apply AnswersAt.peekKind inside
    split
    next same => exact taking _ same (by decide)
    next same => exact taking _ same (by decide)
    next same => exact taking _ same (by decide)
    next same => exact taking _ same (by decide)
    next same => exact taking _ same (by decide)
    next same => exact taking _ same (by decide)
    next same => exact taking _ same (by decide)
    next same => exact answersAt_is holds tokens (head ▸ same)
    next same => exact answersAt_notPoints holds tokens
    next => exact ⟨_, _, .none _ rfl fun _ _ => rfl⟩
  supplies previous more tail spell fit := by
    have ends : ((tail.after previous) : Cursor).peek.kind.endsExpression = true :=
      endsExpression_of_encloses fit
    rw [Beyond.prepend_nil, Seam.comparisonOperator_run_of_endsExpression ends]
    exact .reaches rfl

/-! ## Chains -/

theorem Operates.stable {operator : Parser (Option α)} [Moves operator]
    (operates : edge.Operates operator) : edge.Stable operator := by
  refine .of_inside fun cursor value next beyond holds inside run _ joins => ?_
  obtain ⟨answer, after, here⟩ := operates.answers cursor holds inside
  rw [here.run] at run
  cases run
  exact here.run' beyond joins

/-- What comes after an operator, or after its absence. -/
theorem CompletesAt.operator {operator : Parser (Option α)} {next next' : Option α → Parser β}
    {fits : Token.Kind → Bool} {post : β → Prop} (operates : edge.Operates operator)
    (holds : edge.Holds cursor) (inside : cursor.rest ≠ [])
    (operand : ∀ op after, edge.Holds after → (after.rest = [] → after.JoinsTo .int) →
      edge.CompletesAt fits post (next (some op)) (next' (some op)) after)
    (others : edge.CompletesAt fits post (next none) (next' none) cursor) [Moves operator] :
    edge.CompletesAt fits post (operator >>= next) (operator >>= next') cursor := by
  obtain ⟨answer, after, here⟩ := operates.answers cursor holds inside
  refine .of_step here.run here.last here.run' ?_
  cases answer with
  | none =>
      obtain rfl := here.stays rfl
      exact others
  | some op =>
      refine operand op after (holds.of_run here.run) fun at_edge => ?_
      obtain ⟨token, previous, written⟩ := here.taken op rfl
      refine joinsTo_of_previous at_edge previous ?_
      simp [Token.Kind.joins, Token.Kind.goesOn, written]

variable (edge) in
/-- An expression that runs out is gone on with, and a missing one is supplied by zero. -/
def CompletesExpr (parser parser' : Parser Expr) : Prop :=
  edge.Completes Token.Kind.encloses (fun _ => True) [.zero] parser parser'

/-- An operand behind an operator. -/
theorem CompletesExpr.operand {parser parser' : Parser Expr} {change : Expr → β}
    (completes : edge.CompletesExpr parser parser') (holds : edge.Holds cursor)
    (joins : cursor.rest = [] → cursor.JoinsTo .int) :
    edge.CompletesAt Token.Kind.encloses (fun _ => True)
      (do return change (← parser)) (do return change (← parser')) cursor :=
  (completes.at holds fun at_edge _ _ => joins at_edge).map fun _ => id

theorem shrinks_chainStep (operator : Parser (Option BinaryOp)) (operand : Parser Expr)
    [Peels operator] [Operand operand] : Shrinks fun left : Expr => operator >>= fun answer =>
      match answer with
      | some op => do return some (Expr.ofBinary op left (← operand))
      | none => (pure none : Parser (Option Expr)) :=
  fun _ _ _ _ run finish => ((chainStep_extends operator operand).closes run finish).shorter

/-- No operator goes on behind the edge. -/
theorem supplies_chainStep {operator : Parser (Option BinaryOp)} (operates : edge.Operates operator)
    (operand : Parser Expr) (left : Expr) :
    edge.Supplies Token.Kind.encloses (· = none) [] (operator >>= fun answer => match answer with
      | some op => do return some (Expr.ofBinary op left (← operand))
      | none => (pure none : Parser (Option Expr))) := by
  refine operates.supplies.bind_nil (fun answer nothing => ?_) fun _ => id
  subst nothing
  exact .pure rfl

theorem CompletesExpr.chain {operator : Parser (Option BinaryOp)} {operand operand' : Parser Expr}
    [Peels operator] [Operand operand] [Operand operand'] [Deepens operand operand']
    (operates : edge.Operates operator) (stable : edge.Stable operand')
    (operands : edge.CompletesExpr operand operand') :
    edge.CompletesExpr (chain operator operand) (chain operator operand') := by
  have moves := moves_chainStep operand
  have moves' := moves_chainStep operand'
  have deepens := chainStep_deepens operator operand operand'
  refine .bind_nil stable operands (fun first => ?_) fun _ => id
  refine .whileSome (shrinks_chainStep operator operand) (shrinks_chainStep operator operand') ?_ ?_
    (supplies_chainStep operates operand') first
  · refine fun left => .bind operates.stable fun answer => ?_
    cases answer with
    | none => exact .pure none
    | some op => exact .bind stable fun _ => .pure _
  · intro left cursor holds inside
    exact .operator operates holds inside
      (fun op after after_holds joins => operands.operand after_holds joins) (.of_ok rfl inside)

end Edge
end DotScript
