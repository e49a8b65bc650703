import DotScript.Proofs.Parser.Accounting.Basic

/-!
# Expressions account for their tokens

An expression that is parsed may be written with the tokens that were taken for it, provided that
the parsers for what is nested in it keep to this.
-/

namespace DotScript
namespace Parser

open Cursor

/-- The parsers one level below account for their tokens. -/
structure Grammar.AccountsForAll (below : Grammar) : Prop where
  expression : Accounts below.expression Expr.WrittenAs
  power : Accounts below.power Expr.WrittenAs
  unary : Accounts below.unary Expr.WrittenAs
  statement : Accounts below.statement Stmt.EndsAs

/-! ## Operators -/

theorem unaryOperator_accounts :
    Accounts unaryOperator fun op? taken => match op? with
      | none => taken = []
      | some op => ∃ mark, taken = [mark] ∧ mark.kind = op.mark.kind := by
  intro cursor
  refine .accept (by decide) (fun mark _ minus _ => .pure ⟨mark, rfl, minus⟩) ?_
  exact .accept (by decide) (fun mark _ negation _ => .pure ⟨mark, rfl, negation⟩) (.pure rfl)

/-- The operator, if there is one, may be spelled so. -/
def SpellsOperator (op? : Option BinaryOp) (taken : List Token) : Prop :=
  match op? with
  | none => taken = []
  | some op => taken.map (·.kind) ∈ op.spellings

/-- An operator that is spelled with the one token that was taken. -/
theorem spellsOperator_of_kind {op : BinaryOp} {kind : Token.Kind} (spelled : [kind] ∈ op.spellings)
    {token : Token} (same : token.kind = kind) : SpellsOperator (some op) [token] := by
  rw [SpellsOperator, List.map_singleton, same]
  exact spelled

theorem factorOperator_accounts : Accounts factorOperator SpellsOperator := by
  intro cursor
  refine .accept (by decide)
    (fun _ _ star _ => .pure (spellsOperator_of_kind (by decide) star)) ?_
  refine .accept (by decide)
    (fun _ _ slash _ => .pure (spellsOperator_of_kind (by decide) slash)) ?_
  refine .accept (by decide)
    (fun _ _ percent _ => .pure (spellsOperator_of_kind (by decide) percent)) ?_
  refine .get ?_
  split
  · exact .pure (by decide : [] ∈ BinaryOp.mul.spellings)
  · exact .pure rfl

theorem termOperator_accounts : Accounts termOperator SpellsOperator := by
  intro cursor
  refine .accept (by decide)
    (fun _ _ plus _ => .pure (spellsOperator_of_kind (by decide) plus)) ?_
  exact .accept (by decide)
    (fun _ _ minus _ => .pure (spellsOperator_of_kind (by decide) minus)) (.pure rfl)

theorem andOperator_accounts : Accounts andOperator SpellsOperator := fun _ =>
  .accept (by decide) (fun _ _ mark _ => .pure (spellsOperator_of_kind (by decide) mark)) (.pure rfl)

theorem orOperator_accounts : Accounts orOperator SpellsOperator := fun _ =>
  .accept (by decide) (fun _ _ mark _ => .pure (spellsOperator_of_kind (by decide) mark)) (.pure rfl)

/-- A token that is there is taken as an operator. -/
theorem take_accounts {cursor : Cursor} {op : BinaryOp} {kind : Token.Kind}
    (same : cursor.peek.kind = kind) (inner : kind ≠ .finish) (spelled : [kind] ∈ op.spellings) :
    AccountsAt cursor (take op) SpellsOperator :=
  .advance (same ▸ inner) fun _ _ => .pure (spellsOperator_of_kind spelled same)

theorem comparisonOperator_accounts : Accounts comparisonOperator SpellsOperator := by
  intro cursor
  refine .peekKind ?_
  split
  case h_8 is =>
    refine .advance (by rw [is]; decide) fun middle _ => ?_
    refine .accept (by decide) (fun mark _ negation _ => .pure ?_) (.pure ?_)
    · rw [SpellsOperator, List.map_cons, List.map_singleton, is, negation]
      decide
    · exact spellsOperator_of_kind (by decide) is
  case h_9 negation =>
    refine .peekNextKind ?_
    split
    next points =>
      refine .advance (by rw [negation]; decide) fun middle passes => ?_
      have next := passes.peek_eq_peekNext
      refine .advance (by rw [next, points]; decide) fun _ _ => .pure ?_
      rw [SpellsOperator, List.map_cons, List.map_singleton, next, negation, points]
      decide
    next => exact .pure rfl
  case h_10 => exact .pure rfl
  all_goals rename_i same; exact take_accounts same (by decide) (by decide)

section Expressions

variable {below : Grammar} (nested : below.AccountsForAll)

include nested

/-! ## Primary expressions -/

/-- Items up to a closing mark. -/
theorem items_accounts {close : Token.Kind} (wanted : Wanted) (inner : close ≠ .finish) :
    Accounts (items below close wanted) fun result taken =>
      ∃ tokens mark, taken = tokens ++ [mark] ∧ Listed Expr.WrittenAs result.1 tokens ∧
        mark.kind = close ∧ result.2 = mark.span := by
  intro cursor
  have ended (values : List Expr) (tokens : List Token) (middle : Cursor)
      (listed : Listed Expr.WrittenAs values tokens) :
      AccountsAt middle (do
        let token ← expect close wanted
        return (values, token.span)) fun (result : List Expr × Span) more =>
          ∃ inside mark, tokens ++ more = inside ++ [mark] ∧
            Listed Expr.WrittenAs result.1 inside ∧ mark.kind = close ∧ result.2 = mark.span :=
    .expect inner fun mark _ same _ => .pure ⟨tokens, mark, rfl, listed, same, rfl⟩
  refine .peekKind ?_
  split
  · have empty : AccountsAt cursor (pure []) (Listed Expr.WrittenAs) := .pure .nil
    exact empty.bind fun values tokens middle _ listed => ended values tokens middle listed
  · exact .bind (.separated fun _ => nested.expression)
      fun values tokens middle _ listed => ended values tokens middle listed.1

theorem nameOrCall_accounts {cursor : Cursor} (is_name : cursor.peek.kind = .identifier) :
    AccountsAt cursor (nameOrCall below) Expr.WrittenAs := by
  refine .advance (by rw [is_name]; decide) fun middle _ => ?_
  refine .accept (by decide) (fun start middle opens _ => ?_) (.pure (.variable is_name))
  refine .last (items_accounts nested _ (by decide) middle) ?_
  rintro ⟨args, span⟩ _ ⟨tokens, close, rfl, listed, closes, rfl⟩
  exact .call is_name opens listed closes

omit nested in
theorem constant_accounts {cursor : Cursor} {value : Literal}
    (constant : cursor.peek.literal? = some value) :
    AccountsAt cursor (Parser.constant value) Expr.WrittenAs := by
  refine .advance (fun finish => ?_) fun _ _ => .pure (.literal constant)
  rw [Token.literal?, finish] at constant
  cases constant

theorem group_accounts {cursor : Cursor} (opens : cursor.peek.kind = .parenOpen) :
    AccountsAt cursor (group below) Expr.WrittenAs := by
  refine .advance (by rw [opens]; decide) fun middle _ => ?_
  refine .bind (nested.expression middle) fun inner tokens _ _ written => ?_
  exact .expect (by decide) fun close _ closes _ => .pure (.group opens written closes)

theorem listLiteral_accounts {cursor : Cursor} (opens : cursor.peek.kind = .bracketOpen) :
    AccountsAt cursor (listLiteral below) Expr.WrittenAs := by
  refine .advance (by rw [opens]; decide) fun middle _ => ?_
  refine .last (items_accounts nested _ (by decide) middle) ?_
  rintro ⟨values, span⟩ _ ⟨tokens, close, rfl, listed, closes, rfl⟩
  exact .list opens listed closes

theorem setLiteral_accounts {cursor : Cursor} (opens : cursor.peek.kind = .braceOpen) :
    AccountsAt cursor (setLiteral below) Expr.WrittenAs := by
  refine .advance (by rw [opens]; decide) fun middle _ => ?_
  refine .last (items_accounts nested _ (by decide) middle) ?_
  rintro ⟨values, span⟩ _ ⟨tokens, close, rfl, listed, closes, rfl⟩
  exact .set opens listed closes

theorem primary_accounts : Accounts (primary below) Expr.WrittenAs := by
  intro cursor
  refine .peek ?_
  split
  case h_1 kind => exact constant_accounts (by rw [Token.literal?, kind])
  case h_2 kind =>
    split
    next value read =>
      refine constant_accounts ?_
      rw [Token.literal?, kind, read]
      rfl
    next => exact .refuse _
  case h_3 kind => exact constant_accounts (by rw [Token.literal?, kind])
  case h_4 kind => exact constant_accounts (by rw [Token.literal?, kind])
  case h_5 kind => exact constant_accounts (by rw [Token.literal?, kind])
  case h_6 kind => exact constant_accounts (by rw [Token.literal?, kind])
  case h_7 kind => exact nameOrCall_accounts nested kind
  case h_8 kind => exact group_accounts nested kind
  case h_9 kind => exact listLiteral_accounts nested kind
  case h_10 kind => exact setLiteral_accounts nested kind
  case h_11 => exact .refuse _

/-- The tokens of a method call are a point, a name and an opening parenthesis at least. -/
theorem methodCall_accounts {receiver : Expr} {before : List Token}
    (written : receiver.WrittenAs before) (cursor : Cursor) :
    AccountsAt cursor (methodCall below receiver) (Continues Expr.WrittenAs before) := by
  refine .get ?_
  by_cases calls : atMethodCall cursor = true
  · rw [if_pos calls]
    obtain ⟨point, name, start, rest, tokens, is_point, is_name, opens⟩ :=
      exists_of_atMethodCall calls
    refine .take tokens (advance_run_cons tokens) fun middle passes => ?_
    have tokens : middle.rest = name :: start :: rest :=
      List.append_cancel_left (passes.rest.symm.trans tokens)
    refine .take tokens (advance_run_cons tokens) fun middle passes => ?_
    have tokens : middle.rest = start :: rest :=
      List.append_cancel_left (passes.rest.symm.trans tokens)
    refine .take tokens (advance_run_cons tokens) fun middle _ => ?_
    refine .last (items_accounts nested _ (by decide) middle) ?_
    rintro ⟨args, span⟩ _ ⟨tokens, close, rfl, listed, closes, rfl⟩
    exact .method written is_point is_name opens listed closes
  · rw [if_neg calls]
    exact .pure rfl

theorem methodChain_accounts : Accounts (methodChain below) Expr.WrittenAs := fun cursor =>
  .bind (primary_accounts nested cursor) fun _ _ _ _ written =>
    .whileSome Expr.WrittenAs
      (fun _ _ cursor written => methodCall_accounts nested written cursor) written

/-! ## Operations -/

theorem unary_accounts : Accounts (unary below) Expr.WrittenAs := by
  intro cursor
  refine .peek ?_
  refine .bind (unaryOperator_accounts cursor) fun op? taken middle passes spelled => ?_
  cases op? with
  | none =>
      obtain rfl : taken = [] := spelled
      exact methodChain_accounts nested middle
  | some op =>
      obtain ⟨mark, rfl, kind⟩ := spelled
      rw [peek_of_rest_eq_cons passes.rest]
      exact .last (nested.unary middle) fun operand tokens written => .unary kind written

theorem power_accounts : Accounts (power below) Expr.WrittenAs := by
  intro cursor
  refine .bind (unary_accounts nested cursor) fun base before middle _ base_written => ?_
  refine .accept (by decide) (fun mark middle caret _ => ?_) (.pure ?_)
  · refine .last (nested.power middle) fun exponent after written => ?_
    exact .binary base_written (spellsOperator_of_kind (by decide) caret) written
  · rwa [List.append_nil]

omit nested in
/-- Operands with operators between them. -/
theorem chain_accounts {operator : Parser (Option BinaryOp)} {operand : Parser Expr}
    (operators : Accounts operator SpellsOperator) (operands : Accounts operand Expr.WrittenAs) :
    Accounts (chain operator operand) Expr.WrittenAs := by
  intro cursor
  refine .bind (operands cursor) fun first taken middle _ written => ?_
  refine .whileSome Expr.WrittenAs (fun left before cursor left_written => ?_) written
  refine .bind (operators cursor) fun op? marks middle _ spelled => ?_
  cases op? with
  | none =>
      obtain rfl : marks = [] := spelled
      exact .pure rfl
  | some op =>
      exact .last (operands middle) fun right after written => .binary left_written spelled written

theorem factor_accounts : Accounts (factor below) Expr.WrittenAs :=
  chain_accounts factorOperator_accounts (power_accounts nested)

theorem term_accounts : Accounts (term below) Expr.WrittenAs :=
  chain_accounts termOperator_accounts (factor_accounts nested)

theorem comparison_accounts : Accounts (comparison below) Expr.WrittenAs :=
  chain_accounts comparisonOperator_accounts (term_accounts nested)

theorem conjunction_accounts : Accounts (conjunction below) Expr.WrittenAs :=
  chain_accounts andOperator_accounts (comparison_accounts nested)

theorem disjunction_accounts : Accounts (disjunction below) Expr.WrittenAs :=
  chain_accounts orOperator_accounts (conjunction_accounts nested)

theorem expression_accounts : Accounts (expression below) Expr.WrittenAs := by
  intro cursor
  refine .bind (disjunction_accounts nested cursor) fun value before middle _ value_written => ?_
  refine .peek (.accept (by decide) (fun word middle is_of _ => ?_) (.pure ?_))
  · refine .bind (disjunction_accounts nested middle) fun receiver after _ _ written => ?_
    split
    · refine .pure ?_
      rw [List.append_nil]
      exact .methodOf value_written is_of written
    · exact .complain _ _
  · rwa [List.append_nil]

end Expressions

end Parser
end DotScript
