import DotScript.Proofs.Parser.Respelling.Basic

/-!
# Operators in two spellings

After an operand the cursors are level.  The parser of the operators of products is the one that
finds a sign that only the second list has; all others find the same in both lists.
-/

namespace DotScript
namespace Parser

variable {omits : Omissions} {α : Type}

/-! ## Before a method call -/

variable (omits) in
/-- Both cursors are before the same point, name and parenthesis. -/
inductive FacingCall : Cursor → Cursor → Prop
  | call {previous previous' : Option Token} {dot name mark finish finish' : Token}
      {rest rest' : List Token} (opens : mark.kind = .parenOpen)
      (later : Respelled omits (some mark) rest rest') (ends : finish.kind = .finish)
      (ends' : finish'.kind = .finish) :
      FacingCall ⟨previous, dot :: name :: mark :: rest, finish⟩
        ⟨previous', dot :: name :: mark :: rest', finish'⟩

/-- A method call in the first list is one in the second list: its point comes before a name, so it
is not left out. -/
theorem Level.facingCall {cursor cursor' : Cursor} (level : Level omits cursor cursor')
    (calls : atMethodCall cursor = true) : FacingCall omits cursor cursor' := by
  obtain ⟨dot, name, mark, rest, tokens, dot_kind, name_kind, mark_kind⟩ :=
    exists_of_atMethodCall calls
  obtain ⟨previous, tokens, finish⟩ := cursor
  obtain ⟨previous', tokens', finish'⟩ := cursor'
  obtain ⟨respelled, -, ends, ends'⟩ := level
  cases tokens
  cases respelled with
  | token after_dot =>
      obtain ⟨_, rfl, after_name⟩ :=
        after_dot.exists_cons (by rw [dot_kind]; rfl) (by rw [name_kind]; decide)
      obtain ⟨_, rfl, after_mark⟩ :=
        after_name.exists_cons (by rw [name_kind]; rfl) (by rw [mark_kind]; decide)
      exact .call mark_kind after_mark ends ends'
  | product _ starts =>
      rw [dot_kind] at starts
      cases starts
  | point _ _ closes =>
      have ends_name := closes _ rfl
      rw [name_kind] at ends_name
      cases ends_name

theorem Level.facingCall_of_right {cursor cursor' : Cursor} (level : Level omits cursor cursor')
    (calls : atMethodCall cursor' = true) : FacingCall omits cursor cursor' := by
  obtain ⟨dot, name, mark, rest, tokens, dot_kind, name_kind, mark_kind⟩ :=
    exists_of_atMethodCall calls
  obtain ⟨previous, tokens, finish⟩ := cursor
  obtain ⟨previous', tokens', finish'⟩ := cursor'
  obtain ⟨respelled, -, ends, ends'⟩ := level
  cases tokens
  obtain ⟨_, rfl, after_dot⟩ :=
    respelled.exists_cons_left (by rw [dot_kind]; decide) (by rw [dot_kind]; rfl)
  obtain ⟨_, rfl, after_name⟩ :=
    after_dot.exists_cons_left (by rw [name_kind]; decide) (by rw [name_kind]; rfl)
  obtain ⟨_, rfl, after_mark⟩ :=
    after_name.exists_cons_left (by rw [mark_kind]; decide) (by rw [mark_kind]; rfl)
  exact .call mark_kind after_mark ends ends'

theorem FacingCall.atMethodCall_eq {cursor cursor' : Cursor}
    (faces : FacingCall omits cursor cursor') : atMethodCall cursor = atMethodCall cursor' := by
  cases faces with
  | call => rfl

theorem Level.atMethodCall_eq {cursor cursor' : Cursor} (level : Level omits cursor cursor') :
    atMethodCall cursor = atMethodCall cursor' := by
  cases calls : atMethodCall cursor with
  | true => exact calls ▸ (level.facingCall calls).atMethodCall_eq
  | false =>
      cases calls' : atMethodCall cursor' with
      | true => rw [← calls, (level.facingCall_of_right calls').atMethodCall_eq, calls']
      | false => rfl

/-! ## Operators of one mark -/

/-- An operator of one mark, which both runs find. -/
theorem Retells.mark {before stays : Cursor → Cursor → Prop} {kind : Token.Kind} {op : α}
    {others : Parser (Option α)} (no_factor : kind.endsFactor = false)
    (accepts : Retells omits before (Found omits kind before) (Parser.accept kind))
    (retells : Retells omits before (Answered (Ready omits) stays) others) :
    Retells omits before (Answered (Ready omits) stays)
      (Parser.accept kind >>= fun found => if found then Pure.pure (some op) else others) :=
  .of_accept accepts (.pure (·.ready no_factor)) retells

theorem retells_unaryOperator (token : Token) :
    Retells omits (Facing omits token) (Answered (Ready omits) (Facing omits token))
      unaryOperator := by
  refine .mark rfl (.accept_fresh (by decide) .facing) ?_
  exact .mark rfl (.accept_fresh (by decide) .facing) (.pure id)

theorem retells_termOperator :
    Retells omits (Level omits) (Answered (Ready omits) (Level omits)) termOperator :=
  .mark rfl (.accept_fixed rfl id) (.mark rfl (.accept_fixed rfl id) (.pure id))

theorem retells_andOperator :
    Retells omits (Level omits) (Answered (Ready omits) (Level omits)) andOperator :=
  .mark rfl (.accept_fixed rfl id) (.pure id)

theorem retells_orOperator :
    Retells omits (Level omits) (Answered (Ready omits) (Level omits)) orOperator :=
  .mark rfl (.accept_fixed rfl id) (.pure id)

/-! ## Products -/

theorem atImplicitProduct_eq {cursor cursor' : Cursor} (level : Level omits cursor cursor')
    (ready : Ready omits cursor cursor') :
    atImplicitProduct cursor' = atImplicitProduct cursor := by
  have starts (kind : Token.Kind) (plain : isPlain kind = true) :
      (cursor'.peek.kind = kind) = (cursor.peek.kind = kind) :=
    propext (ready.peek_kind_iff plain).symm
  rw [atImplicitProduct, atImplicitProduct, level.previous]
  simp only [starts .parenOpen rfl, starts .identifier rfl]

theorem AtProduct.atImplicitProduct {cursor cursor' : Cursor}
    (at_product : AtProduct omits cursor cursor') : atImplicitProduct cursor = true := by
  cases at_product with
  | @product first second _ _ _ _ _ ends starts =>
      have left : first.kind = .int ∨ first.kind = .float ∨ first.kind = .parenClose := by
        revert ends
        cases first.kind <;> simp [Token.Kind.endsFactor]
      have right : second.kind = .parenOpen ∨ second.kind = .identifier := by
        revert starts
        cases second.kind <;> simp [Token.Kind.startsFactor]
      simpa [Parser.atImplicitProduct, Cursor.peek, or_assoc] using ⟨left, right⟩

/-- A product without a sign in the first list has one in the second list; either way it goes on
with the same factor. -/
theorem AtProduct.factorOperator {cursor cursor' : Cursor}
    (at_product : AtProduct omits cursor cursor') {value : Option BinaryOp} {final : Cursor}
    (run : factorOperator.run cursor = .ok (value, final)) :
    Told omits (Answered (Ready omits) (Level omits) value) value final
      (factorOperator.run cursor') := by
  have got : (get : Parser Cursor).run cursor = .ok (cursor, cursor) := rfl
  have starts := at_product.peek_kind
  rw [Parser.factorOperator,
    run_bind_of_ok (accept_run_of_ne (startsFactor_ne_of_eq_false starts rfl)),
    if_neg Bool.false_ne_true,
    run_bind_of_ok (accept_run_of_ne (startsFactor_ne_of_eq_false starts rfl)),
    if_neg Bool.false_ne_true,
    run_bind_of_ok (accept_run_of_ne (startsFactor_ne_of_eq_false starts rfl)),
    if_neg Bool.false_ne_true, run_bind_of_ok got, if_pos at_product.atImplicitProduct] at run
  cases run
  cases at_product with
  | product _ _ sign fresh =>
      rw [Parser.factorOperator, run_bind_of_ok (accept_run_of_eq rfl sign)]
      exact .same (.inl fresh)

variable (omits) in
/-- Level cursors at which no factor comes next without a sign. -/
def Between (cursor cursor' : Cursor) : Prop :=
  Level omits cursor cursor' ∧ Ready omits cursor cursor'

theorem retells_implicitProduct :
    Retells omits (Between omits) (Answered (Ready omits) (Level omits))
      (do if atImplicitProduct (← get) then return some BinaryOp.mul else return none) := by
  rintro cursor cursor' ⟨level, ready⟩ value final run
  have got : (get : Parser Cursor).run cursor = .ok (cursor, cursor) := rfl
  have got' : (get : Parser Cursor).run cursor' = .ok (cursor', cursor') := rfl
  rw [run_bind_of_ok got] at run
  rw [run_bind_of_ok got', atImplicitProduct_eq level ready]
  split at run
  next multiplies =>
    rw [if_pos multiplies]
    cases run
    exact .same ready
  next stays =>
    rw [if_neg stays]
    cases run
    exact .same level

theorem retells_factorOperator :
    Retells omits (Level omits) (Answered (Ready omits) (Level omits)) factorOperator := by
  intro cursor cursor' level value final run
  rcases level.cases with ready | at_product
  · have retells :
        Retells omits (Between omits) (Answered (Ready omits) (Level omits)) factorOperator := by
      refine .mark rfl (.accept_ready rfl (·.2)) ?_
      refine .mark rfl (.accept_ready rfl (·.2)) ?_
      exact .mark rfl (.accept_ready rfl (·.2)) retells_implicitProduct
    exact retells _ _ ⟨level, ready⟩ _ _ run
  · exact at_product.factorOperator run

/-! ## Comparisons -/

/-- The kinds of tokens that a comparison begins with. -/
def beginsComparison : Token.Kind → Bool
  | .equalEqual | .bangEqual | .less | .lessEqual | .greater | .greaterEqual | .not => true
  | .keyword .points | .keyword .is => true
  | _ => false

theorem comparisonOperator_run_of_other {cursor : Cursor}
    (other : beginsComparison cursor.peek.kind = false) :
    comparisonOperator.run cursor = .ok (none, cursor) := by
  have looked : peekKind.run cursor = .ok (cursor.peek.kind, cursor) := rfl
  rw [comparisonOperator, run_bind_of_ok looked]
  split
  case h_10 => rfl
  all_goals
    rename_i kind
    rw [kind] at other
    cases other

theorem beginsComparison_of_endsStatement {kind : Token.Kind} (ends : endsStatement kind = true) :
    beginsComparison kind = false := by
  unfold endsStatement at ends
  split at ends
  all_goals first | rfl | cases ends

theorem beginsComparison_of_startsFactor {kind : Token.Kind} (starts : kind.startsFactor = true) :
    beginsComparison kind = false := by
  unfold Token.Kind.startsFactor at starts
  split at starts
  all_goals first | rfl | cases starts

theorem retells_take {token : Token} (no_factor : token.kind.endsFactor = false) (op : BinaryOp) :
    Retells omits (Facing omits token) (Answered (Ready omits) (Level omits)) (take op) :=
  .bind .advance fun _ => .pure (·.ready no_factor)

/-- After `not` both runs find `points`, or neither does. -/
theorem retells_negatedComparison {token : Token} (negates : token.kind = .not) :
    Retells omits
      (fun cursor cursor' => Level omits cursor cursor' ∧ Facing omits token cursor cursor')
      (Answered (Ready omits) (Level omits)) (do
        if (← peekNextKind) = .keyword .points then
          let _ ← advance
          take .notIdentical
        else
          return none) := by
  rintro _ _ ⟨level, @⟨previous, previous', finish, finish', rest, rest', later, ends, ends'⟩⟩
    value final run
  have looked : peekNextKind.run ⟨previous, token :: rest, finish⟩ =
      .ok ((rest.headD finish).kind, ⟨previous, token :: rest, finish⟩) := rfl
  have looked' : peekNextKind.run ⟨previous', token :: rest', finish'⟩ =
      .ok ((rest'.headD finish').kind, ⟨previous', token :: rest', finish'⟩) := rfl
  have points : (rest.headD finish).kind = .keyword .points ↔
      (rest'.headD finish').kind = .keyword .points :=
    later.headD_kind_iff (by rw [negates]; rfl) ends ends' rfl
  rw [run_bind_of_ok looked] at run
  rw [run_bind_of_ok looked']
  by_cases found : (rest.headD finish).kind = .keyword .points
  · rw [if_pos found] at run
    rw [if_pos (points.1 found)]
    have no_point : (rest.headD finish).kind ≠ .dot := by rw [found]; decide
    have fresh := ((later.after negates ends ends').ready rfl).fresh_of_peek no_point
    obtain ⟨word, faces, word_kind⟩ := fresh.exists_facing found (by decide)
    rw [advance_bind_run] at run ⊢
    exact retells_take (by rw [word_kind]; rfl) _ _ _ faces _ _ run
  · rw [if_neg found] at run
    rw [if_neg (mt points.2 found)]
    cases run
    exact .same level

theorem retells_comparison (token : Token) :
    Retells omits
      (fun cursor cursor' => Level omits cursor cursor' ∧ Facing omits token cursor cursor')
      (Answered (Ready omits) (Level omits)) comparisonOperator := by
  refine .peekKind (·.2) ?_
  split
  case h_8 kind =>
    refine .bind (Retells.advance.mono (·.2) id) fun _ => ?_
    have ready {cursor cursor'} (after : After omits token.kind cursor cursor') :
        Ready omits cursor cursor' := after.ready (by rw [kind]; rfl)
    exact .mark rfl (.accept_ready rfl ready) (.pure ready)
  case h_9 negates => exact retells_negatedComparison negates
  case h_10 => exact .pure (·.1)
  -- the other operators are single marks
  all_goals
    rename_i kind
    exact (retells_take (by rw [kind]; rfl) _).mono (·.2) id

theorem Level.beginsComparison_eq {cursor cursor' : Cursor} (level : Level omits cursor cursor') :
    beginsComparison cursor'.peek.kind = beginsComparison cursor.peek.kind := by
  rcases level.cases with (fresh | at_point) | at_product
  · rw [fresh.peek_kind]
  · rw [at_point.peek_kind, beginsComparison_of_endsStatement at_point.peek_kind']
    rfl
  · rw [at_product.peek_kind', beginsComparison_of_startsFactor at_product.peek_kind]
    rfl

theorem retells_comparisonOperator :
    Retells omits (Level omits) (Answered (Ready omits) (Level omits)) comparisonOperator := by
  intro cursor cursor' level value final run
  cases begins : beginsComparison cursor.peek.kind with
  | false =>
      rw [comparisonOperator_run_of_other begins] at run
      rw [comparisonOperator_run_of_other (level.beginsComparison_eq.trans begins)]
      cases run
      exact .same level
  | true =>
      have no_point : cursor.peek.kind ≠ .dot := by
        intro is_point
        rw [is_point] at begins
        cases begins
      have no_factor : cursor.peek.kind.startsFactor = false := by
        refine Bool.eq_false_iff.2 fun starts => ?_
        rw [beginsComparison_of_startsFactor starts] at begins
        cases begins
      have inner : cursor.peek.kind ≠ .finish := by
        intro ended
        rw [ended] at begins
        cases begins
      obtain ⟨token, faces, -⟩ := (level.fresh_of_peek no_point no_factor).exists_facing rfl inner
      exact retells_comparison token _ _ ⟨level, faces⟩ _ _ run

/-! ## Chains -/

theorem Retells.chain {operator : Parser (Option BinaryOp)} {operand : Parser Expr} [Peels operator]
    [Operand operand]
    (operators : Retells omits (Level omits) (Answered (Ready omits) (Level omits)) operator)
    (operands : Retells omits (Ready omits) (fun _ => Level omits) operand) :
    Retells omits (Ready omits) (fun _ => Level omits) (chain operator operand) := by
  refine .bind operands fun first => .whileSome ⟨?_, Level.finishes, ?_⟩ first
  · intro left
    refine .bind operators fun answer => ?_
    cases answer with
    | none => exact .pure id
    | some op => exact .bind operands fun right => .pure id
  · exact fun run finish => ((chainStep_extends operator operand).closes run finish).shorter

end Parser
end DotScript
