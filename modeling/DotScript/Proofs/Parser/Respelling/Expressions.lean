import DotScript.Proofs.Parser.Respelling.Operators

/-!
# Expressions in two spellings

An operand begins where the two spellings are the same, and after it the cursors are level: a sign
that only the second list has comes right after an operand, and the parser of products is the one
that finds it.
-/

namespace DotScript
namespace Parser

variable {omits : Omissions} {α : Type}

/-! ## Points begin no expression -/

theorem RefusesPoint.separated {item : List α → Parser α} (refusing : RefusesPoint (item [])) :
    RefusesPoint (separated item) :=
  refusing.bind _

/-- What is nested in expressions begins with a token other than a point. -/
class Grammar.RefusesPoints (below : Grammar) : Prop where
  expression : RefusesPoint below.expression
  unary : RefusesPoint below.unary
  power : RefusesPoint below.power
  statement : RefusesPoint below.statement

attribute [instance] Grammar.RefusesPoints.expression Grammar.RefusesPoints.unary
  Grammar.RefusesPoints.power Grammar.RefusesPoints.statement

section Points

variable {below : Grammar} [below.RefusesPoints]

theorem items_refusesPoint {close : Token.Kind} (wanted : Wanted)
    (ends : close.endsOperand = true) : RefusesPoint (items below close wanted) where
  refuses {cursor} at_point := by
    have looked : peekKind.run cursor = .ok (cursor.peek.kind, cursor) := rfl
    have refusing : RefusesPoint (separated fun _ : List Expr => below.expression) :=
      .separated inferInstance
    have other : cursor.peek.kind ≠ close := by
      rw [at_point]
      rintro rfl
      cases ends
    rw [items, run_bind_of_ok looked, if_neg other]
    exact (refusing.bind _).refuses at_point

instance : RefusesPoint (primary below) where
  refuses {cursor} at_point := by
    have looked : peek.run cursor = .ok (cursor.peek, cursor) := rfl
    rw [primary, run_bind_of_ok looked, at_point]
    exact ⟨_, refuse_run _ _⟩

instance : RefusesPoint (methodChain below) :=
  inferInstanceAs (RefusesPoint (primary below >>= _))

instance : RefusesPoint (unary below) where
  refuses {cursor} at_point := by
    have looked : peek.run cursor = .ok (cursor.peek, cursor) := rfl
    have unsigned : unaryOperator.run cursor = .ok (none, cursor) := by
      apply unaryOperator_run_of_ne <;> rw [at_point] <;> decide
    rw [unary, run_bind_of_ok looked, run_bind_of_ok unsigned]
    exact RefusesPoint.refuses at_point

instance : RefusesPoint (power below) :=
  inferInstanceAs (RefusesPoint (unary below >>= _))

omit [below.RefusesPoints] in
theorem chain_refusesPoint (operator : Parser (Option BinaryOp)) (operand : Parser Expr)
    [RefusesPoint operand] : RefusesPoint (chain operator operand) :=
  inferInstanceAs (RefusesPoint (operand >>= _))

instance : RefusesPoint (expression below) := by
  have product : RefusesPoint (factor below) := chain_refusesPoint _ _
  have sum : RefusesPoint (term below) := chain_refusesPoint _ _
  have compares : RefusesPoint (comparison below) := chain_refusesPoint _ _
  have conjunction_refuses : RefusesPoint (conjunction below) := chain_refusesPoint _ _
  have disjunction_refuses : RefusesPoint (disjunction below) := chain_refusesPoint _ _
  exact disjunction_refuses.bind _

end Points

/-! ## Items -/

theorem Retells.separated {item : List α → Parser α} [operand : ∀ earlier, Operand (item earlier)]
    (items : ∀ earlier, Retells omits (Ready omits) (fun _ => Level omits) (item earlier)) :
    Retells omits (Ready omits) (fun _ => Level omits) (separated item) := by
  refine .bind (items []) fun first => ?_
  refine .bind (.whileSome ⟨?_, Level.finishes, ?_⟩ [first]) fun _ => .pure id
  · intro earlier
    refine .of_accept (.accept_fixed rfl id) ?_ (.pure id)
    exact .bind ((items earlier).mono (·.ready rfl) id) fun _ => .pure id
  · exact fun run finish => ((separatedStep_extends operand).closes run finish).shorter

variable (omits) in
/-- What is nested in expressions is retold. -/
structure RetellsNested (below : Grammar) : Prop where
  expression : Retells omits (Ready omits) (fun _ => Level omits) below.expression
  power : Retells omits (Ready omits) (fun _ => Level omits) below.power
  unary : Retells omits (Ready omits) (fun _ => Level omits) below.unary

theorem retells_constant (value : Literal) (token : Token) :
    Retells omits (Facing omits token) (fun _ => Level omits) (constant value) :=
  .bind .advance fun _ => .pure (·.toLevel)

section Expressions

variable {below : Grammar} [below.RefusesPoints] [below.Orderly]
  (nested : RetellsNested omits below)

include nested

theorem retells_items {close : Token.Kind} (wanted : Wanted) (ends : close.endsOperand = true)
    (fixed : isFixed close = true) :
    Retells omits (Ready omits) (fun _ => Level omits) (items below close wanted) := by
  have operand : Operand (items below close wanted) := items_operand wanted ends
  have no_point : RefusesPoint (items below close wanted) := items_refusesPoint wanted ends
  have closing {before : Cursor → Cursor → Prop} (values : List Expr)
      (sees : ∀ {cursor cursor'}, before cursor cursor' → cursor.peek.kind = close →
        Fresh omits cursor cursor') :
      Retells omits before (fun _ => Level omits)
        (expect close wanted >>= fun token => (pure (values, token.span) : Parser _)) :=
    .bind (.expect wanted (ne_finish_of_isFixed fixed) sees) fun _ => .pure (·.toLevel)
  refine .of_facing fun token => .peekKind id ?_
  split
  · exact closing [] fun faces _ => .facing faces
  · have values := Retells.separated fun _ : List Expr => nested.expression
    refine .bind (values.mono (fun faces => .inl (.facing faces)) id) fun values => ?_
    exact closing values (fresh_of_fixed fixed)

/-! ## Operands -/

theorem retells_nameOrCall {token : Token} (kind : token.kind = .identifier) :
    Retells omits (Facing omits token) (fun _ => Level omits) (nameOrCall below) := by
  refine .bind .advance fun name => .of_accept (.accept_ready rfl ?_) ?_ (.pure (·.toLevel))
  · exact fun after => after.ready (by rw [kind]; rfl)
  · exact .bind ((retells_items nested _ rfl rfl).mono (·.ready rfl) id) fun _ => .pure id

omit [below.RefusesPoints] [below.Orderly] in
theorem retells_group {token : Token} (kind : token.kind = .parenOpen) :
    Retells omits (Facing omits token) (fun _ => Level omits) (group below) := by
  refine .bind .advance fun start => ?_
  refine .bind (nested.expression.mono (·.ready (by rw [kind]; rfl)) id) fun inner => ?_
  exact .bind (.expect_fixed _ rfl id) fun close => .pure (·.toLevel)

theorem retells_listLiteral {token : Token} (kind : token.kind = .bracketOpen) :
    Retells omits (Facing omits token) (fun _ => Level omits) (listLiteral below) := by
  refine .bind .advance fun start => ?_
  exact .bind ((retells_items nested _ rfl rfl).mono (·.ready (by rw [kind]; rfl)) id) fun _ =>
    .pure id

theorem retells_setLiteral {token : Token} (kind : token.kind = .braceOpen) :
    Retells omits (Facing omits token) (fun _ => Level omits) (setLiteral below) := by
  refine .bind .advance fun start => ?_
  exact .bind ((retells_items nested _ rfl rfl).mono (·.ready (by rw [kind]; rfl)) id) fun _ =>
    .pure id

theorem retells_primary :
    Retells omits (Ready omits) (fun _ => Level omits) (primary below) := by
  refine .of_facing fun token => .peek id ?_
  split
  next => exact retells_constant _ _
  next =>
    split
    · exact retells_constant _ _
    · exact .refuse _
  next => exact retells_constant _ _
  next => exact retells_constant _ _
  next => exact retells_constant _ _
  next => exact retells_constant _ _
  next kind => exact retells_nameOrCall nested kind
  next kind => exact retells_group nested kind
  next kind => exact retells_listLiteral nested kind
  next kind => exact retells_setLiteral nested kind
  next => exact .refuse _

theorem retells_methodCall (receiver : Expr) :
    Retells omits (Level omits) (fun _ => Level omits) (methodCall below receiver) := by
  intro cursor cursor' level value final run
  have got : (get : Parser Cursor).run cursor = .ok (cursor, cursor) := rfl
  have got' : (get : Parser Cursor).run cursor' = .ok (cursor', cursor') := rfl
  rw [methodCall, run_bind_of_ok got] at run
  rw [methodCall, run_bind_of_ok got', ← level.atMethodCall_eq]
  cases calls : atMethodCall cursor with
  | false =>
      rw [calls] at run
      cases run
      exact .same level
  | true =>
      rw [calls, if_pos rfl] at run
      rw [if_pos rfl]
      cases level.facingCall calls with
      | @call _ _ dot name mark finish finish' rest rest' opens later ends ends' =>
          have arguments (wanted : Wanted) (next : List Expr × Span → Parser (Option Expr))
              (rests : ∀ items, Retells omits (Level omits) (fun _ => Level omits) (next items)) :
              Retells omits (Ready omits) (fun _ => Level omits)
                (items below .parenClose wanted >>= next) :=
            .bind (retells_items nested wanted rfl rfl) rests
          have after := (later.after opens ends ends').ready rfl
          rw [advance_bind_run, advance_bind_run, advance_bind_run] at run ⊢
          exact arguments _ _ (fun _ => .pure id) _ _ after _ _ run

theorem retells_methodChain :
    Retells omits (Ready omits) (fun _ => Level omits) (methodChain below) := by
  refine .bind (retells_primary nested) fun receiver => .whileSome ⟨?_, Level.finishes, ?_⟩ receiver
  · intro receiver
    refine (retells_methodCall nested receiver).mono id fun {answer _ _} level => ?_
    cases answer <;> exact level
  · exact fun run finish => (methodCall_extends.closes run finish).shorter

/-! ## Operators -/

theorem retells_unary :
    Retells omits (Ready omits) (fun _ => Level omits) (unary below) := by
  refine .of_facing fun token => .peek id (.bind (retells_unaryOperator token) fun answer => ?_)
  cases answer with
  | none => exact (retells_methodChain nested).mono (fun faces => .inl (.facing faces)) id
  | some op => exact .bind nested.unary fun operand => .pure id

theorem retells_power :
    Retells omits (Ready omits) (fun _ => Level omits) (power below) := by
  refine .bind (retells_unary nested) fun base => .of_accept (.accept_fixed rfl id) ?_ (.pure id)
  exact .bind (nested.power.mono (·.ready rfl) id) fun exponent => .pure id

theorem retells_factor : Retells omits (Ready omits) (fun _ => Level omits) (factor below) :=
  .chain retells_factorOperator (retells_power nested)

theorem retells_term : Retells omits (Ready omits) (fun _ => Level omits) (term below) :=
  .chain retells_termOperator (retells_factor nested)

theorem retells_comparisons :
    Retells omits (Ready omits) (fun _ => Level omits) (comparison below) :=
  .chain retells_comparisonOperator (retells_term nested)

theorem retells_conjunction :
    Retells omits (Ready omits) (fun _ => Level omits) (conjunction below) :=
  .chain retells_andOperator (retells_comparisons nested)

theorem retells_disjunction :
    Retells omits (Ready omits) (fun _ => Level omits) (disjunction below) :=
  .chain retells_orOperator (retells_conjunction nested)

omit [below.RefusesPoints] [below.Orderly] nested in
/-- The word `of` behind something else than a call is refused, so it is behind it in neither list;
the complaints name what comes next, which need not be the same. -/
theorem Level.told_unless_of {cursor cursor' : Cursor} (level : Level omits cursor cursor')
    (mark mark' : Token) {value result : Expr} {final : Cursor}
    (run : (do
      if ← accept (.keyword .of) then
        let _ ← disjunction below
        complain mark .misplacedOf
      else return value : Parser Expr).run cursor = .ok (result, final)) :
    Told omits (Level omits) result final ((do
      if ← accept (.keyword .of) then
        let _ ← disjunction below
        complain mark' .misplacedOf
      else return value : Parser Expr).run cursor') := by
  by_cases found : cursor.peek.kind = .keyword .of
  · obtain ⟨answer, middle, accept_run, next_run⟩ := run_bind_eq_ok run
    cases answer with
    | true =>
        obtain ⟨_, _, _, complaint⟩ := run_bind_eq_ok next_run
        cases complaint
    | false =>
        have fresh := fresh_of_fixed rfl level found
        obtain ⟨token, faces, kind⟩ := fresh.exists_facing found (by decide)
        cases faces with
        | token =>
            rw [accept_run_of_eq rfl kind] at accept_run
            cases accept_run
  · have not_found : cursor'.peek.kind ≠ .keyword .of := mt (level.peek_kind_iff rfl).2 found
    rw [run_bind_of_ok (accept_run_of_ne found)] at run
    rw [run_bind_of_ok (accept_run_of_ne not_found)]
    cases run
    exact .same level

theorem retells_expression :
    Retells omits (Ready omits) (fun _ => Level omits) (expression below) := by
  refine .bind (retells_disjunction nested) fun value => ?_
  intro cursor cursor' level result final run
  have looked : peek.run cursor = .ok (cursor.peek, cursor) := rfl
  have looked' : peek.run cursor' = .ok (cursor'.peek, cursor') := rfl
  rw [run_bind_of_ok looked] at run
  rw [run_bind_of_ok looked']
  cases value with
  | call name args span =>
      have receives : Retells omits (Level omits) (fun _ => Level omits) (do
          if ← accept (.keyword .of) then
            let receiver ← disjunction below
            return Expr.method receiver name args (span.to receiver.span)
          else return .call name args span) := by
        refine .of_accept (.accept_fixed rfl id) ?_ (.pure id)
        exact .bind ((retells_disjunction nested).mono (·.ready rfl) id) fun _ => .pure id
      exact receives _ _ level _ _ run
  | _ => exact level.told_unless_of _ _ run

end Expressions

end Parser
end DotScript
