import DotScript.Proofs.Parser.Completion.Operators

/-!
# Going on with an expression

An expression that stops is gone on with by an operand, by zero where nothing else is asked for, and
by the marks that close what is open.
-/

namespace DotScript
namespace Edge

open DotScript.Parser

variable {edge : Edge} {cursor : Cursor}

/-! ## A missing operand -/

section Supplies

variable {below : Grammar} [below.Orderly]

omit [below.Orderly] in
theorem supplies_primary :
    edge.Supplies Token.Kind.encloses (fun _ => True) [.zero] (primary below) := by
  intro previous more tail spell _
  obtain ⟨token, rest, rfl, kind, _, later⟩ := spell.exists_cons
  obtain rfl := Filler.spell_nil.1 later
  have looked : peek.run ((tail.prepend spell).after previous) = .ok (token, _) := rfl
  rw [primary, run_bind_of_ok looked, kind]
  exact .reaches trivial

omit [below.Orderly] in
theorem supplies_methodCall (receiver : Expr) :
    edge.Supplies Token.Kind.encloses (· = none) [] (methodCall below receiver) := by
  intro previous more tail spell fit
  have looked : (get : Parser Cursor).run (tail.after previous) = .ok (_, _) := rfl
  have no_point : atMethodCall (tail.after previous) = false := by
    apply eq_false_of_ne_true
    intro calls
    obtain ⟨dot, _, _, _, tokens, kind, _, _⟩ := exists_of_atMethodCall calls
    rw [tail.headKind_of_cons tokens, kind] at fit
    cases fit
  rw [Beyond.prepend_nil, methodCall, run_bind_of_ok looked, no_point]
  exact .reaches rfl

theorem shrinks_methodCall : Shrinks (methodCall below) :=
  fun _ _ _ _ run finish => (methodCall_extends.closes run finish).shorter

theorem supplies_methodChain :
    edge.Supplies Token.Kind.encloses (fun _ => True) [.zero] (methodChain below) :=
  supplies_primary.bind_nil
    (fun receiver _ => .whileSome shrinks_methodCall (supplies_methodCall receiver) trivial)
    fun _ => id

theorem supplies_unary :
    edge.Supplies Token.Kind.encloses (fun _ => True) [.zero] (unary below) := by
  intro previous more tail spell fit
  obtain ⟨token, rest, rfl, kind, text, later⟩ := spell.exists_cons
  have looked : peek.run ((tail.prepend spell).after previous) = .ok (token, _) := rfl
  have apart (other : Token.Kind) (different : Filler.zero.kind ≠ other) :
      ((tail.prepend spell).after previous).peek.kind ≠ other := by
    rwa [← kind] at different
  have no_sign : unaryOperator.run ((tail.prepend spell).after previous) =
      .ok (none, (tail.prepend spell).after previous) := by
    rw [unaryOperator, run_bind_of_ok (accept_run_of_ne (apart .minus (by decide))),
      if_neg Bool.false_ne_true, run_bind_of_ok (accept_run_of_ne (apart .not (by decide)))]
    rfl
  rw [unary, run_bind_of_ok looked, run_bind_of_ok no_sign]
  exact supplies_methodChain _ _ _ spell fit

theorem supplies_power :
    edge.Supplies Token.Kind.encloses (fun _ => True) [.zero] (power below) :=
  supplies_unary.bind_nil (fun _ _ => .accept (.pure trivial) (ne_of_fits rfl)) fun _ => id

theorem supplies_chain {operator : Parser (Option BinaryOp)} {operand : Parser Expr}
    [Peels operator] [Operand operand] (operates : edge.Operates operator)
    (supplies : edge.Supplies Token.Kind.encloses (fun _ => True) [.zero] operand) :
    edge.Supplies Token.Kind.encloses (fun _ => True) [.zero] (chain operator operand) := by
  have moves := moves_chainStep operand
  exact supplies.bind_nil (fun first _ => .whileSome (shrinks_chainStep operator operand)
    (supplies_chainStep operates operand first) trivial) fun _ => id

theorem supplies_disjunction :
    edge.Supplies Token.Kind.encloses (fun _ => True) [.zero] (disjunction below) :=
  supplies_chain operates_orOperator <| supplies_chain operates_andOperator <|
    supplies_chain operates_comparisonOperator <| supplies_chain operates_termOperator <|
      supplies_chain operates_factorOperator supplies_power

theorem supplies_expression :
    edge.Supplies Token.Kind.encloses (fun _ => True) [.zero] (expression below) :=
  supplies_disjunction.bind_nil
    (fun _ _ => .peek fun _ => .accept (.pure trivial) (ne_of_fits rfl)) fun _ => id

end Supplies

/-! ## Operands -/

variable (edge) in
/-- What is nested in expressions goes on where it runs out. -/
structure CompletesNested (below below' : Grammar) : Prop where
  expression : edge.CompletesExpr below.expression below'.expression
  power : edge.CompletesExpr below.power below'.power
  unary : edge.CompletesExpr below.unary below'.unary
  tracks : ∀ seam : Seam, seam.TracksNested below' below'

section Expressions

variable {below below' : Grammar} [below.Orderly] [below'.Orderly] [below.Deepens below']
  (nested : edge.CompletesNested below below')

include nested

omit [below.Orderly] [below.Deepens below'] in
theorem stable_expression : edge.Stable below'.expression :=
  .of_tracks_expr fun seam => (nested.tracks seam).expression

/-- Items are closed by the mark that was asked for. -/
theorem completes_items (close : Filler) (wanted : Wanted) (ends : close.kind.endsOperand = true)
    (encloses : close.kind.encloses = true) :
    edge.Completes Token.Kind.encloses (fun _ => True) [close] (items below close.kind wanted)
      (items below' close.kind wanted) := by
  have written : close.kind ≠ .unterminatedString := by
    intro kind
    rw [kind] at ends
    cases ends
  have closing (values : List Expr) : edge.Completes Token.Kind.encloses (fun _ => True) [close]
      (expect close.kind wanted >>= fun token => pure (values, token.span))
      (expect close.kind wanted >>= fun token => pure (values, token.span)) :=
    .expect close (fun _ _ => .pure trivial) (.nil (fun _ => id) written)
  have no_comma (head : Token.Kind) (fit : head.encloses = true) : head ≠ .comma :=
    ne_of_fits rfl head fit
  have values := Completes.separated (fun _ : List Expr => [Filler.zero])
    (fun _ => stable_expression nested) (fun _ => nested.expression) (fun _ _ _ => rfl) no_comma
  constructor
  · intro cursor holds inside
    apply CompletesAt.peekKind inside
    split
    · exact (closing []).inside cursor holds inside
    · exact .bind (.separated fun _ => stable_expression nested) holds
        (values.inside cursor holds inside) (fun values after _ => (closing values).inside after)
        (fun values _ => (closing values).supplies) fun _ _ => encloses
  · intro previous more tail spell fit
    have looked : peekKind.run ((tail.prepend spell).after previous) =
        .ok ((tail.prepend spell).headKind, (tail.prepend spell).after previous) := rfl
    rw [Beyond.headKind_prepend] at looked
    have whole := (closing []).supplies previous more tail spell fit
    rw [items, run_bind_of_ok looked]
    simpa only [Filler.lead, if_true, pure_bind] using whole

omit nested [below.Orderly] [below'.Orderly] [below.Deepens below'] in
theorem completesAt_constant {token : Token} {rest : List Token}
    (tokens : cursor.rest = token :: rest) (written : token.kind ≠ .unterminatedString) (value : Literal) :
    edge.CompletesAt Token.Kind.encloses (fun _ => True) (constant value) (constant value) cursor :=
  .advance tokens <| .pure trivial fun at_edge _ fit =>
    joinsTo_of_previous at_edge rfl (Token.Kind.joins_of_encloses written fit)

theorem completesAt_nameOrCall {token : Token} {rest : List Token} (holds : edge.Holds cursor)
    (tokens : cursor.rest = token :: rest) (kind : token.kind = .identifier) :
    edge.CompletesAt Token.Kind.encloses (fun _ => True) (nameOrCall below) (nameOrCall below')
      cursor := by
  have args := completes_items nested .parenClose (.mark ")" "after arguments") rfl rfl
  refine .advance tokens ?_
  refine (Completes.accept (args.map fun _ => id) (.pure trivial) ?_ ?_).after holds tokens ?_
  · exact fun _ _ => rfl
  · exact ne_of_fits rfl
  · exact .nil (fun _ => id) (by rw [kind]; decide)

theorem completesAt_group {token : Token} {rest : List Token} (holds : edge.Holds cursor)
    (tokens : cursor.rest = token :: rest) (kind : token.kind = .parenOpen) :
    edge.CompletesAt Token.Kind.encloses (fun _ => True) (group below) (group below') cursor := by
  refine .advance tokens ?_
  refine (nested.expression.bind (stable_expression nested)
    (fun inner => .expect .parenClose (fun _ _ => .pure trivial) (.nil (fun _ => id) (by decide)))
    fun _ _ => rfl).after holds tokens ?_
  rw [kind]
  exact fun _ _ => rfl

theorem completesAt_listLiteral {token : Token} {rest : List Token} (holds : edge.Holds cursor)
    (tokens : cursor.rest = token :: rest) (kind : token.kind = .bracketOpen) :
    edge.CompletesAt Token.Kind.encloses (fun _ => True) (listLiteral below) (listLiteral below')
      cursor := by
  refine .advance tokens ?_
  refine ((completes_items nested .bracketClose _ rfl rfl).map fun _ => id).after holds tokens ?_
  rw [kind]
  exact fun _ _ => rfl

theorem completesAt_setLiteral {token : Token} {rest : List Token} (holds : edge.Holds cursor)
    (tokens : cursor.rest = token :: rest) (kind : token.kind = .braceOpen) :
    edge.CompletesAt Token.Kind.encloses (fun _ => True) (setLiteral below) (setLiteral below')
      cursor := by
  refine .advance tokens ?_
  refine ((completes_items nested .braceClose _ rfl rfl).map fun _ => id).after holds tokens ?_
  rw [kind]
  exact fun _ _ => rfl

theorem completes_primary : edge.CompletesExpr (primary below) (primary below') where
  inside cursor holds inside := by
    obtain ⟨token, rest, tokens⟩ := List.exists_cons_of_ne_nil inside
    have head : cursor.peek = token := Cursor.peek_of_rest_eq_cons tokens
    have written {kind : Token.Kind} (same : cursor.peek.kind = kind)
        (other : kind ≠ .unterminatedString) : token.kind ≠ .unterminatedString := by
      rwa [← head, same]
    apply CompletesAt.peek inside
    split
    next same => exact completesAt_constant tokens (written same (by decide)) _
    next same =>
      split
      · exact completesAt_constant tokens (written same (by decide)) _
      · exact .refuse holds inside _
    next same => exact completesAt_constant tokens (written same (by decide)) _
    next same => exact completesAt_constant tokens (written same (by decide)) _
    next same => exact completesAt_constant tokens (written same (by decide)) _
    next same => exact completesAt_constant tokens (written same (by decide)) _
    next same => exact completesAt_nameOrCall nested holds tokens (head ▸ same)
    next same => exact completesAt_group nested holds tokens (head ▸ same)
    next same => exact completesAt_listLiteral nested holds tokens (head ▸ same)
    next same => exact completesAt_setLiteral nested holds tokens (head ▸ same)
    next => exact .refuse holds inside _
  supplies := supplies_primary

theorem completesAt_methodCall (holds : edge.Holds cursor) (inside : cursor.rest ≠ [])
    (receiver : Expr) :
    edge.CompletesAt Token.Kind.encloses (fun _ => True) (methodCall below receiver)
      (methodCall below' receiver) cursor := by
  refine .test (fun beyond joins => ?_) (fun calls => ?_) fun _ => .of_ok rfl inside
  · have still : (edge.seam beyond).Still cursor (cursor.onward beyond) :=
      ⟨holds.follows joins, .inl inside⟩
    exact still.startsMethodCall_eq.symm
  · obtain ⟨dot, name, mark, rest, tokens, _, _, mark_kind⟩ := exists_of_atMethodCall calls
    have args := completes_items nested .parenClose (.mark ")" "after method arguments") rfl rfl
    refine .advance tokens (.advance rfl (.advance rfl ?_))
    refine (args.map fun _ => id).after ((holds.take tokens).take rfl) rfl ?_
    rw [mark_kind]
    exact fun _ _ => rfl

omit [below.Orderly] [below.Deepens below'] in
theorem stable_methodCall (receiver : Expr) : edge.Stable (methodCall below' receiver) := by
  intro cursor value next beyond holds run before joins
  have same : (edge.seam beyond).SameExpr receiver receiver := rfl
  have tracks := Seam.tracks_methodCall (nested.tracks (edge.seam beyond)) same
  refine run_eq_of_agree (tracks _ _ (holds.follows joins)) (fun call call' same => ?_) run before
  cases same with
  | some same => rw [eq_of_sameExpr same]
  | none => rfl

theorem completes_methodChain : edge.CompletesExpr (methodChain below) (methodChain below') := by
  refine .bind_nil ?_ (completes_primary nested) (fun receiver => ?_) fun _ => id
  · exact .of_tracks_expr fun seam => Seam.tracks_primary (nested.tracks seam)
  refine .whileSome shrinks_methodCall shrinks_methodCall (stable_methodCall nested) ?_
    supplies_methodCall receiver
  exact fun receiver cursor holds inside => completesAt_methodCall nested holds inside receiver

theorem completes_unary : edge.CompletesExpr (unary below) (unary below') where
  inside cursor holds inside := by
    refine .peek inside (.operator operates_unaryOperator holds inside ?_ ?_)
    · exact fun op after after_holds joins => nested.unary.operand after_holds joins
    · exact (completes_methodChain nested).inside cursor holds inside
  supplies := supplies_unary

theorem completes_power : edge.CompletesExpr (power below) (power below') := by
  refine .bind_nil ?_ (completes_unary nested) (fun base => ?_) fun _ => id
  · exact .of_tracks_expr fun seam => Seam.tracks_unary (nested.tracks seam)
  refine .accept (nested.power.map fun _ => id) (.pure trivial) ?_ ?_
  · exact fun _ _ => rfl
  · exact ne_of_fits rfl

theorem completes_factor : edge.CompletesExpr (factor below) (factor below') :=
  .chain operates_factorOperator
    (.of_tracks_expr fun seam => Seam.tracks_power (nested.tracks seam)) (completes_power nested)

theorem completes_term : edge.CompletesExpr (term below) (term below') :=
  .chain operates_termOperator
    (.of_tracks_expr fun seam => Seam.tracks_factor (nested.tracks seam)) (completes_factor nested)

theorem completes_comparison : edge.CompletesExpr (comparison below) (comparison below') :=
  .chain operates_comparisonOperator
    (.of_tracks_expr fun seam => Seam.tracks_term (nested.tracks seam)) (completes_term nested)

theorem completes_conjunction : edge.CompletesExpr (conjunction below) (conjunction below') :=
  .chain operates_andOperator
    (.of_tracks_expr fun seam => Seam.tracks_comparison (nested.tracks seam))
    (completes_comparison nested)

theorem completes_disjunction : edge.CompletesExpr (disjunction below) (disjunction below') :=
  .chain operates_orOperator
    (.of_tracks_expr fun seam => Seam.tracks_conjunction (nested.tracks seam))
    (completes_conjunction nested)

/-- What stands in front of `of` is looked at only after what stands behind it is there. -/
theorem completesAt_misplacedOf {mark : Token} {rest : List Token} (holds : edge.Holds cursor)
    (tokens : cursor.rest = mark :: rest) (kind : mark.kind = .keyword .of) :
    edge.CompletesAt Token.Kind.encloses (fun _ => True)
      (disjunction below >>= fun _ => (complain mark .misplacedOf : Parser Expr))
      (disjunction below' >>= fun _ => complain mark .misplacedOf)
      { cursor with previous := some mark, rest } := by
  have inside : mark ∈ edge.tokens := holds.inside mark (by simp [tokens])
  have receiver := (completes_disjunction nested).after holds tokens
    (by rw [kind]; exact fun _ _ => rfl)
  have complaint : edge.Supplies Token.Kind.encloses (fun _ => True) []
      (complain mark .misplacedOf : Parser Expr) :=
    fun _ _ _ _ _ => .misplaced inside kind
  refine .bind_nil ?_ (holds.take tokens) receiver ?_ (fun _ _ => complaint) fun _ => id
  · exact .of_tracks_expr fun seam => Seam.tracks_disjunction (nested.tracks seam)
  · exact fun _ _ _ _ _ => .of_error rfl inside rfl

theorem completes_expression : edge.CompletesExpr (expression below) (expression below') := by
  refine .bind_nil ?_ (completes_disjunction nested) (fun value => ?_) fun _ => id
  · exact .of_tracks_expr fun seam => Seam.tracks_disjunction (nested.tracks seam)
  constructor
  · intro cursor holds inside
    refine .peek inside (.accept inside (fun mark rest tokens kind => ?_) (.of_ok rfl inside))
    have receiver := (completes_disjunction nested).after holds tokens
      (by rw [kind]; exact fun _ _ => rfl)
    rw [Cursor.peek_of_rest_eq_cons tokens]
    cases value with
    | call name args span => exact receiver.map fun _ => id
    | _ => exact completesAt_misplacedOf nested holds tokens kind
  · exact .peek fun _ => .accept (.pure trivial) (ne_of_fits rfl)

end Expressions

end Edge
end DotScript
