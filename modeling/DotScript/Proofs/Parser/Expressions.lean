import DotScript.Parser.Program
import DotScript.Proofs.Parser.Reading

/-!
# Canonical expressions are read back

Each level of expressions has its parser, and each mark a rank: the tightest level at which it would
go on with an expression before it.  An expression is read by the parser of its own level as long as
the rank of what follows is lower.  A parser of a looser level reads it as well, and operands in
parentheses are read at every level; levels whose operators group to the left are loops, which take
the left operand apart into their turns.
-/

namespace DotScript

/-! ## How expressions begin -/

/-- Whether an operand without a sign may begin with a token. -/
def startsOperand : Token.Kind → Bool
  | .int | .float | .string | .identifier | .parenOpen | .bracketOpen | .braceOpen => true
  | .keyword .trueWord | .keyword .falseWord | .keyword .noneWord => true
  | _ => false

/-- Whether an expression may begin with a token. -/
def startsExpression (kind : Token.Kind) : Bool :=
  startsOperand kind || kind = .minus || kind = .not

/-- The marks begin like an expression, also after a parenthesis. -/
structure Opens (marks : List Mark) : Prop where
  first : startsExpression (headKind marks)
  second : headKind marks = .parenOpen → startsExpression (headKind marks.tail)

theorem headKind_append {marks : List Mark} (more : List Mark)
    (starts : startsExpression (headKind marks)) : headKind (marks ++ more) = headKind marks := by
  refine headKind_append_of_ne_nil more ?_
  rintro rfl
  cases starts

namespace Opens

variable {marks : List Mark}

theorem append (opens : Opens marks) (more : List Mark) : Opens (marks ++ more) := by
  cases marks with
  | nil => cases opens.first
  | cons mark marks =>
      refine ⟨opens.first, fun open_ => ?_⟩
      have second := opens.second open_
      exact (headKind_append more second).symm ▸ second

theorem enclose (opens : Opens marks) (loose : Bool) : Opens (enclose loose marks) := by
  cases loose with
  | false => exact opens
  | true => exact ⟨rfl, fun _ => (headKind_append _ opens.first).symm ▸ opens.first⟩

end Opens

theorem Literal.mark_startsOperand (value : Literal) : startsOperand value.mark.kind := by
  cases value with
  | bool value => cases value <;> rfl
  | _ => rfl

theorem Literal.mark_ne_parenOpen (value : Literal) : value.mark.kind ≠ .parenOpen := by
  cases value with
  | bool value => cases value <;> decide
  | _ => exact fun same => Token.Kind.noConfusion same

theorem Opens.of_ne_parenOpen {mark : Mark} {marks : List Mark}
    (starts : startsExpression mark.kind) (not_paren : mark.kind ≠ .parenOpen) :
    Opens (mark :: marks) :=
  ⟨starts, fun paren => (not_paren paren).elim⟩

/-- The marks of an expression begin like one. -/
theorem Expr.marks_opens (expr : Expr) : Opens expr.marks := by
  cases expr with
  | literal value span =>
      refine .of_ne_parenOpen ?_ value.mark_ne_parenOpen
      simp [startsExpression, value.mark_startsOperand]
  | «variable» name span => exact .of_ne_parenOpen rfl fun same => Token.Kind.noConfusion same
  | binary op left right span =>
      rw [Expr.marks]
      exact (left.marks_opens.enclose _).append _
  | unary op operand span =>
      rw [Expr.marks]
      cases op with
      | negate => exact .of_ne_parenOpen rfl (by decide)
      | not => exact .of_ne_parenOpen rfl (by decide)
  | call name args span => exact .of_ne_parenOpen rfl fun same => Token.Kind.noConfusion same
  | method receiver name args span =>
      rw [Expr.marks]
      exact (receiver.marks_opens.enclose _).append _
  | list items span => exact .of_ne_parenOpen rfl (by decide)
  | set items span => exact .of_ne_parenOpen rfl (by decide)

theorem startsOperand_enclose {marks : List Mark} {loose : Bool}
    (starts : ¬ loose → startsOperand (headKind marks)) :
    startsOperand (headKind (enclose loose marks)) := by
  cases loose with
  | false => exact starts (by simp)
  | true => rfl

/-- An expression that is as tight as a method call does not begin with a sign. -/
theorem Expr.marks_startsOperand : (expr : Expr) → 8 ≤ expr.level →
    startsOperand (headKind expr.marks)
  | .literal value _, _ => value.mark_startsOperand
  | .variable _ _, _ => rfl
  | .binary op _ _ _, tight => by cases op <;> simp [Expr.level, BinaryOp.level] at tight
  | .unary _ _ _, tight => by simp [Expr.level] at tight
  | .call _ _ _, _ => rfl
  | .method receiver _ _ _, _ => by
      have starts : startsOperand (headKind (enclose (receiver.level < 8) receiver.marks)) :=
        startsOperand_enclose fun tight => receiver.marks_startsOperand (by simpa using tight)
      rw [Expr.marks, headKind_append _ (by simp [startsExpression, starts])]
      exact starts
  | .list _ _, _ => rfl
  | .set _ _, _ => rfl

theorem ne_sign_of_startsOperand {kind : Token.Kind} (starts : startsOperand kind) :
    kind ≠ .minus ∧ kind ≠ .not := by
  constructor <;> rintro rfl <;> cases starts

/-! ## What goes on with an expression -/

/-- The tightest level at which a token would go on with an expression before it. -/
def Token.Kind.rank : Token.Kind → Nat
  | .or => 1
  | .and => 2
  | .equalEqual | .bangEqual | .less | .lessEqual | .greater | .greaterEqual => 3
  | .keyword .is | .keyword .points | .not => 3
  | .plus | .minus => 4
  | .star | .slash | .percent => 5
  | .caret => 6
  | .identifier | .parenOpen | .keyword .of => 9
  | _ => 0

/-- The tightest level at which the first mark would go on with an expression before it. -/
def headRank : List Mark → Nat
  | [] => 0
  | .methodDot :: _ => 8
  | mark :: _ => mark.kind.rank

theorem rank_headKind_le (marks : List Mark) : (headKind marks).rank ≤ headRank marks := by
  cases marks with
  | nil => exact Nat.le_refl _
  | cons mark marks =>
      cases mark with
      | methodDot => exact Nat.zero_le _
      | _ => exact Nat.le_refl _

theorem headRank_eq_rank {marks : List Mark} {kind : Token.Kind} (same : headKind marks = kind)
    (not_dot : kind ≠ .dot) : headRank marks = kind.rank := by
  subst same
  cases marks with
  | nil => rfl
  | cons mark marks =>
      cases mark with
      | methodDot => exact (not_dot rfl).elim
      | _ => rfl

/-- A token that would go on at some level is not the first one of marks of lower rank. -/
theorem headKind_ne {marks : List Mark} {level : Nat} {kind : Token.Kind}
    (ends : headRank marks < level) (goes_on : level ≤ kind.rank) : headKind marks ≠ kind := by
  rintro rfl
  have := rank_headKind_le marks
  omega

theorem headRank_marks (op : BinaryOp) (more : List Mark) :
    headRank (op.marks ++ more) = op.level := by
  cases op <;> rfl

theorem BinaryOp.level_bounds (op : BinaryOp) : 1 ≤ op.level ∧ op.level ≤ 6 := by
  cases op <;> decide

theorem Expr.level_bounds (expr : Expr) : 1 ≤ expr.level ∧ expr.level ≤ 9 := by
  cases expr with
  | binary op left right span =>
      have bounds := op.level_bounds
      simp only [Expr.level]
      omega
  | _ => simp [Expr.level]

theorem Expr.erase_withSpan (expr : Expr) (span : Span) :
    (expr.withSpan span).erase = expr.erase := by
  cases expr <;> simp [Expr.withSpan, Expr.erase]

namespace Parser

/-- The operators of a level. -/
def operatorAt : Nat → Parser (Option BinaryOp)
  | 1 => orOperator
  | 2 => andOperator
  | 3 => comparisonOperator
  | 4 => termOperator
  | _ => factorOperator

/-- Every operator but that of powers is read at its level. -/
theorem operatorAt_reads (op : BinaryOp) (more : List Mark) (chained : op ≠ .pow) :
    (operatorAt op.level).Reads (op.marks ++ more) more (· = some op) := by
  cases op with
  | pow => exact (chained rfl).elim
  | or | and | add | mul =>
      refine .bind_eq (.accept rfl) ?_
      exact .pure rfl
  | sub | div =>
      refine .bind_eq (.accept_other nofun) ?_
      refine .bind_eq (.accept rfl) ?_
      exact .pure rfl
  | mod =>
      refine .bind_eq (.accept_other nofun) ?_
      refine .bind_eq (.accept_other nofun) ?_
      refine .bind_eq (.accept rfl) ?_
      exact .pure rfl
  | notIdentical =>
      refine .bind_eq .peekKind ?_
      refine .bind_eq .peekNextKind ?_
      refine .bind .advance fun _ _ => ?_
      exact .bind .advance fun _ _ => .pure rfl
  | equal | notEqual | less | lessEqual | greater | greaterEqual | identical =>
      refine .bind_eq .peekKind ?_
      exact .bind .advance fun _ _ => .pure rfl

/-- Two operands that multiply without an operator have a name or a parenthesis between them. -/
theorem atImplicitProduct_eq_false {cursor : Cursor} {marks : List Mark}
    (at_marks : cursor.At marks) (ends : headRank marks < 9) :
    atImplicitProduct cursor = false := by
  have no_paren : cursor.peek.kind ≠ .parenOpen := by
    rw [at_marks.peek_kind]
    exact headKind_ne ends (Nat.le_refl _)
  have no_name : cursor.peek.kind ≠ .identifier := by
    rw [at_marks.peek_kind]
    exact headKind_ne ends (Nat.le_refl _)
  rw [atImplicitProduct]
  cases cursor.previous with
  | none => rfl
  | some previous => simp [no_paren, no_name]

theorem comparisonOperator_stops {marks : List Mark} (ends : headRank marks < 3) :
    comparisonOperator.Reads marks marks (· = none) := by
  have loose : (headKind marks).rank < 3 := Nat.lt_of_le_of_lt (rank_headKind_le marks) ends
  refine .bind_eq .peekKind ?_
  split
  case h_10 => exact .pure rfl
  all_goals
    rename_i same
    rw [same] at loose
    exact absurd loose (by decide)

/-- There is no operator of a level in front of marks of lower rank. -/
theorem operatorAt_stops {level : Nat} {marks : List Mark} (chained : level ≤ 5)
    (ends : headRank marks < level) : (operatorAt level).Reads marks marks (· = none) := by
  have other {kind : Token.Kind} (goes_on : level ≤ kind.rank) :
      (accept kind).Reads marks marks (· = false) :=
    .accept_other (headKind_ne ends goes_on)
  match level with
  | 1 =>
      refine .bind_eq (other (by decide)) ?_
      exact .pure rfl
  | 2 =>
      refine .bind_eq (other (by decide)) ?_
      exact .pure rfl
  | 3 => exact comparisonOperator_stops ends
  | 4 =>
      refine .bind_eq (other (by decide)) ?_
      refine .bind_eq (other (by decide)) ?_
      exact .pure rfl
  | 5 =>
      refine .bind_eq (other (by decide)) ?_
      refine .bind_eq (other (by decide)) ?_
      refine .bind_eq (other (by decide)) ?_
      refine .bind .get fun cursor at_marks => ?_
      rw [atImplicitProduct_eq_false at_marks (by omega)]
      exact .pure rfl

theorem unaryOperator_reads (op : UnaryOp) (more : List Mark) :
    unaryOperator.Reads (op.mark :: more) more (· = some op) := by
  cases op with
  | negate =>
      refine .bind_eq (.accept rfl) ?_
      exact .pure rfl
  | not =>
      refine .bind_eq (.accept_other nofun) ?_
      refine .bind_eq (.accept rfl) ?_
      exact .pure rfl

theorem unaryOperator_stops {marks : List Mark} (not_minus : headKind marks ≠ .minus)
    (not_not : headKind marks ≠ .not) : unaryOperator.Reads marks marks (· = none) := by
  refine .bind_eq (.accept_other not_minus) ?_
  refine .bind_eq (.accept_other not_not) ?_
  exact .pure rfl

/-! ## Levels -/

/-- The parser for expressions of a level. -/
def level (below : Grammar) : Nat → Parser Expr
  | 2 => conjunction below
  | 3 => comparison below
  | 4 => term below
  | 5 => factor below
  | 6 => power below
  | 7 => unary below
  | 8 => methodChain below
  | 9 => primary below
  | _ => disjunction below

/-- One more turn of the loop of a level: an operator with its right operand, or a method call. -/
def stepAt (below : Grammar) (loop : Nat) (left : Expr) : Parser (Option Expr) :=
  if loop = 8 then methodCall below left
  else do
    match ← operatorAt loop with
    | some op => return some (Expr.ofBinary op left (← level below (loop + 1)))
    | none => return none

/-- Whether the parser of a level is a loop. -/
def IsLoop (loop : Nat) : Prop :=
  (1 ≤ loop ∧ loop ≤ 5) ∨ loop = 8

theorem level_eq_whileSome (below : Grammar) {loop : Nat} (is_loop : IsLoop loop) :
    level below loop = level below (loop + 1) >>= whileSome (stepAt below loop) := by
  match loop, is_loop with
  | 1, _ => rfl
  | 2, _ => rfl
  | 3, _ => rfl
  | 4, _ => rfl
  | 5, _ => rfl
  | 8, _ => rfl

theorem atMethodCall_eq_false {cursor : Cursor} {marks : List Mark}
    (at_marks : cursor.At marks) (ends : headRank marks < 8) : atMethodCall cursor = false := by
  have spells := at_marks.spells
  rw [atMethodCall]
  split
  · rename_i dot name mark rest tokens
    rw [tokens] at spells
    cases marks with
    | nil => exact spells.elim
    | cons first marks =>
        obtain ⟨fits, touches, -⟩ := spells
        by_cases is_dot : dot.kind = .dot
        · have other : first ≠ .methodDot := by
            rintro rfl
            exact absurd ends (by simp [headRank])
          have apart := mt (touches (fits.1 ▸ is_dot)).1 other
          simp only [Token.touches] at apart
          simp_all
        · simp [is_dot]
  · rfl

/-- A loop stops in front of marks of lower rank. -/
theorem stepAt_stops (below : Grammar) {loop : Nat} {marks : List Mark} (is_loop : IsLoop loop)
    (ends : headRank marks < loop) (left : Expr) :
    (stepAt below loop left).Reads marks marks (· = none) := by
  rw [stepAt]
  split
  case isTrue called =>
      refine .bind .get fun cursor at_marks => ?_
      rw [atMethodCall_eq_false at_marks (called ▸ ends)]
      exact .pure rfl
  case isFalse not_called =>
      have chained : loop ≤ 5 := (is_loop.resolve_right not_called).2
      refine .bind_eq (operatorAt_stops chained ends) ?_
      exact .pure rfl

/-- A first operand and some turns of the loop of a level lead from the marks `before` to the marks
`after`. -/
def Along (below : Grammar) (loop : Nat) (before after : List Mark) (result : Expr → Prop) : Prop :=
  ∃ middle property, (level below (loop + 1)).Reads before middle property ∧
    ∀ value, property value → Loops (stepAt below loop) value middle after result

namespace Along

variable {below : Grammar} {loop : Nat} {before middle after : List Mark}
  {property result : Expr → Prop}

theorem of_reads (reads : (level below (loop + 1)).Reads before after result) :
    Along below loop before after result :=
  ⟨after, result, reads, fun _ holds => .refl holds⟩

theorem tail (along : Along below loop before middle property)
    (last : ∀ value, property value →
      (stepAt below loop value).Reads middle after
        fun answer => ∃ next, answer = some next ∧ result next)
    (shorter : after.length < middle.length) : Along below loop before after result := by
  obtain ⟨start, first, reads, loops⟩ := along
  exact ⟨start, first, reads, fun value holds => (loops value holds).tail last shorter⟩

/-- The loop of a level reads what its turns read, if nothing goes on with it. -/
theorem reads (along : Along below loop before after result) (is_loop : IsLoop loop)
    (ends : headRank after < loop) : (level below loop).Reads before after result := by
  obtain ⟨start, first, reads, loops⟩ := along
  rw [level_eq_whileSome below is_loop]
  refine .bind reads fun value holds => ?_
  exact (loops value holds).whileSome fun left _ => stepAt_stops below is_loop ends left

end Along

/-- What a level reads is read by the next looser level, if nothing goes on with it. -/
theorem level_reads_of_succ {below : Grammar} {loose : Nat} {before after : List Mark}
    {result : Expr → Prop} (reads : (level below (loose + 1)).Reads before after result)
    (bound : loose ≤ 8) (ends : headRank after < loose)
    (unsigned : loose = 7 → headKind before ≠ .minus ∧ headKind before ≠ .not) :
    (level below loose).Reads before after result := by
  by_cases is_loop : IsLoop loose
  · exact (Along.of_reads reads).reads is_loop ends
  · have last : loose = 6 ∨ loose = 7 := by
      simp only [IsLoop] at is_loop
      omega
    rcases last with rfl | rfl
    · refine .bind reads fun base holds => ?_
      refine .bind_eq (.accept_other (headKind_ne ends (Nat.le_refl _))) ?_
      exact .pure holds
    · refine .bind .peek_any fun start _ => ?_
      exact .bind_eq (unaryOperator_stops (unsigned rfl).1 (unsigned rfl).2) reads

/-- What a level reads is read by all looser levels, if nothing goes on with it. -/
theorem level_reads_of_le {below : Grammar} {loose tight : Nat} {before after : List Mark}
    {result : Expr → Prop} (reads : (level below tight).Reads before after result)
    (looser : loose ≤ tight) (bound : tight ≤ 9) (ends : headRank after < loose)
    (unsigned : 8 ≤ tight → startsOperand (headKind before)) :
    (level below loose).Reads before after result := by
  obtain ⟨distance, rfl⟩ := Nat.exists_eq_add_of_le looser
  induction distance with
  | zero => exact reads
  | succ distance ih =>
      refine ih ?_ (by omega) (by omega) fun tight => unsigned (by omega)
      refine level_reads_of_succ reads (by omega) (by omega) fun is_unary => ?_
      exact ne_sign_of_startsOperand (unsigned (by omega))

/-! ## Expressions -/

/-- An expression is read at its own level, and by the turns of a loop of this level also in front
of one more operator of the level. -/
structure Readable (expr : Expr) : Prop where
  reads : ∀ {levels : Nat} {more : List Mark}, expr.nesting ≤ levels → headRank more < expr.level →
    (level (grammar levels) expr.level).Reads (expr.marks ++ more) more (·.erase = expr.erase)
  along : ∀ {levels : Nat} {more : List Mark}, IsLoop expr.level → expr.nesting ≤ levels →
    headRank more ≤ expr.level →
    Along (grammar levels) expr.level (expr.marks ++ more) more (·.erase = expr.erase)

namespace Readable

variable {expr : Expr} {levels : Nat} {more : List Mark}

theorem of_along (is_loop : IsLoop expr.level)
    (along : ∀ {levels : Nat} {more : List Mark}, expr.nesting ≤ levels →
      headRank more ≤ expr.level →
      Along (grammar levels) expr.level (expr.marks ++ more) more (·.erase = expr.erase)) :
    Readable expr where
  reads fits ends := (along fits (Nat.le_of_lt ends)).reads is_loop ends
  along _ := along

theorem of_reads (single : ¬ IsLoop expr.level)
    (reads : ∀ {levels : Nat} {more : List Mark}, expr.nesting ≤ levels →
      headRank more < expr.level →
      (level (grammar levels) expr.level).Reads (expr.marks ++ more) more
        (·.erase = expr.erase)) : Readable expr where
  reads := reads
  along is_loop := (single is_loop).elim

/-- An expression is read at every looser level. -/
theorem reads_of_le (readable : Readable expr) {loose : Nat} (looser : loose ≤ expr.level)
    (fits : expr.nesting ≤ levels) (ends : headRank more < loose) :
    (level (grammar levels) loose).Reads (expr.marks ++ more) more (·.erase = expr.erase) := by
  refine level_reads_of_le (readable.reads fits (by omega)) looser expr.level_bounds.2 ends ?_
  intro tight
  rw [headKind_append _ expr.marks_opens.first]
  exact expr.marks_startsOperand tight

/-- An expression is read one level of nesting deeper wherever nothing goes on with it. -/
theorem expression (readable : Readable expr) (fits : expr.nesting + 1 ≤ levels)
    (ends : headRank more = 0) :
    (grammar levels).expression.Reads (expr.marks ++ more) more (·.erase = expr.erase) := by
  obtain ⟨deeper, rfl⟩ : ∃ deeper, levels = deeper + 1 := ⟨levels - 1, by omega⟩
  refine .bind (readable.reads_of_le expr.level_bounds.1 (by omega) (by omega)) fun value same => ?_
  refine .bind .peek_any fun mark _ => ?_
  have positive : headRank more < 1 := by omega
  have no_receiver : headKind more ≠ .keyword .of := headKind_ne positive (by decide)
  refine .bind_eq (.accept_other no_receiver) ?_
  exact .pure same

/-- An expression in parentheses is read as an operand. -/
theorem group (readable : Readable expr) (fits : expr.nesting + 1 ≤ levels) :
    (primary (grammar levels)).Reads (enclose true expr.marks ++ more) more
      (·.erase = expr.erase) := by
  simp only [enclose, if_true, List.cons_append, List.append_assoc]
  refine .bind .peek fun token fits => ?_
  rw [fits.1]
  refine .bind .advance fun start _ => ?_
  refine .bind (readable.expression ‹_› rfl) fun inner same => ?_
  refine .bind (.expect rfl _) fun close _ => ?_
  exact .pure ((inner.erase_withSpan _).trans same)

/-- An expression is read in the place of an operand, in parentheses if it is too loose for it. -/
theorem operand (readable : Readable expr) {place : Nat} (bound : place ≤ 9)
    (fits : enclosedNesting (expr.level < place) expr.nesting ≤ levels)
    (ends : headRank more < place) :
    (level (grammar levels) place).Reads (enclose (expr.level < place) expr.marks ++ more) more
      (·.erase = expr.erase) := by
  by_cases loose : expr.level < place
  · simp only [loose, decide_true, enclosedNesting, if_true] at fits ⊢
    have reads : (level (grammar levels) 9).Reads (enclose true expr.marks ++ more) more
        (·.erase = expr.erase) := readable.group fits
    exact level_reads_of_le reads bound (Nat.le_refl _) ends fun _ => rfl
  · simp only [loose, decide_false, enclosedNesting, enclose] at fits ⊢
    exact readable.reads_of_le (Nat.le_of_not_lt loose) fits ends

/-- An expression is read in the place of the left operand of a loop, by turns of the loop if it is
of the same level. -/
theorem along_operand (readable : Readable expr) {loop : Nat} (is_loop : IsLoop loop)
    (fits : enclosedNesting (expr.level < loop) expr.nesting ≤ levels)
    (ends : headRank more ≤ loop) :
    Along (grammar levels) loop (enclose (expr.level < loop) expr.marks ++ more) more
      (·.erase = expr.erase) := by
  by_cases same : expr.level = loop
  · subst same
    simp only [Nat.lt_irrefl, decide_false, enclosedNesting, enclose] at fits ⊢
    exact readable.along is_loop fits ends
  · have tighter : decide (expr.level < loop) = decide (expr.level < loop + 1) := by
      simp only [decide_eq_decide]
      omega
    have bound : loop + 1 ≤ 9 := by
      simp only [IsLoop] at is_loop
      omega
    rw [tighter] at fits ⊢
    exact .of_reads (readable.operand bound fits (by omega))

end Readable

theorem itemPieces_eq_map (items : List Expr) : itemPieces items = items.map Expr.marks := by
  induction items with
  | nil => rfl
  | cons item rest ih => simp [itemPieces, ih]

theorem eraseItems_eq_map (items : List Expr) : eraseItems items = items.map Expr.erase := by
  induction items with
  | nil => rfl
  | cons item rest ih => simp [eraseItems, ih]

theorem nesting_le_of_mem {items : List Expr} {item : Expr} {levels : Nat} (member : item ∈ items)
    (fits : itemNesting items ≤ levels) : item.nesting + 1 ≤ levels := by
  induction items with
  | nil => cases member
  | cons first rest ih =>
      simp only [itemNesting, Nat.max_le] at fits
      cases member with
      | head => exact fits.1
      | tail _ member => exact ih member fits.2

/-- Expressions with commas between them are read up to the closing mark. -/
theorem items_reads {items : List Expr} {levels : Nat} {more : List Mark} {close : Token.Kind}
    {wanted : Wanted} (readable : ∀ item ∈ items, Readable item)
    (fits : itemNesting items ≤ levels) (closes : close.rank = 0) (not_comma : close ≠ .comma)
    (not_opening : startsExpression close = false) :
    (Parser.items (grammar levels) close wanted).Reads
      (joined (itemPieces items) ++ .fixed close :: more) more
      fun result => eraseItems result.1 = eraseItems items := by
  have closing (values : List Expr) (same : values.map Expr.erase = items.map Expr.erase) :
      (do return (values, (← expect close wanted).span) : Parser (List Expr × Span)).Reads
        (.fixed close :: more) more fun result => eraseItems result.1 = eraseItems items := by
    refine .bind (.expect rfl _) fun token _ => .pure ?_
    simpa only [eraseItems_eq_map] using same
  refine .bind_eq .peekKind ?_
  cases items with
  | nil =>
      have empty : headKind (joined (itemPieces []) ++ .fixed close :: more) = close := rfl
      rw [if_pos empty]
      exact closing [] rfl
  | cons item rest =>
      have opening : headKind (joined (itemPieces (item :: rest)) ++ .fixed close :: more) ≠
          close := by
        simp only [itemPieces, joined, List.append_assoc]
        rw [headKind_append _ item.marks_opens.first]
        rintro rfl
        exact absurd item.marks_opens.first (by simp [not_opening])
      rw [if_neg opening, itemPieces_eq_map]
      refine .bind (separated_reads ?_ (by simp) not_comma) closing
      rintro done next later _ split _ following after
      have member : next ∈ item :: rest := by simp [split]
      have ends : headRank following = 0 := by
        rcases after with rfl | comma
        · exact closes
        · exact headRank_eq_rank comma (by decide)
      exact (readable next member).expression (nesting_le_of_mem member fits) ends

section Constructors

variable {levels : Nat} {more : List Mark} {args items : List Expr}

theorem literal_reads {value : Literal} (is_exact : value.IsExact) (span : Span) :
    (primary (grammar levels)).Reads (value.mark :: more) more
      (·.erase = (Expr.literal value span).erase) := by
  refine .bind .peek fun token fits => ?_
  have kind := fits.1
  cases value with
  | float value => exact is_exact.elim
  | int digits | string text =>
      rw [kind, fits.2]
      exact .bind .advance fun _ _ => .pure rfl
  | bool value =>
      cases value <;> rw [kind] <;> exact .bind .advance fun _ _ => .pure rfl
  | none =>
      rw [kind]
      exact .bind .advance fun _ _ => .pure rfl

theorem variable_reads (name : String) (span : Span) (ends : headRank more < 9) :
    (primary (grammar levels)).Reads (.name name :: more) more
      (·.erase = (Expr.variable name span).erase) := by
  refine .bind .peek fun token fits => ?_
  rw [fits.1]
  refine .bind .advance fun found fits => ?_
  refine .bind_eq (.accept_other (headKind_ne ends (Nat.le_refl _))) ?_
  exact .pure (by simp [Expr.erase, fits.2])

theorem call_reads (name : String) (span : Span) (readable : ∀ arg ∈ args, Readable arg)
    (fits : itemNesting args ≤ levels) :
    (primary (grammar levels)).Reads ((Expr.call name args span).marks ++ more) more
      (·.erase = (Expr.call name args span).erase) := by
  simp only [Expr.marks, List.cons_append, List.append_assoc]
  refine .bind .peek fun token fits => ?_
  rw [fits.1]
  refine .bind .advance fun found fits => ?_
  refine .bind_eq (.accept rfl) ?_
  refine .bind (items_reads readable ‹_› rfl nofun rfl) fun result same => ?_
  exact .pure (by simp [Expr.erase, fits.2, same])

theorem list_reads (span : Span) (readable : ∀ item ∈ items, Readable item)
    (fits : itemNesting items ≤ levels) :
    (primary (grammar levels)).Reads ((Expr.list items span).marks ++ more) more
      (·.erase = (Expr.list items span).erase) := by
  simp only [Expr.marks, List.cons_append, List.append_assoc]
  refine .bind .peek fun token fits => ?_
  rw [fits.1]
  refine .bind .advance fun start _ => ?_
  refine .bind (items_reads readable ‹_› rfl nofun rfl) fun result same => ?_
  exact .pure (by simp [Expr.erase, same])

theorem set_reads (span : Span) (readable : ∀ item ∈ items, Readable item)
    (fits : itemNesting items ≤ levels) :
    (primary (grammar levels)).Reads ((Expr.set items span).marks ++ more) more
      (·.erase = (Expr.set items span).erase) := by
  simp only [Expr.marks, List.cons_append, List.append_assoc]
  refine .bind .peek fun token fits => ?_
  rw [fits.1]
  refine .bind .advance fun start _ => ?_
  refine .bind (items_reads readable ‹_› rfl nofun rfl) fun result same => ?_
  exact .pure (by simp [Expr.erase, same])

/-- The operand of a sign is nested one level deeper. -/
theorem readable_unary {operand : Expr} (op : UnaryOp) (span : Span) (readable : Readable operand) :
    Readable (.unary op operand span) := by
  refine .of_reads (by simp [IsLoop, Expr.level]) fun {levels more} fits ends => ?_
  simp only [Expr.nesting] at fits
  obtain ⟨deeper, rfl⟩ : ∃ deeper, levels = deeper + 1 := ⟨levels - 1, by omega⟩
  simp only [Expr.marks, List.cons_append]
  refine .bind .peek_any fun start _ => ?_
  refine .bind_eq (unaryOperator_reads op _) ?_
  refine .bind (readable.operand (by decide) (Nat.le_of_succ_le_succ fits) ends)
    fun value same => ?_
  exact .pure (by simp [Expr.erase, same])

/-- The exponent of a power is nested one level deeper, and powers group to the right. -/
theorem readable_power {left right : Expr} (span : Span) (left_readable : Readable left)
    (right_readable : Readable right) : Readable (.binary .pow left right span) := by
  refine .of_reads (by simp [IsLoop, Expr.level, BinaryOp.level]) fun {levels more} fits ends => ?_
  simp only [Expr.nesting, BinaryOp.leftLevel, BinaryOp.rightLevel, if_true, Nat.max_le] at fits
  obtain ⟨deeper, rfl⟩ : ∃ deeper, levels = deeper + 1 := ⟨levels - 1, by omega⟩
  simp only [Expr.marks, List.append_assoc]
  refine .bind (left_readable.operand (by decide) fits.1 (Nat.lt_succ_self 6))
    fun base same_base => ?_
  refine .bind_eq (.accept rfl) ?_
  refine .bind (right_readable.operand (by decide) (Nat.le_of_succ_le_succ fits.2) ends)
    fun exponent same_exponent => ?_
  exact .pure (by simp [Expr.ofBinary, Expr.erase, same_base, same_exponent])

/-- The operators of one level group to the left. -/
theorem readable_chained {op : BinaryOp} {left right : Expr} (span : Span) (chained : op ≠ .pow)
    (left_readable : Readable left) (right_readable : Readable right) :
    Readable (.binary op left right span) := by
  have bounds : 1 ≤ op.level ∧ op.level ≤ 5 := by
    cases op <;> first | exact (chained rfl).elim | decide
  have is_loop : IsLoop op.level := .inl bounds
  refine .of_along is_loop fun {levels more} fits ends => ?_
  simp only [Expr.nesting, BinaryOp.leftLevel, BinaryOp.rightLevel, if_neg chained, Nat.add_zero,
    Nat.max_le] at fits
  simp only [Expr.marks, BinaryOp.leftLevel, BinaryOp.rightLevel, if_neg chained,
    List.append_assoc]
  refine (left_readable.along_operand is_loop fits.1 (by simp [headRank_marks])).tail ?_ ?_
  · intro value same_left
    have not_call : op.level ≠ 8 := by omega
    rw [stepAt, if_neg not_call]
    refine .bind_eq (operatorAt_reads op _ chained) ?_
    refine .bind (right_readable.operand (by omega) fits.2 (Nat.lt_succ_of_le ends))
      fun operand same_right => ?_
    exact .pure ⟨_, rfl, by simp [Expr.ofBinary, Expr.erase, same_left, same_right]⟩
  · have written : 0 < op.marks.length := by cases op <;> decide
    simp only [List.length_append]
    omega

theorem atMethodCall_eq_true {cursor : Cursor} {name : String}
    (at_marks : cursor.At (.methodDot :: .name name :: .fixed .parenOpen :: more)) :
    atMethodCall cursor = true := by
  obtain ⟨spells, _⟩ := at_marks
  obtain ⟨previous, rest, finish⟩ := cursor
  match rest, spells with
  | dot :: found :: mark :: rest, ⟨fits_dot, touches, fits_name, _, fits_mark, _⟩ =>
      have touching : dot.touches (found :: mark :: rest) = true := (touches rfl).2 rfl
      have kinds : dot.kind = .dot ∧ mark.kind = .parenOpen := ⟨fits_dot.1, fits_mark.1⟩
      simp only [Token.touches] at touching
      simp_all [atMethodCall]

/-- Method calls follow one another. -/
theorem readable_method {receiver : Expr} (name : String) (span : Span)
    (receiver_readable : Readable receiver) (readable : ∀ arg ∈ args, Readable arg) :
    Readable (.method receiver name args span) := by
  have is_loop : IsLoop 8 := .inr rfl
  refine .of_along is_loop fun {levels more} fits ends => ?_
  simp only [Expr.nesting, Nat.max_le] at fits
  simp only [Expr.marks, List.append_assoc, List.cons_append]
  refine (receiver_readable.along_operand is_loop fits.1 (Nat.le_refl _)).tail ?_ ?_
  · intro value same_receiver
    refine .bind .get fun cursor at_marks => ?_
    rw [atMethodCall_eq_true at_marks]
    refine .bind .advance fun _ _ => ?_
    refine .bind .advance fun found fits_name => ?_
    refine .bind .advance fun _ _ => ?_
    refine .bind (items_reads readable fits.2 rfl nofun rfl) fun result same => ?_
    exact .pure ⟨_, rfl, by simp [Expr.erase, same_receiver, fits_name.2, same]⟩
  · simp only [List.length_cons, List.length_append]
    omega

end Constructors

mutual

/-- Every expression without doubles is read back. -/
theorem readable : (expr : Expr) → expr.IsExact → Readable expr
  | .literal value span, is_exact =>
      .of_reads (by simp [IsLoop, Expr.level]) fun _ _ => literal_reads is_exact span
  | .variable name span, _ =>
      .of_reads (by simp [IsLoop, Expr.level]) fun _ ends => variable_reads name span ends
  | .binary op left right span, ⟨left_exact, right_exact⟩ => by
      have left_readable := readable left left_exact
      have right_readable := readable right right_exact
      by_cases is_power : op = .pow
      · subst is_power
        exact readable_power span left_readable right_readable
      · exact readable_chained span is_power left_readable right_readable
  | .unary op operand span, is_exact => readable_unary op span (readable operand is_exact)
  | .call name args span, is_exact =>
      .of_reads (by simp [IsLoop, Expr.level]) fun fits _ =>
        call_reads name span (readable_items args is_exact) fits
  | .method receiver name args span, ⟨receiver_exact, args_exact⟩ =>
      readable_method name span (readable receiver receiver_exact) (readable_items args args_exact)
  | .list items span, is_exact =>
      .of_reads (by simp [IsLoop, Expr.level]) fun fits _ =>
        list_reads span (readable_items items is_exact) fits
  | .set items span, is_exact =>
      .of_reads (by simp [IsLoop, Expr.level]) fun fits _ =>
        set_reads span (readable_items items is_exact) fits

theorem readable_items : (items : List Expr) → AllExact items → ∀ item ∈ items, Readable item
  | [], _ => nofun
  | first :: rest, ⟨first_exact, rest_exact⟩ =>
      List.forall_mem_cons.2 ⟨readable first first_exact, readable_items rest rest_exact⟩

end

end Parser
end DotScript
