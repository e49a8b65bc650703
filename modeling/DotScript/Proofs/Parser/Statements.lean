import DotScript.Proofs.Parser.Expressions
import DotScript.Proofs.Tree.Layout

/-!
# Canonical programs are read back

Statements are read by the parser that their first mark selects.  A statement that ends with a point
is read whatever follows; after a block a point would be skipped, so no point may follow.  Blocks
are loops over their statements, and what follows a block ends it.
-/

namespace DotScript

/-! ## How statements begin -/

/-- Whether a statement may begin with a token. -/
def startsStatement : Token.Kind → Bool
  | .keyword .var | .keyword .letWord | .keyword .function | .keyword .ifWord => true
  | .keyword .whileWord | .keyword .forWord | .keyword .give | .keyword .pass => true
  | kind => startsExpression kind

theorem startsStatement_of_startsExpression {kind : Token.Kind} (starts : startsExpression kind) :
    startsStatement kind := by
  unfold startsStatement
  split
  case h_9 => exact starts
  all_goals rfl

/-- The marks of a statement that can be written begin like one. -/
theorem Stmt.marks_start {stmt : Stmt} (well_formed : stmt.IsWellFormed) :
    startsStatement (headKind stmt.marks) := by
  cases stmt with
  | expression value span =>
      have starts := value.marks_opens.first
      rw [Stmt.marks, headKind_append _ starts]
      exact startsStatement_of_startsExpression starts
  | choose arms span =>
      cases arms with
      | arm condition body others => rfl
      | otherwise body => exact (well_formed.1 rfl).elim
      | nothing => exact (well_formed.1 rfl).elim
  | _ => rfl

theorem Stmt.marks_ne_nil {stmt : Stmt} (well_formed : stmt.IsWellFormed) : stmt.marks ≠ [] := by
  intro empty
  have starts := marks_start well_formed
  rw [empty] at starts
  cases starts

theorem blockMarks_eq_flatMap (body : List Stmt) : blockMarks body = body.flatMap Stmt.marks := by
  induction body with
  | nil => rfl
  | cons stmt rest ih => simp [blockMarks, ih]

theorem eraseBlock_eq_map (body : List Stmt) : eraseBlock body = body.map Stmt.erase := by
  induction body with
  | nil => rfl
  | cons stmt rest ih => simp [eraseBlock, ih]

theorem isWellFormedBlock_iff (body : List Stmt) :
    IsWellFormedBlock body ↔ ∀ stmt ∈ body, stmt.IsWellFormed := by
  induction body with
  | nil => simp [IsWellFormedBlock]
  | cons stmt rest ih => simp [IsWellFormedBlock, ih]

/-- Where a block goes on or ends there is no point, if there is none after it. -/
theorem headKind_flatMap_ne_dot {body : List Stmt} {after : List Mark}
    (well_formed : ∀ stmt ∈ body, stmt.IsWellFormed) (no_point : headKind after ≠ .dot) :
    headKind (body.flatMap Stmt.marks ++ after) ≠ .dot := by
  cases body with
  | nil => exact no_point
  | cons stmt rest =>
      have first_well_formed := well_formed stmt List.mem_cons_self
      have starts := Stmt.marks_start first_well_formed
      simp only [List.flatMap_cons, List.append_assoc]
      rw [headKind_append_of_ne_nil _ (Stmt.marks_ne_nil first_well_formed)]
      intro point
      rw [point] at starts
      cases starts

namespace Parser

theorem endsArm_eq_false {kind : Token.Kind} (starts : startsStatement kind) :
    endsArm kind = false := by
  unfold endsArm
  split <;> first | cases starts | rfl

theorem closesBlock_eq_false {kind : Token.Kind} (starts : startsStatement kind) :
    closesBlock kind = false := by
  unfold closesBlock
  split <;> first | cases starts | rfl

theorem endsStatement_eq_false {kind : Token.Kind} (starts : startsExpression kind) :
    (kind = .dot || endsStatement kind) = false := by
  unfold endsStatement
  split <;> first | cases starts | skip
  simp only [Bool.or_false, decide_eq_false_iff_not]
  rintro rfl
  cases starts

/-- Parentheses around nothing are no expression. -/
theorem not_emptyParentheses {marks : List Mark} (opens : Opens marks) :
    (headKind marks = .parenOpen && headKind marks.tail = .parenClose) = false := by
  by_cases opened : headKind marks = .parenOpen
  · have second := opens.second opened
    have not_closed : headKind marks.tail ≠ .parenClose := by
      intro closed
      rw [closed] at second
      cases second
    simp [not_closed]
  · simp [opened]

/-! ## Parts of statements -/

/-- A statement is read wherever no point follows it. -/
structure ReadableStmt (stmt : Stmt) : Prop where
  reads : ∀ {levels : Nat} {more : List Mark}, stmt.nesting ≤ levels → headKind more ≠ .dot →
    (statement (grammar levels)).Reads (stmt.marks ++ more) more (·.erase = stmt.erase)

/-- The statements of a block are read with a number of levels left. -/
structure ReadableBlock (levels : Nat) (body : List Stmt) : Prop where
  readable : ∀ stmt ∈ body, ReadableStmt stmt
  well_formed : IsWellFormedBlock body
  fits : blockNesting body ≤ levels

theorem ReadableStmt.nested {stmt : Stmt} {levels : Nat} {more : List Mark}
    (readable : ReadableStmt stmt) (fits : stmt.nesting + 1 ≤ levels)
    (no_point : headKind more ≠ .dot) :
    (grammar levels).statement.Reads (stmt.marks ++ more) more (·.erase = stmt.erase) := by
  obtain ⟨deeper, rfl⟩ : ∃ deeper, levels = deeper + 1 := ⟨levels - 1, by omega⟩
  exact readable.reads (Nat.le_of_succ_le_succ fits) no_point

section Parts

variable {levels : Nat} {more : List Mark}

theorem expression_reads {expr : Expr} (is_exact : expr.IsExact) (fits : expr.nesting + 1 ≤ levels)
    (ends : headRank more = 0) :
    (grammar levels).expression.Reads (expr.marks ++ more) more (·.erase = expr.erase) :=
  (readable expr is_exact).expression fits ends

theorem terminator_reads : terminator.Reads (.fixed .dot :: more) more fun _ => True := by
  refine .bind_eq (.accept rfl) ?_
  exact .pure trivial

/-- The end of the token list ends a statement. -/
theorem terminator_reads_nil : terminator.Reads [] [] fun _ => True := by
  refine .bind_eq (.accept_other nofun) ?_
  refine .bind_eq .peekKind ?_
  exact .pure trivial

theorem skipPoint_reads (no_point : headKind more ≠ .dot) :
    skipPoint.Reads more more fun _ => True :=
  .bind (.accept_other no_point) fun _ _ => .pure trivial

theorem skipPoint_reads_point : skipPoint.Reads (.fixed .dot :: more) more fun _ => True :=
  .bind (.accept rfl) fun _ _ => .pure trivial

theorem nesting_le_of_mem_block {body : List Stmt} {stmt : Stmt} (member : stmt ∈ body)
    (fits : blockNesting body ≤ levels) : stmt.nesting + 1 ≤ levels := by
  induction body with
  | nil => cases member
  | cons first rest ih =>
      simp only [blockNesting, Nat.max_le] at fits
      cases member with
      | head => exact fits.1
      | tail _ member => exact ih member fits.2

/-- The statements of a block are read up to what ends it. -/
theorem block_reads {body : List Stmt} {ends : Token.Kind → Bool}
    (block : ReadableBlock levels body) (ended : ends (headKind more) = true)
    (no_point : headKind more ≠ .dot)
    (goes_on : ∀ kind, startsStatement kind → ends kind = false) :
    (Parser.block (grammar levels) ends).Reads (blockMarks body ++ more) more
      fun stmts => eraseBlock stmts = eraseBlock body := by
  obtain ⟨readable, well_formed, fits⟩ := block
  rw [isWellFormedBlock_iff] at well_formed
  simp only [blockMarks_eq_flatMap, eraseBlock_eq_map]
  refine .bind (Loops.whileSome (Loops.collect ?_ ?_ body [] [] (List.nil_append body).symm rfl) ?_)
    fun _ same => .pure same
  · intro done next rest earlier split _
    have member : next ∈ body := by simp [split]
    have next_well_formed := well_formed next member
    have rest_well_formed : ∀ stmt ∈ rest, stmt.IsWellFormed :=
      fun stmt later => well_formed stmt (by simp [split, later])
    have written := Stmt.marks_ne_nil next_well_formed
    refine .bind_eq .peekKind ?_
    rw [headKind_append_of_ne_nil _ written, goes_on _ (Stmt.marks_start next_well_formed)]
    refine .bind .get fun cursor at_marks => ?_
    rw [at_marks.atEnd_eq, List.isEmpty_eq_false_iff.2 (by simp [written])]
    refine .bind ((readable next member).nested (nesting_le_of_mem_block member fits)
      (headKind_flatMap_ne_dot rest_well_formed no_point)) fun stmt same => ?_
    exact .pure ⟨_, rfl, stmt, rfl, same⟩
  · exact fun stmt member => Stmt.marks_ne_nil (well_formed stmt member)
  · intro stmts _
    refine .bind_eq .peekKind ?_
    rw [ended]
    exact .pure rfl

theorem spanFrom_reads (start : Span) : (spanFrom start).Reads more more fun _ => True := by
  refine .bind .get fun cursor _ => ?_
  split <;> exact .pure trivial

theorem binding_reads {declared : String × Option Expr}
    (is_exact : ∀ value ∈ declared.2, value.IsExact)
    (fits : ∀ value ∈ declared.2, value.nesting + 1 ≤ levels) (ends : headRank more = 0)
    (no_value : headKind more ≠ .assign) :
    (binding (grammar levels)).Reads (bindingMarks declared ++ more) more
      (eraseBinding · = eraseBinding declared) := by
  obtain ⟨name, value⟩ := declared
  cases value with
  | none =>
      refine .bind (.expect rfl _) fun token fits_name => ?_
      refine .bind_eq (.accept_other no_value) ?_
      exact .pure (by simp [eraseBinding, fits_name.2])
  | some value =>
      refine .bind (.expect rfl _) fun token fits_name => ?_
      refine .bind_eq (.accept rfl) ?_
      refine .bind (expression_reads (is_exact value rfl) (fits value rfl) ends)
        fun parsed same => ?_
      exact .pure (by simp [eraseBinding, fits_name.2, same])

end Parts

/-! ## Marks of assignment -/

theorem assignmentOperator_second_of_enclose {marks more : List Mark} {loose : Bool}
    (second : headKind (marks ++ more) = .identifier →
      assignmentOperator (headKind (marks ++ more).tail) = none)
    (name : headKind (enclose loose marks ++ more) = .identifier) :
    assignmentOperator (headKind (enclose loose marks ++ more).tail) = none := by
  cases loose with
  | false => exact second name
  | true => cases name

/-- An expression that begins with a name does not go on with a mark of assignment. -/
theorem assignmentOperator_second : (expr : Expr) → {more : List Mark} →
    assignmentOperator (headKind more) = none → headKind (expr.marks ++ more) = .identifier →
    assignmentOperator (headKind (expr.marks ++ more).tail) = none
  | .literal value _, _, _, name => by
      cases value with
      | bool value => cases value <;> cases name
      | _ => cases name
  | .variable _ _, _, unassigned, _ => unassigned
  | .binary op left right _, more, _, name => by
      simp only [Expr.marks, List.append_assoc] at name ⊢
      refine assignmentOperator_second_of_enclose (assignmentOperator_second left ?_) name
      cases op <;> rfl
  | .unary op _ _, _, _, name => by cases op <;> cases name
  | .call _ _ _, _, _, _ => rfl
  | .method receiver _ _ _, more, _, name => by
      simp only [Expr.marks, List.append_assoc] at name ⊢
      exact assignmentOperator_second_of_enclose (assignmentOperator_second receiver rfl) name

/-- A change is read by the mark it is written with. -/
theorem assignmentOperator_assignmentKind {op : Option BinaryOp}
    (allowed : op = none ∨
      ∃ operator ∈ [BinaryOp.add, .sub, .mul, .div, .mod], op = some operator) :
    assignmentOperator (assignmentKind op) = some op ∧ isStep (assignmentKind op) = false := by
  rcases allowed with rfl | ⟨operator, member, rfl⟩
  · exact ⟨rfl, rfl⟩
  · cases operator <;> first | exact ⟨rfl, rfl⟩ | simp at member

/-! ## Statements without blocks -/

theorem allExact_iff (items : List Expr) : AllExact items ↔ ∀ item ∈ items, item.IsExact := by
  induction items with
  | nil => simp [AllExact]
  | cons item rest ih => simp [AllExact, ih]

theorem bindings_reads {bindings : List (String × Option Expr)} {levels : Nat} {more : List Mark}
    (nonempty : bindings ≠ []) (all_exact : AllExact (bindings.filterMap (·.2)))
    (fits : itemNesting (bindings.filterMap (·.2)) ≤ levels) :
    (separated fun _ => binding (grammar levels)).Reads
      (joined (bindings.map bindingMarks) ++ .fixed .dot :: more) (.fixed .dot :: more)
      fun parsed => parsed.map eraseBinding = bindings.map eraseBinding := by
  rw [allExact_iff] at all_exact
  refine separated_reads ?_ nonempty nofun
  intro done next rest _ split _ following after
  have member : next ∈ bindings := by simp [split]
  have initial {value : Expr} (present : value ∈ next.2) : value ∈ bindings.filterMap (·.2) :=
    List.mem_filterMap.2 ⟨next, member, present⟩
  have loose : headRank following = 0 ∧ headKind following ≠ .assign := by
    rcases after with rfl | comma
    · exact ⟨rfl, nofun⟩
    · exact ⟨headRank_eq_rank comma nofun, by simp [comma]⟩
  exact binding_reads (fun value present => all_exact value (initial present))
    (fun value present => nesting_le_of_mem (initial present) fits) loose.1 loose.2

theorem readable_var {bindings : List (String × Option Expr)} (span : Span)
    (nonempty : bindings ≠ []) (all_exact : AllExact (bindings.filterMap (·.2))) :
    ReadableStmt (.var bindings span) := by
  refine ⟨fun {levels more} fits _ => ?_⟩
  simp only [Stmt.marks, List.cons_append, List.append_assoc]
  refine .bind_eq .peekKind ?_
  refine .bind (.expect rfl _) fun start _ => ?_
  refine .bind (bindings_reads nonempty all_exact fits) fun parsed same => ?_
  refine .bind (spanFrom_reads _) fun _ _ => ?_
  refine .bind terminator_reads fun _ _ => ?_
  exact .pure (by simp [Stmt.erase, same])

theorem readable_letBe {value : Expr} (name : String) (span : Span) (is_exact : value.IsExact) :
    ReadableStmt (.letBe name value span) := by
  refine ⟨fun {levels more} fits _ => ?_⟩
  simp only [Stmt.nesting] at fits
  simp only [Stmt.marks, List.cons_append, List.append_assoc]
  refine .bind_eq .peekKind ?_
  refine .bind (.expect rfl _) fun start _ => ?_
  refine .bind (.expect rfl _) fun token fits_name => ?_
  refine .bind (.expect rfl _) fun _ _ => ?_
  refine .bind (expression_reads is_exact fits rfl) fun parsed same => ?_
  refine .bind terminator_reads fun _ _ => ?_
  exact .pure (by simp [Stmt.erase, fits_name.2, same])

theorem readable_assign {op : Option BinaryOp} {value : Expr} (name : String) (span : Span)
    (allowed : op = none ∨ ∃ operator ∈ [BinaryOp.add, .sub, .mul, .div, .mod], op = some operator)
    (is_exact : value.IsExact) : ReadableStmt (.assign name op value span) := by
  refine ⟨fun {levels more} fits _ => ?_⟩
  obtain ⟨found, not_step⟩ := assignmentOperator_assignmentKind allowed
  simp only [Stmt.nesting] at fits
  simp only [Stmt.marks, List.cons_append, List.append_assoc]
  refine .bind_eq .peekKind ?_
  refine .bind_eq .peekNextKind ?_
  simp only [List.tail_cons, headKind, Mark.kind, found]
  refine .bind .advance fun token fits_name => ?_
  refine .bind .advance fun mark fits_mark => ?_
  rw [fits_mark.1, Mark.kind, not_step]
  refine .bind (expression_reads is_exact fits rfl) fun parsed same => ?_
  refine .bind terminator_reads fun _ _ => ?_
  exact .pure (by simp [Stmt.erase, fits_name.2, same])

/-- An expression is read as a statement, wherever a statement may end after it. -/
theorem statement_reads_expression {value : Expr} {levels : Nat} {more after : List Mark}
    (span : Span) (is_exact : value.IsExact) (fits : value.nesting + 1 ≤ levels)
    (ends : headRank more = 0) (unassigned : assignmentOperator (headKind more) = none)
    (ended : terminator.Reads more after fun _ => True) :
    (statement (grammar levels)).Reads (value.marks ++ more) after
      (·.erase = (Stmt.expression value span).erase) := by
  have reads : (expressionStatement (grammar levels)).Reads (value.marks ++ more) after
      (·.erase = (Stmt.expression value span).erase) := by
    refine .bind (expression_reads is_exact fits ends) fun parsed same => ?_
    refine .bind ended fun _ _ => ?_
    exact .pure (by simp [Stmt.erase, same])
  have starts := value.marks_opens.first
  rw [← headKind_append more starts] at starts
  refine .bind_eq .peekKind ?_
  split
  case h_11 name =>
      refine .bind_eq .peekNextKind ?_
      rw [assignmentOperator_second value unassigned name]
      exact reads
  case h_12 => exact reads
  all_goals
    rename_i other
    rw [other] at starts
    cases starts

theorem readable_expression {value : Expr} (span : Span) (is_exact : value.IsExact) :
    ReadableStmt (.expression value span) := by
  refine ⟨fun {levels more} fits _ => ?_⟩
  simp only [Stmt.marks, List.append_assoc]
  exact statement_reads_expression span is_exact fits rfl rfl terminator_reads

theorem givenValue_reads {value : Option Expr} {levels : Nat} {more : List Mark}
    (all_exact : AllExact value.toList) (fits : itemNesting value.toList ≤ levels) :
    (givenValue (grammar levels)).Reads (givenMarks value ++ .fixed .dot :: more)
      (.fixed .dot :: more) fun given => given.map Expr.erase = value.map Expr.erase := by
  cases value with
  | none =>
      refine .bind_eq .peekKind ?_
      refine .bind .peekNextKind fun _ _ => ?_
      exact .pure rfl
  | some value =>
      have opens := value.marks_opens.append (.fixed .dot :: more)
      simp only [Option.toList_some, AllExact, itemNesting] at all_exact fits
      simp only [givenMarks]
      refine .bind_eq .peekKind ?_
      refine .bind_eq .peekNextKind ?_
      rw [not_emptyParentheses opens, endsStatement_eq_false opens.first]
      refine .bind (expression_reads all_exact.1 (Nat.max_le.1 fits).1 rfl) fun parsed same => ?_
      exact .pure (by simp [same])

theorem readable_give {value : Option Expr} (span : Span) (all_exact : AllExact value.toList) :
    ReadableStmt (.give value span) := by
  refine ⟨fun {levels more} fits _ => ?_⟩
  simp only [Stmt.marks, List.cons_append, List.append_assoc]
  refine .bind_eq .peekKind ?_
  refine .bind (.expect rfl _) fun start _ => ?_
  refine .bind (givenValue_reads all_exact fits) fun given same => ?_
  refine .bind (spanFrom_reads _) fun _ _ => ?_
  refine .bind terminator_reads fun _ _ => ?_
  exact .pure (by simp [Stmt.erase, same])

theorem readable_pass (span : Span) : ReadableStmt (.pass span) := by
  refine ⟨fun {levels more} _ _ => ?_⟩
  refine .bind_eq .peekKind ?_
  refine .bind .advance fun word _ => ?_
  refine .bind terminator_reads fun _ _ => ?_
  exact .pure (by simp [Stmt.erase])

/-! ## Statements with blocks -/

section Blocks

variable {body : List Stmt} {levels : Nat} {more : List Mark}

/-- A block up to its semicolon. -/
theorem closedBlock_reads (block : ReadableBlock levels body) :
    (Parser.block (grammar levels) closesBlock).Reads
      (blockMarks body ++ .fixed .semicolon :: more) (.fixed .semicolon :: more)
      fun stmts => eraseBlock stmts = eraseBlock body :=
  block_reads block rfl nofun fun _ starts => closesBlock_eq_false starts

theorem readable_whileLoop {condition : Expr} (span : Span)
    (readable : ∀ stmt ∈ body, ReadableStmt stmt) (is_exact : condition.IsExact)
    (well_formed : IsWellFormedBlock body) : ReadableStmt (.whileLoop condition body span) := by
  refine ⟨fun {levels more} fits no_point => ?_⟩
  simp only [Stmt.nesting, Nat.max_le] at fits
  simp only [Stmt.marks, inBlock, List.cons_append, List.append_assoc]
  refine .bind_eq .peekKind ?_
  refine .bind (.expect rfl _) fun start _ => ?_
  refine .bind (expression_reads is_exact fits.1 rfl) fun parsed same => ?_
  refine .bind (.expect rfl _) fun _ _ => ?_
  refine .bind (closedBlock_reads ⟨readable, well_formed, fits.2⟩) fun stmts same_body => ?_
  refine .bind (.expect rfl _) fun close _ => ?_
  refine .bind (skipPoint_reads no_point) fun _ _ => ?_
  exact .pure (by simp [Stmt.erase, same, same_body])

theorem rangeBounds_reads {first last : Expr} {step : Option Expr} (start : Span)
    (all_exact : AllExact (first :: last :: step.toList))
    (fits : itemNesting (first :: last :: step.toList) ≤ levels) :
    (rangeBounds (grammar levels) start).Reads
      (.fixed (.keyword .fromWord) :: (first.marks ++ .fixed (.keyword .to) ::
        (last.marks ++ (stepMarks step ++ .fixed .parenClose :: more))))
      (.fixed .parenClose :: more)
      fun bounds =>
        bounds.1.erase = first.erase ∧ bounds.2.1.erase = last.erase ∧
          bounds.2.2.map Expr.erase = step.map Expr.erase := by
  simp only [AllExact, itemNesting, Nat.max_le] at all_exact fits
  refine .bind_eq (.accept rfl) ?_
  refine .bind (expression_reads all_exact.1 fits.1 rfl) fun lower same_lower => ?_
  refine .bind (.expect rfl _) fun _ _ => ?_
  cases step with
  | none =>
      refine .bind (expression_reads all_exact.2.1 fits.2.1 rfl) fun upper same_upper => ?_
      refine .bind_eq (.accept_other fun same => Token.Kind.noConfusion same) ?_
      exact .pure ⟨same_lower, same_upper, rfl⟩
  | some step =>
      simp only [Option.toList_some, AllExact, itemNesting, Nat.max_le] at all_exact fits
      refine .bind (expression_reads all_exact.2.1 fits.2.1 rfl) fun upper same_upper => ?_
      refine .bind_eq (.accept rfl) ?_
      refine .bind (expression_reads all_exact.2.2.1 fits.2.2.1 rfl) fun stride same_stride => ?_
      exact .pure ⟨same_lower, same_upper, by simp [same_stride]⟩

theorem for_reads {name : String} {marks : List Mark} {stmt : Stmt}
    (reads : (forClause (grammar levels) name).Reads marks (.fixed .semicolon :: more)
      fun clause => ∀ span, (clause span).erase = stmt.erase) (no_point : headKind more ≠ .dot) :
    (statement (grammar levels)).Reads
      (.fixed (.keyword .forWord) :: .name name :: .fixed (.keyword .inWord) :: marks) more
      (·.erase = stmt.erase) := by
  refine .bind_eq .peekKind ?_
  refine .bind (.expect rfl _) fun start _ => ?_
  refine .bind (.expect rfl _) fun token fits_name => ?_
  refine .bind (.expect rfl _) fun _ _ => ?_
  rw [fits_name.2]
  refine .bind reads fun clause same => ?_
  refine .bind (.expect rfl _) fun close _ => ?_
  refine .bind (skipPoint_reads no_point) fun _ _ => ?_
  exact .pure (same _)

theorem readable_forRange {first last : Expr} {step : Option Expr} (name : String) (span : Span)
    (readable : ∀ stmt ∈ body, ReadableStmt stmt)
    (all_exact : AllExact (first :: last :: step.toList)) (well_formed : IsWellFormedBlock body) :
    ReadableStmt (.forRange name first last step body span) := by
  refine ⟨fun {levels more} fits no_point => ?_⟩
  simp only [Stmt.nesting, Nat.max_le] at fits
  simp only [Stmt.marks, inBlock, List.cons_append, List.append_assoc]
  refine for_reads ?_ no_point
  refine .bind_eq (.accept rfl) ?_
  refine .bind (.expect rfl _) fun mark _ => ?_
  refine .bind (rangeBounds_reads mark.span all_exact fits.1) ?_
  rintro ⟨lower, upper, stride⟩ ⟨same_lower, same_upper, same_stride⟩
  refine .bind (.expect rfl _) fun _ _ => ?_
  refine .bind (.expect rfl _) fun _ _ => ?_
  refine .bind (closedBlock_reads ⟨readable, well_formed, fits.2⟩) fun stmts same_body => ?_
  exact .pure fun span => by simp [Stmt.erase, same_lower, same_upper, same_stride, same_body]

theorem readable_forIn {items : Expr} (name : String) (span : Span)
    (readable : ∀ stmt ∈ body, ReadableStmt stmt) (is_exact : items.IsExact)
    (well_formed : IsWellFormedBlock body) : ReadableStmt (.forIn name items body span) := by
  refine ⟨fun {levels more} fits no_point => ?_⟩
  simp only [Stmt.nesting, Nat.max_le] at fits
  simp only [Stmt.marks, inBlock, List.cons_append, List.append_assoc]
  refine for_reads ?_ no_point
  have not_range (more : List Mark) : headKind (items.marks ++ more) ≠ .keyword .range := by
    have starts := items.marks_opens.first
    rw [headKind_append _ starts]
    intro range
    rw [range] at starts
    cases starts
  refine .bind_eq (.accept_other (not_range _)) ?_
  refine .bind (expression_reads is_exact fits.1 rfl) fun values same => ?_
  refine .bind (.expect rfl _) fun _ _ => ?_
  refine .bind (closedBlock_reads ⟨readable, well_formed, fits.2⟩) fun stmts same_body => ?_
  exact .pure fun span => by simp [Stmt.erase, same, same_body]

/-- Distinct parameters are read without a complaint. -/
theorem parameters_reads {params : List String} (function : String) (distinct : params.Nodup) :
    (parameters function).Reads
      (joined (params.map fun param => [.name param]) ++ .fixed .parenClose :: more)
      (.fixed .parenClose :: more) (· = params) := by
  refine .bind_eq .peekKind ?_
  cases params with
  | nil => exact .pure rfl
  | cons first rest =>
      have opened : headKind (joined ((first :: rest).map fun param => [.name param]) ++
          .fixed .parenClose :: more) ≠ .parenClose := nofun
      rw [if_neg opened]
      have not_comma : headKind (.fixed .parenClose :: more) ≠ .comma := nofun
      refine (separated_reads ?_ (by simp) not_comma :
        Reads _ _ _ fun names => names.map id = (first :: rest).map id).mono fun _ same => by
          simpa using same
      intro done next later earlier split same following _
      have new : earlier.contains next = false := by
        have before : earlier = done.reverse := by simpa using congrArg List.reverse same
        have apart : next ∉ done := by grind
        simpa [before] using apart
      refine .bind (.expect rfl _) fun token fits_name => ?_
      rw [fits_name.2, new]
      exact .pure rfl

/-- The block of a function is read if it has statements. -/
theorem functionBody_reads (name : Token) (block : ReadableBlock levels body) (filled : body ≠ [])
    (no_point : headKind more ≠ .dot) :
    (functionBody (grammar levels) name).Reads (inBlock (blockMarks body) ++ more) more
      fun result => eraseBlock result.1 = eraseBlock body := by
  simp only [inBlock, List.cons_append, List.append_assoc]
  refine .bind (.expect rfl _) fun _ _ => ?_
  refine .bind (closedBlock_reads block) fun stmts same => ?_
  refine .bind (.expect rfl _) fun close _ => ?_
  have nonempty : stmts.isEmpty = false := by
    have length := congrArg List.length same
    have positive := List.length_pos_iff.2 filled
    simp only [eraseBlock_eq_map, List.length_map] at length
    rw [List.isEmpty_eq_false_iff, ← List.length_pos_iff]
    omega
  rw [nonempty]
  refine .bind (skipPoint_reads no_point) fun _ _ => ?_
  exact .pure same

theorem readable_define {body : Option (List Stmt)} {params : List String} (label : Nat)
    (name : String) (span : Span) (readable : ∀ stmts ∈ body, ∀ stmt ∈ stmts, ReadableStmt stmt)
    (distinct : params.Nodup) (well_formed : IsWellFormedBody body) :
    ReadableStmt (.define label name params body span) := by
  refine ⟨fun {levels more} fits no_point => ?_⟩
  simp only [Stmt.nesting] at fits
  simp only [Stmt.marks, List.cons_append, List.append_assoc]
  refine .bind_eq .peekKind ?_
  refine .bind (.expect rfl _) fun start _ => ?_
  refine .bind (.expect rfl _) fun token fits_name => ?_
  refine .bind (.accept_other nofun) fun _ _ => ?_
  refine .bind (.expect rfl _) fun _ _ => ?_
  refine .bind_eq (parameters_reads _ distinct) ?_
  refine .bind (.expect rfl _) fun close _ => ?_
  refine .bind_eq .peekKind ?_
  cases body with
  | none =>
      refine .bind skipPoint_reads_point fun _ _ => ?_
      exact .pure (by simp [Stmt.erase, eraseBody, fits_name.2])
  | some body =>
      have block : ReadableBlock levels body := ⟨readable body rfl, well_formed.2, fits⟩
      refine .bind (functionBody_reads token block well_formed.1 no_point) ?_
      rintro ⟨stmts, stop⟩ (same : eraseBlock stmts = eraseBlock body)
      exact .pure (by simp [Stmt.erase, eraseBody, fits_name.2, same])

end Blocks

/-! ## Conditional statements -/

/-- A condition and its block without spans and labels. -/
def eraseArm (arm : Expr × List Stmt) : Expr × List Stmt :=
  (arm.1.erase, eraseBlock arm.2)

/-- The marks of a condition and of its block. -/
def armMarks (arm : Expr × List Stmt) : List Mark :=
  arm.1.marks ++ .fixed .colon :: blockMarks arm.2

/-- Conditional blocks in front of what to choose from otherwise. -/
def armsOf (arms : List (Expr × List Stmt)) (last : Arms) : Arms :=
  arms.foldr (fun (condition, body) others => .arm condition body others) last

/-- What is left to choose from if no condition holds. -/
def lastOf : Arms → Arms
  | .arm _ _ others => lastOf others
  | arms => arms

theorem marks_elif (arms : Arms) : arms.marks .elif =
    arms.conditional.flatMap (.fixed (.keyword .elif) :: armMarks ·) ++
      (lastOf arms).marks .elif := by
  cases arms with
  | arm condition body others =>
      simp [Arms.marks, Arms.conditional, lastOf, armMarks, marks_elif others]
  | otherwise body => rfl
  | nothing => rfl

theorem erase_eq_armsOf (arms : Arms) :
    arms.erase = armsOf (arms.conditional.map eraseArm) (lastOf arms).erase := by
  cases arms with
  | arm condition body others =>
      simp [Arms.erase, Arms.conditional, lastOf, armsOf, eraseArm, erase_eq_armsOf others]
  | otherwise body => rfl
  | nothing => rfl

theorem erase_armsOf (arms : List (Expr × List Stmt)) (last : Arms) :
    (armsOf arms last).erase = armsOf (arms.map eraseArm) last.erase := by
  induction arms with
  | nil => rfl
  | cons arm rest ih =>
      simp only [armsOf, List.foldr_cons, List.map_cons, Arms.erase] at ih ⊢
      rw [ih]
      rfl

/-- A condition and its block are read with a number of levels left. -/
structure ReadableArm (levels : Nat) (arm : Expr × List Stmt) : Prop where
  is_exact : arm.1.IsExact
  fits : arm.1.nesting + 1 ≤ levels
  block : ReadableBlock levels arm.2

/-- All there is to choose from is read with a number of levels left. -/
structure ReadableArms (levels : Nat) (arms : Arms) : Prop where
  conditional : ∀ arm ∈ arms.conditional, ReadableArm levels arm
  otherwise : ∀ body ∈ arms.otherwise?, ReadableBlock levels body

section Arms

variable {levels : Nat} {more : List Mark}

theorem arm_reads {target : Expr × List Stmt} (word : String) (readable : ReadableArm levels target)
    (ended : endsArm (headKind more) = true) :
    (arm (grammar levels) word).Reads (armMarks target ++ more) more
      (eraseArm · = eraseArm target) := by
  have no_point : headKind more ≠ .dot := by
    intro point
    rw [point] at ended
    cases ended
  simp only [armMarks, List.append_assoc, List.cons_append]
  refine .bind (expression_reads readable.is_exact readable.fits rfl) fun parsed same => ?_
  refine .bind (.expect rfl _) fun _ _ => ?_
  refine .bind (block_reads readable.block ended no_point fun _ starts => endsArm_eq_false starts)
    fun stmts same_body => ?_
  exact .pure (by simp [eraseArm, same, same_body])

theorem laterArms_reads {targets : List (Expr × List Stmt)}
    (readable : ∀ target ∈ targets, ReadableArm levels target)
    (ended : endsArm (headKind more) = true) (last : headKind more ≠ .keyword .elif) :
    (laterArms (grammar levels)).Reads
      (targets.flatMap (.fixed (.keyword .elif) :: armMarks ·) ++ more) more
      fun arms => arms.map eraseArm = targets.map eraseArm := by
  refine .bind (Loops.whileSome (Loops.collect ?_ (by simp) targets [] []
    (List.nil_append targets).symm rfl) ?_) fun _ same => .pure same
  · intro done next rest earlier split _
    have following : endsArm (headKind
        (rest.flatMap (.fixed (.keyword .elif) :: armMarks ·) ++ more)) = true := by
      cases rest with
      | nil => exact ended
      | cons arm rest => rfl
    refine .bind_eq (.accept rfl) ?_
    refine .bind (arm_reads _ (readable next (by simp [split])) following) fun parsed same => ?_
    exact .pure ⟨_, rfl, parsed, rfl, same⟩
  · intro arms _
    refine .bind_eq (.accept_other last) ?_
    exact .pure rfl

theorem lastArm_reads (arms : Arms)
    (blocks : ∀ body ∈ arms.otherwise?, ReadableBlock levels body) :
    (lastArm (grammar levels)).Reads ((lastOf arms).marks .elif ++ more) (.fixed .semicolon :: more)
      fun last => last.erase = (lastOf arms).erase := by
  cases arms with
  | arm condition body others => exact lastArm_reads others blocks
  | otherwise body =>
      simp only [lastOf, Arms.marks, inBlock, List.cons_append, List.append_assoc]
      refine .bind_eq (.accept rfl) ?_
      refine .bind (.expect rfl _) fun _ _ => ?_
      refine .bind (closedBlock_reads (blocks body rfl)) fun stmts same => ?_
      exact .pure (by simp [Arms.erase, same])
  | nothing =>
      refine .bind_eq (.accept_other fun same => Token.Kind.noConfusion same) ?_
      exact .pure rfl

/-- What follows the conditions of a conditional statement. -/
theorem headKind_lastOf (more : List Mark) (arms : Arms) :
    endsArm (headKind ((lastOf arms).marks .elif ++ more)) = true ∧
      headKind ((lastOf arms).marks .elif ++ more) ≠ .keyword .elif := by
  cases arms with
  | arm condition body others => exact headKind_lastOf more others
  | otherwise body => exact ⟨rfl, fun same => by cases same⟩
  | nothing => exact ⟨rfl, fun same => by cases same⟩

theorem readable_choose {arms : Arms} (span : Span) (nonempty : arms.conditional ≠ [])
    (readable : ∀ {levels : Nat}, arms.nesting ≤ levels → ReadableArms levels arms) :
    ReadableStmt (.choose arms span) := by
  refine ⟨fun {levels more} fits no_point => ?_⟩
  have choices := readable fits
  cases arms with
  | otherwise body => exact (nonempty rfl).elim
  | nothing => exact (nonempty rfl).elim
  | arm condition body others =>
      obtain ⟨first, later⟩ := List.forall_mem_cons.1 choices.conditional
      obtain ⟨ended, last⟩ := headKind_lastOf more others
      have following : endsArm (headKind (others.marks .elif ++ more)) = true := by
        cases others <;> rfl
      have marks : (Stmt.choose (.arm condition body others) span).marks ++ more =
          .fixed (.keyword .ifWord) ::
            (armMarks (condition, body) ++ (others.marks .elif ++ more)) := by
        simp [Stmt.marks, Arms.marks, armMarks]
      rw [marks]
      refine .bind_eq .peekKind ?_
      refine .bind (.expect rfl _) fun start _ => ?_
      refine .bind (arm_reads _ first following) fun parsed same => ?_
      rw [marks_elif others, List.append_assoc]
      refine .bind (laterArms_reads later ended last) fun parsedLater same_later => ?_
      refine .bind (lastArm_reads others choices.otherwise) fun parsedLast same_last => ?_
      refine .bind (.expect rfl _) fun close _ => ?_
      refine .bind (skipPoint_reads no_point) fun _ _ => .pure ?_
      have chosen : (armsOf (parsed :: parsedLater) parsedLast).erase =
          (Arms.arm condition body others).erase := by
        rw [erase_armsOf, List.map_cons, same, same_later, same_last,
          erase_eq_armsOf (.arm condition body others)]
        rfl
      simpa [Stmt.erase, armsOf] using chosen

end Arms

mutual

/-- Every statement that can be written is read back. -/
theorem readable_stmt : (stmt : Stmt) → stmt.IsWellFormed → ReadableStmt stmt
  | .var _ span, ⟨nonempty, all_exact⟩ => readable_var span nonempty all_exact
  | .letBe name _ span, is_exact => readable_letBe name span is_exact
  | .assign name _ _ span, ⟨allowed, is_exact⟩ => readable_assign name span allowed is_exact
  | .choose arms span, ⟨nonempty, well_formed⟩ =>
      readable_choose span nonempty fun fits => readable_arms arms well_formed fits
  | .whileLoop _ body span, ⟨is_exact, well_formed⟩ =>
      readable_whileLoop span (readable_block body well_formed) is_exact well_formed
  | .forRange name _ _ _ body span, ⟨all_exact, well_formed⟩ =>
      readable_forRange name span (readable_block body well_formed) all_exact well_formed
  | .forIn name _ body span, ⟨is_exact, well_formed⟩ =>
      readable_forIn name span (readable_block body well_formed) is_exact well_formed
  | .define label name _ none span, ⟨distinct, well_formed⟩ =>
      readable_define label name span nofun distinct well_formed
  | .define label name _ (some body) span, ⟨distinct, well_formed⟩ => by
      refine readable_define label name span ?_ distinct well_formed
      rintro _ ⟨⟩
      exact readable_block body well_formed.2
  | .expression _ span, is_exact => readable_expression span is_exact
  | .give _ span, all_exact => readable_give span all_exact
  | .pass span, _ => readable_pass span

theorem readable_block : (body : List Stmt) → IsWellFormedBlock body →
    ∀ stmt ∈ body, ReadableStmt stmt
  | [], _ => nofun
  | stmt :: rest, ⟨first, later⟩ =>
      List.forall_mem_cons.2 ⟨readable_stmt stmt first, readable_block rest later⟩

theorem readable_arms : (arms : Arms) → arms.IsWellFormed → {levels : Nat} →
    arms.nesting ≤ levels → ReadableArms levels arms
  | .arm condition body others, ⟨is_exact, well_formed, others_well_formed⟩, levels, fits => by
      simp only [Arms.nesting, Nat.max_le] at fits
      have later := readable_arms others others_well_formed fits.2.2
      have block : ReadableBlock levels body :=
        ⟨readable_block body well_formed, well_formed, fits.2.1⟩
      exact ⟨List.forall_mem_cons.2 ⟨⟨is_exact, fits.1, block⟩, later.conditional⟩, later.otherwise⟩
  | .otherwise body, well_formed, levels, fits => by
      refine ⟨nofun, ?_⟩
      rintro _ ⟨⟩
      exact ⟨readable_block body well_formed, well_formed, fits⟩
  | .nothing, _, _, _ => ⟨nofun, nofun⟩

end

/-- Statements are read one after the other up to the end of the token list. -/
theorem statements_reads_flatMap {render : Stmt → List Mark} {targets : List Stmt} {levels : Nat}
    (reads : ∀ done next rest, targets = done ++ next :: rest →
      (grammar levels).statement.Reads (render next ++ rest.flatMap render) (rest.flatMap render)
        (·.erase = next.erase))
    (written : ∀ target ∈ targets, render target ≠ []) :
    (statements (grammar levels)).Reads (targets.flatMap render) []
      fun parsed => parsed.map Stmt.erase = targets.map Stmt.erase := by
  rw [← List.append_nil (targets.flatMap render)]
  refine .bind (Loops.whileSome (Loops.collect ?_ written targets [] []
    (List.nil_append targets).symm rfl) ?_) fun _ same => .pure same
  · intro done next rest earlier split _
    have nonempty := written next (by simp [split])
    refine .bind .get fun cursor at_marks => ?_
    rw [at_marks.atEnd_eq, List.isEmpty_eq_false_iff.2 (by simp [nonempty]), List.append_nil]
    refine .bind (reads done next rest split) fun stmt same => ?_
    exact .pure ⟨_, rfl, stmt, rfl, same⟩
  · intro stmts _
    refine .bind .get fun cursor at_marks => ?_
    rw [at_marks.atEnd_eq]
    exact .pure rfl

theorem statements_reads {program : Program} {levels : Nat} (block : ReadableBlock levels program) :
    (statements (grammar levels)).Reads (blockMarks program) []
      fun parsed => eraseBlock parsed = eraseBlock program := by
  obtain ⟨readable, well_formed, fits⟩ := block
  rw [isWellFormedBlock_iff] at well_formed
  simp only [blockMarks_eq_flatMap, eraseBlock_eq_map]
  refine statements_reads_flatMap (fun done next rest split => ?_) fun stmt member =>
    Stmt.marks_ne_nil (well_formed stmt member)
  have member : next ∈ program := by simp [split]
  have no_point : headKind (rest.flatMap Stmt.marks ++ []) ≠ .dot :=
    headKind_flatMap_ne_dot (fun stmt later => well_formed stmt (by simp [split, later])) nofun
  rw [List.append_nil] at no_point
  exact (readable next member).nested (nesting_le_of_mem_block member fits) no_point

end Parser

theorem Cursor.finishOf_kind (tokens : List Token) : (finishOf tokens).kind = .finish := by
  unfold finishOf
  split
  case h_1 token found => simpa using List.find?_some found
  case h_2 => split <;> rfl

/-- The parser inverts canonical rendering: a program that can be written and is nested no deeper
than the parser goes has canonical tokens, and wherever it is written the parser finds it again. -/
theorem canonical_programs_are_read_back {program : Program}
    (well_formed : IsWellFormedBlock program) (fits : blockNesting program ≤ maxNesting) :
    program.IsWritten program.render ∧
      ∀ tokens, program.IsWritten tokens →
        ∃ parsed, Program.ofTokens tokens = .ok parsed ∧
          eraseBlock parsed = eraseBlock program := by
  refine ⟨program.isWritten_render, fun tokens written => ?_⟩
  have at_program : (Cursor.ofTokens tokens).At (blockMarks program) :=
    ⟨written, Cursor.finishOf_kind tokens⟩
  have readable := Parser.readable_block program well_formed
  obtain ⟨parsed, rest, run, same, _⟩ :=
    Parser.statements_reads ⟨readable, well_formed, fits⟩ _ at_program
  refine ⟨parsed, ?_, same⟩
  rw [Program.ofTokens, run]
  rfl

/-- A function with a loop, a sign in front of the base of a power and a method of a call. -/
theorem canonical_function_is_read_back :
    let base : Expr := .unary .negate (.variable "a" default) default
    let operand : Expr := .binary .or (.variable "b" default) (.literal .none default) default
    let called : Expr :=
      .method (.call "f" [.binary .pow base operand default] default) "g" [operand] default
    let program : Program :=
      [.define 0 "f" ["a", "b"] (some [.forIn "c" called [.give (some called) default] default])
        default, .assign "x" (some .mul) called default]
    IsWellFormedBlock program ∧ blockNesting program ≤ maxNesting ∧
      ∃ parsed, Program.ofTokens program.render = .ok parsed ∧
        eraseBlock parsed = eraseBlock program := by
  intro base operand called program
  have well_formed : IsWellFormedBlock program := by
    simp [program, called, operand, base, IsWellFormedBlock, Stmt.IsWellFormed, IsWellFormedBody,
      Expr.IsExact, AllExact, Literal.IsExact]
  have fits : blockNesting program ≤ maxNesting := by decide
  obtain ⟨written, read_back⟩ := canonical_programs_are_read_back well_formed fits
  exact ⟨well_formed, fits, read_back _ written⟩

end DotScript
