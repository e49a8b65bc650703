import DotScript.Proofs.Parser.Accounting.Expressions
import DotScript.Proofs.Parser.Concatenation

/-!
# Statements and programs account for their tokens

Every token of a source that parses is written for a node of its tree, and every complaint of the
parser is about the syntax: `Program.blockWrittenAs_of_parse` and `Program.malformed_of_parse`.
-/

namespace DotScript
namespace Parser

open Cursor

/-! ## Ends of statements -/

theorem terminator_accounts : Accounts terminator fun _ taken => IsOptional .dot taken := by
  intro cursor
  refine .accept (by decide) (fun _ _ point _ => .pure (.present point)) (.peekKind ?_)
  split
  · exact .pure .absent
  · exact .refuse _

theorem skipPoint_accounts : Accounts skipPoint fun _ taken => IsOptional .dot taken := fun _ =>
  .last (.optional (by decide)) fun _ _ point => point

/-! ## Simple statements -/

theorem stepStatement_accounts {cursor : Cursor} {op : BinaryOp}
    (assigns : assignmentOperator cursor.peek.kind = some (some op))
    (steps : isStep cursor.peek.kind = true) :
    AccountsAt cursor (stepStatement op) Stmt.EndsAs := by
  refine .advance (fun finish => ?_) fun middle _ => ?_
  · rw [finish] at steps
    cases steps
  refine .expect (by decide) fun name middle is_name _ => ?_
  refine .last (terminator_accounts middle) fun _ point ends => ?_
  exact ⟨[_, name], point, rfl, .stepBefore is_name assigns steps, ends⟩

theorem passStatement_accounts {cursor : Cursor} (is_word : cursor.peek.kind = .keyword .pass) :
    AccountsAt cursor passStatement Stmt.EndsAs := by
  refine .advance (by rw [is_word]; decide) fun middle _ => ?_
  refine .last (terminator_accounts middle) fun _ point ends => ?_
  exact ⟨[_], point, rfl, .pass is_word, ends⟩

theorem parameters_accounts (function : String) :
    Accounts (parameters function) (Listed ParamWrittenAs) := by
  intro cursor
  refine .peekKind ?_
  split
  · exact .pure .nil
  · refine .mono (.separated fun earlier cursor => ?_) fun params taken listed => listed.1
    refine .expect (by decide) fun param _ is_name _ => ?_
    split
    · exact .complain _ _
    · exact .pure (.name is_name)

section Statements

variable {below : Grammar} (nested : below.AccountsForAll)

include nested

theorem binding_accounts : Accounts (binding below) BindingWrittenAs := by
  intro cursor
  refine .expect (by decide) fun name middle is_name _ => ?_
  refine .accept (by decide) (fun mark middle assigns _ => ?_) (.pure (.bare is_name))
  exact .last (nested.expression middle) fun value tokens written =>
    .initial is_name assigns written

theorem varStatement_accounts : Accounts (varStatement below) Stmt.EndsAs := by
  intro cursor
  refine .expect (by decide) fun word middle is_word passes => ?_
  refine .bind (.separated fun _ => binding_accounts nested)
    fun bindings tokens middle' passes' listed => .spanFrom ?_
  obtain ⟨last, ends⟩ : ∃ last, (word :: tokens).getLast? = some last :=
    ⟨_, List.getLast?_eq_some_getLast (List.cons_ne_nil _ _)⟩
  rw [(passes.trans passes').previous, List.singleton_append, ends]
  refine .last (terminator_accounts middle') fun _ point ended => ?_
  exact ⟨_, point, rfl, .var is_word listed.1 ends, ended⟩

theorem letStatement_accounts : Accounts (letStatement below) Stmt.EndsAs := by
  intro cursor
  refine .expect (by decide) fun word middle is_word _ => ?_
  refine .expect (by decide) fun name middle is_name _ => ?_
  refine .expect (by decide) fun be middle is_be _ => ?_
  refine .bind (nested.expression middle) fun value tokens middle _ written => ?_
  refine .last (terminator_accounts middle) fun _ point ended => ?_
  exact ⟨_, point, rfl, .letBe is_word is_name is_be written, ended⟩

theorem assignment_accounts {cursor : Cursor} {op : Option BinaryOp}
    (is_name : cursor.peek.kind = .identifier)
    (assigns : assignmentOperator cursor.peekNext.kind = some op) :
    AccountsAt cursor (assignment below op) Stmt.EndsAs := by
  refine .advance (by rw [is_name]; decide) fun middle passes => ?_
  rw [← passes.peek_eq_peekNext] at assigns
  refine .advance (fun finish => ?_) fun middle' _ => ?_
  · rw [finish] at assigns
    cases assigns
  split
  next steps =>
    rw [pure_bind]
    refine .last (terminator_accounts middle') fun _ point ended => ?_
    exact ⟨_, point, rfl, .stepAfter is_name assigns steps, ended⟩
  next stands =>
    refine .bind (nested.expression middle') fun value tokens middle _ written => ?_
    refine .last (terminator_accounts middle) fun _ point ended => ?_
    exact ⟨_, point, rfl, .assign is_name assigns (Bool.eq_false_iff.2 stands) written, ended⟩

/-- One more statement is put before those that are read, the last one first. -/
theorem nextStatement_accounts {stmts : List Stmt} {done : List Token} (cursor : Cursor)
    (written : BlockWrittenAs stmts.reverse done) :
    AccountsAt cursor (below.statement >>= fun stmt => pure (some (stmt :: stmts)))
      (Continues (fun stmts done => BlockWrittenAs stmts.reverse done) done) := by
  refine .last (nested.statement cursor) fun stmt taken ended => ?_
  rw [Continues, List.reverse_cons]
  exact written.concat ended

theorem block_accounts (ends : Token.Kind → Bool) :
    Accounts (block below ends) BlockWrittenAs := by
  intro cursor
  refine .last (.whileSome (fun stmts done => BlockWrittenAs stmts.reverse done)
    (fun stmts done cursor written => ?_) .nil) fun _ _ written => written
  refine .peekKind ?_
  split
  · exact .pure rfl
  refine .get ?_
  split
  · exact .refuse _
  · exact nextStatement_accounts nested cursor written

/-! ## Functions -/

theorem functionBody_accounts (name : Token) :
    Accounts (functionBody below name) fun result taken =>
      ∃ colon block close point, taken = colon :: (block ++ close :: point) ∧
        colon.kind = .colon ∧ BlockWrittenAs result.1 block ∧ close.kind = .semicolon ∧
        result.2 = close.span ∧ IsOptional .dot point := by
  intro cursor
  refine .expect (by decide) fun colon middle is_colon _ => ?_
  refine .bind (block_accounts nested _ middle) fun body block middle _ inside => ?_
  refine .expect (by decide) fun close middle closes _ => ?_
  split
  · exact .complain _ _
  · exact .last (skipPoint_accounts middle) fun _ point ended =>
      ⟨colon, block, close, point, rfl, is_colon, inside, closes, rfl, ended⟩

theorem functionStatement_accounts : Accounts (functionStatement below) Stmt.EndsAs := by
  intro cursor
  refine .expect (by decide) fun word middle is_word _ => ?_
  refine .expect (by decide) fun name middle is_name _ => ?_
  refine .bind (.optional (by decide)) fun _ sign middle _ is_sign => ?_
  refine .expect (by decide) fun start middle opens _ => ?_
  refine .bind (parameters_accounts _ middle) fun params tokens middle _ listed => ?_
  refine .expect (by decide) fun stop middle stops _ => ?_
  have declared : AccountsAt middle (do
      skipPoint
      return Stmt.define 0 name.text params none (word.span.to stop.span)) fun stmt more =>
        stmt.EndsAs (word :: name :: (sign ++ start :: (tokens ++ stop :: more))) := by
    refine .last (skipPoint_accounts middle) fun _ point ended => ?_
    exact ⟨_, point, by simp, .declare is_word is_name is_sign opens listed stops, ended⟩
  refine .peekKind ?_
  split
  · exact declared
  · exact declared
  · refine .last (functionBody_accounts nested name middle) ?_
    rintro ⟨body, span⟩ _ ⟨colon, block, close, point, rfl, is_colon, inside, closes, rfl, ended⟩
    exact ⟨_, point, by simp,
      .define is_word is_name is_sign opens listed stops is_colon inside closes, ended⟩

/-! ## Conditional statements -/

theorem arm_accounts (word : String) :
    Accounts (arm below word) fun result taken =>
      ∃ tokens colon block, taken = tokens ++ colon :: block ∧ result.1.WrittenAs tokens ∧
        colon.kind = .colon ∧ BlockWrittenAs result.2 block := by
  intro cursor
  refine .bind (nested.expression cursor) fun condition tokens middle _ written => ?_
  refine .expect (by decide) fun colon middle is_colon _ => ?_
  exact .last (block_accounts nested _ middle) fun body block inside =>
    ⟨tokens, colon, block, rfl, written, is_colon, inside⟩

/-- Arms go before other ones, which are written with the tokens behind. -/
theorem laterArms_accounts :
    Accounts (laterArms below) fun arms taken =>
      ∀ (others : Arms) (later : List Token), others.WrittenAs later →
        (arms.foldr (fun (condition, body) others => Arms.arm condition body others)
          others).WrittenAs (taken ++ later) := by
  intro cursor
  let keeps (arms : List (Expr × List Stmt)) (done : List Token) : Prop :=
    ∀ (others : Arms) (later : List Token), others.WrittenAs later →
      (arms.reverse.foldr (fun (condition, body) others => Arms.arm condition body others)
        others).WrittenAs (done ++ later)
  have start : keeps [] [] := fun _ _ written => written
  refine .last (.whileSome keeps (fun arms done cursor kept => ?_) start) fun _ _ kept => kept
  refine .accept (by decide) (fun word middle is_word _ => ?_) (.pure rfl)
  refine .last (arm_accounts nested _ middle) ?_
  rintro ⟨condition, body⟩ _ ⟨tokens, colon, block, rfl, written, is_colon, inside⟩ others later
    others_written
  have arm := kept _ _ (.arm is_word written is_colon inside others_written)
  simpa using arm

theorem lastArm_accounts : Accounts (lastArm below) Arms.WrittenAs := by
  intro cursor
  refine .accept (by decide) (fun word middle is_word _ => ?_) (.pure .nothing)
  refine .expect (by decide) fun colon middle is_colon _ => ?_
  exact .last (block_accounts nested _ middle) fun body block inside =>
    .otherwise is_word is_colon inside

theorem ifStatement_accounts : Accounts (ifStatement below) Stmt.EndsAs := by
  intro cursor
  refine .expect (by decide) fun word middle is_word _ => ?_
  refine .bind (arm_accounts nested _ middle) ?_
  rintro ⟨condition, body⟩ _ middle _ ⟨tokens, colon, block, rfl, written, is_colon, inside⟩
  refine .bind (laterArms_accounts nested middle) fun arms taken middle _ before => ?_
  refine .bind (lastArm_accounts nested middle) fun last later middle _ last_written => ?_
  refine .expect (by decide) fun close middle closes _ => ?_
  refine .last (skipPoint_accounts middle) fun _ point ended => ?_
  have others := before last later last_written
  exact ⟨_, point, by simp, .choose is_word written is_colon inside others closes, ended⟩

/-! ## Loops -/

theorem whileStatement_accounts : Accounts (whileStatement below) Stmt.EndsAs := by
  intro cursor
  refine .expect (by decide) fun word middle is_word _ => ?_
  refine .bind (nested.expression middle) fun condition tokens middle _ written => ?_
  refine .expect (by decide) fun colon middle is_colon _ => ?_
  refine .bind (block_accounts nested _ middle) fun body block middle _ inside => ?_
  refine .expect (by decide) fun close middle closes _ => ?_
  refine .last (skipPoint_accounts middle) fun _ point ended => ?_
  exact ⟨_, point, by simp, .whileLoop is_word written is_colon inside closes, ended⟩

theorem rangeBounds_accounts (start : Span) :
    Accounts (rangeBounds below start) (RangeWrittenAs start) := by
  intro cursor
  refine .accept (by decide) (fun word middle is_from _ => ?_) ?_
  · refine .bind (nested.expression middle) fun first tokens middle _ first_written => ?_
    refine .expect (by decide) fun toWord middle is_to _ => ?_
    refine .bind (nested.expression middle) fun last tokens' middle _ last_written => ?_
    refine .accept (by decide) (fun stepWord middle is_step _ => ?_) (.pure ?_)
    · exact .last (nested.expression middle) fun step tokens'' step_written =>
        .stepping is_from first_written is_to last_written is_step step_written
    · rw [List.append_nil]
      exact .between is_from first_written is_to last_written
  · exact .last (nested.expression cursor) fun last tokens written => .upTo written

/-- What a loop runs through, behind the words that open the loop. -/
theorem forClause_accounts {name : Token} (is_name : name.kind = .identifier) :
    Accounts (forClause below name.text) fun clause taken =>
      ∀ word inWord close : Token, word.kind = .keyword .forWord →
        inWord.kind = .keyword .inWord → close.kind = .semicolon →
        (clause (word.span.to close.span)).WrittenAs
          (word :: name :: inWord :: (taken ++ [close])) := by
  intro cursor
  refine .accept (by decide) (fun range middle is_range _ => ?_) ?_
  · refine .expect (by decide) fun start middle opens _ => ?_
    refine .bind (rangeBounds_accounts nested start.span middle) ?_
    rintro ⟨first, last, step⟩ bounds middle _ bounds_written
    refine .expect (by decide) fun stop middle stops _ => ?_
    refine .expect (by decide) fun colon middle is_colon _ => ?_
    refine .last (block_accounts nested _ middle) fun body block inside => ?_
    intro word inWord close is_word is_in closes
    simpa using Stmt.WrittenAs.forRange is_word is_name is_in is_range opens bounds_written stops
      is_colon inside closes
  · refine .bind (nested.expression cursor) fun items tokens middle _ written => ?_
    refine .expect (by decide) fun colon middle is_colon _ => ?_
    refine .last (block_accounts nested _ middle) fun body block inside => ?_
    intro word inWord close is_word is_in closes
    simpa using Stmt.WrittenAs.forIn is_word is_name is_in written is_colon inside closes

theorem forStatement_accounts : Accounts (forStatement below) Stmt.EndsAs := by
  intro cursor
  refine .expect (by decide) fun word middle is_word _ => ?_
  refine .expect (by decide) fun name middle is_name _ => ?_
  refine .expect (by decide) fun inWord middle is_in _ => ?_
  refine .bind (forClause_accounts nested is_name middle) fun clause taken middle _ written => ?_
  refine .expect (by decide) fun close middle closes _ => ?_
  refine .last (skipPoint_accounts middle) fun _ point ended => ?_
  exact ⟨_, point, by simp, written word inWord close is_word is_in closes, ended⟩

/-! ## Other statements -/

theorem givenValue_accounts : Accounts (givenValue below) GivenWrittenAs := by
  intro cursor
  refine .peekKind (.peekNextKind ?_)
  split
  next parens =>
    simp only [Bool.and_eq_true, decide_eq_true_eq] at parens
    refine .advance (by rw [parens.1]; decide) fun middle passes => ?_
    have next := passes.peek_eq_peekNext
    refine .advance (by rw [next, parens.2]; decide) fun middle _ => .pure ?_
    exact .empty parens.1 (next ▸ parens.2)
  next =>
    split
    · exact .pure .nothing
    · exact .last (nested.expression cursor) fun value tokens written => .value written

theorem giveStatement_accounts : Accounts (giveStatement below) Stmt.EndsAs := by
  intro cursor
  refine .expect (by decide) fun word middle is_word passes => ?_
  refine .bind (givenValue_accounts nested middle)
    fun value tokens middle' passes' given => .spanFrom ?_
  obtain ⟨last, ends⟩ : ∃ last, (word :: tokens).getLast? = some last :=
    ⟨_, List.getLast?_eq_some_getLast (List.cons_ne_nil _ _)⟩
  rw [(passes.trans passes').previous, List.singleton_append, ends]
  refine .last (terminator_accounts middle') fun _ point ended => ?_
  exact ⟨_, point, rfl, .give is_word given ends, ended⟩

theorem expressionStatement_accounts : Accounts (expressionStatement below) Stmt.EndsAs := by
  intro cursor
  refine .bind (nested.expression cursor) fun value tokens middle _ written => ?_
  exact .last (terminator_accounts middle) fun _ point ended =>
    ⟨tokens, point, rfl, .expression written, ended⟩

theorem nameStatement_accounts {cursor : Cursor} (is_name : cursor.peek.kind = .identifier) :
    AccountsAt cursor (nameStatement below) Stmt.EndsAs := by
  refine .peekNextKind ?_
  split
  next op assigns => exact assignment_accounts nested is_name assigns
  next => exact expressionStatement_accounts nested cursor

theorem statement_accounts : Accounts (statement below) Stmt.EndsAs := by
  intro cursor
  refine .peekKind ?_
  split
  · exact varStatement_accounts nested cursor
  · exact letStatement_accounts nested cursor
  · exact functionStatement_accounts nested cursor
  · exact ifStatement_accounts nested cursor
  · exact whileStatement_accounts nested cursor
  · exact forStatement_accounts nested cursor
  · exact giveStatement_accounts nested cursor
  case h_8 kind => exact passStatement_accounts kind
  case h_9 kind => exact stepStatement_accounts (by rw [kind]; rfl) (by rw [kind]; rfl)
  case h_10 kind => exact stepStatement_accounts (by rw [kind]; rfl) (by rw [kind]; rfl)
  case h_11 kind => exact nameStatement_accounts nested kind
  · exact expressionStatement_accounts nested cursor

end Statements

/-! ## Programs -/

theorem grammar_accounts (levels : Nat) : (grammar levels).AccountsForAll := by
  induction levels with
  | zero => exact ⟨fun _ => .tooDeep, fun _ => .tooDeep, fun _ => .tooDeep, fun _ => .tooDeep⟩
  | succ levels ih =>
      exact ⟨expression_accounts ih, power_accounts ih, unary_accounts ih, statement_accounts ih⟩

theorem statements_accounts {rules : Grammar} (nested : rules.AccountsForAll) :
    Accounts (statements rules) BlockWrittenAs := by
  intro cursor
  refine .last (.whileSome (fun stmts done => BlockWrittenAs stmts.reverse done)
    (fun stmts done cursor written => ?_) .nil) fun _ _ written => written
  refine .get ?_
  split
  · exact .pure rfl
  · exact nextStatement_accounts nested cursor written

end Parser

namespace Program

variable {source : String}

/-- The statements of a program are written with all the tokens of its source. -/
theorem blockWrittenAs_of_parse {program : Program} (parses : parse source = .ok program) :
    BlockWrittenAs program (Token.inner source) := by
  obtain ⟨final, at_end, reads⟩ := exists_readsAll parses
  have run := (Parser.statements_run_iff rfl).2 ⟨reads, at_end⟩
  obtain ⟨taken, passes, written⟩ :=
    (Parser.statements_accounts (Parser.grammar_accounts maxNesting) _).exists_of_run rfl run
  have all : Token.inner source = taken ++ final.rest := passes.rest
  rwa [all, at_end, List.append_nil]

/-- A source that does not parse is complained about for its syntax. -/
theorem malformed_of_parse {diagnostic : Diagnostic} (fails : parse source = .error diagnostic) :
    ∃ fault, diagnostic.fault = .malformed fault := by
  have accounts := Parser.statements_accounts (Parser.grammar_accounts maxNesting)
    (.ofTokens (Token.scan source))
  rw [Token.scan_eq_append, Cursor.ofTokens_append (fun _ => Token.kind_ne_finish_of_mem_inner) rfl]
    at accounts
  rw [parse, ofTokens, Token.scan_eq_append,
    Cursor.ofTokens_append (fun _ => Token.kind_ne_finish_of_mem_inner) rfl] at fails
  have found := accounts rfl
  cases run : (Parser.statements (Parser.grammar maxNesting)).run
      ⟨none, Token.inner source, .finishAt (Place.start.after source.toList)⟩ with
  | error cause =>
      rw [run] at found fails
      cases fails
      exact found
  | ok result =>
      rw [run] at fails
      cases fails

end Program
end DotScript
