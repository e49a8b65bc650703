import DotScript.Proofs.Parser.Seam.Programs
import DotScript.Proofs.Source.Joining

/-!
# Programs one after the other

A program whose last token is a point or a semicolon and a program below it are one program: the
statements of the first one, and those of the second one with their spans moved down
(`parse_append`).
-/

namespace DotScript

namespace Place

/-- A line feed behind a text moves what follows down. -/
theorem start_after_line (text : String) :
    start.after (text.toList ++ ['\n']) =
      start.shift (text.utf8ByteSize + 1) (text.toList.count '\n' + 1) := by
  have offset : (start.after (text.toList ++ ['\n'])).offset = text.utf8ByteSize + 1 := by
    rw [after_append, ← offset_start_after]
    rfl
  have line : (start.after (text.toList ++ ['\n'])).line = 1 + (text.toList.count '\n' + 1) := by
    rw [line_after, List.count_append]
    rfl
  have size : start.offset + (text.utf8ByteSize + 1) = text.utf8ByteSize + 1 := Nat.zero_add _
  rw [shift, size, ← offset, show start.line = 1 from rfl, ← line]

end Place

/-- A text whose last token is a point or a semicolon, or that has no tokens. -/
def Token.EndsStatement (source : String) : Prop :=
  ∀ token ∈ (inner source).getLast?, token.kind = .dot ∨ token.kind = .semicolon

instance (source : String) : Decidable (Token.EndsStatement source) :=
  inferInstanceAs (Decidable (∀ token ∈ (Token.inner source).getLast?, _))

/-- A tree below a text has its spans moved down by the text and the line feed behind it. -/
def Span.below (text : String) : Span → Span :=
  Span.shift (text.utf8ByteSize + 1) (text.toList.count '\n' + 1)

/-- A token below a text. -/
def Token.below (text : String) : Token → Token :=
  Token.shift (text.utf8ByteSize + 1) (text.toList.count '\n' + 1)

namespace Token

variable {first second : String}

/-- A text that ends with a statement does not end inside a string. -/
theorem EndsStatement.whole (ended : EndsStatement first) (closed : ending first ≠ .inComment) :
    ending first = .whole := by
  cases ends : ending first with
  | whole => rfl
  | inComment => exact absurd ends closed
  | inString =>
      obtain ⟨front, token, _, _, inner_eq, kind, _⟩ := scanRest_join_of_inString ends .start []
      have last : (inner first).getLast? = some token := by
        rw [show inner first = front ++ [token] from inner_eq, List.getLast?_concat]
      rcases ended token last with same | same <;> rw [kind] at same <;> cases same

/-- After a statement no operand is left open. -/
theorem EndsStatement.lastOperand (ended : EndsStatement first) :
    lastOperand false (inner first) = false := by
  rw [Token.lastOperand]
  cases last : (inner first).getLast? with
  | none => rfl
  | some token => rcases ended token last with kind | kind <;> simp [kind, Kind.endsOperand]

/-- The tokens of two texts one below the other. -/
theorem EndsStatement.scan_append (ended : EndsStatement first)
    (closed : ending first ≠ .inComment) (second : String) :
    scan (first ++ "\n" ++ second) =
      inner first ++ (inner second).map (below first) ++
        [finishAt ((Place.start.after second.toList).shift (first.utf8ByteSize + 1)
          (first.toList.count '\n' + 1))] := by
  have scanned : scan (first ++ "\n" ++ second) =
      scanRest false .start (first.toList ++ '\n' :: second.toList) := by
    rw [← toList_append_line]
    rfl
  have operand : Token.lastOperand false (scanRest false .start first.toList).dropLast = false :=
    ended.lastOperand
  rw [scanned, scanRest_join (ended.whole closed), operand, Place.start_after_line, scanRest_shift,
    List.append_assoc]
  have tokens : scanRest false .start second.toList =
      inner second ++ [finishAt (Place.start.after second.toList)] := scan_eq_append second
  rw [tokens, List.map_append]
  rfl

end Token

/-! ## No statement starts with a point -/

namespace Parser

variable {α β : Type}

/-- The parser complains at a point. -/
def FailsAtPoint (parser : Parser α) : Prop :=
  ∀ cursor, cursor.peek.kind = .dot → ∃ diagnostic, parser.run cursor = .error diagnostic

theorem FailsAtPoint.bind {first : Parser α} (fails : FailsAtPoint first) (next : α → Parser β) :
    FailsAtPoint (first >>= next) := by
  intro cursor point
  obtain ⟨diagnostic, run⟩ := fails cursor point
  exact ⟨diagnostic, run_bind_of_error run next⟩

theorem tooDeep_failsAtPoint : FailsAtPoint (tooDeep : Parser α) :=
  fun _ _ => ⟨_, rfl⟩

theorem primary_failsAtPoint (below : Grammar) : FailsAtPoint (primary below) := by
  intro cursor point
  have looked : peek.run cursor = .ok (cursor.peek, cursor) := rfl
  rw [primary, run_bind_of_ok looked, point]
  exact ⟨_, refuse_run _ _⟩

theorem unary_failsAtPoint (below : Grammar) : FailsAtPoint (unary below) := by
  intro cursor point
  have looked : peek.run cursor = .ok (cursor.peek, cursor) := rfl
  have no_sign : unaryOperator.run cursor = .ok (none, cursor) :=
    unaryOperator_run_of_ne (by rw [point]; nofun) (by rw [point]; nofun)
  rw [unary, run_bind_of_ok looked, run_bind_of_ok no_sign]
  exact (primary_failsAtPoint below).bind _ cursor point

theorem expression_failsAtPoint (below : Grammar) : FailsAtPoint (expression below) := by
  have power : FailsAtPoint (power below) := (unary_failsAtPoint below).bind _
  have factor : FailsAtPoint (factor below) := power.bind _
  have term : FailsAtPoint (term below) := factor.bind _
  have comparison : FailsAtPoint (comparison below) := term.bind _
  have conjunction : FailsAtPoint (conjunction below) := comparison.bind _
  have disjunction : FailsAtPoint (disjunction below) := conjunction.bind _
  exact disjunction.bind _

theorem statement_failsAtPoint (levels : Nat) : FailsAtPoint (grammar levels).statement := by
  have expression (levels : Nat) : FailsAtPoint (grammar levels).expression := by
    cases levels with
    | zero => exact tooDeep_failsAtPoint
    | succ levels => exact expression_failsAtPoint (grammar levels)
  cases levels with
  | zero => exact tooDeep_failsAtPoint
  | succ levels =>
      intro cursor point
      have looked : peekKind.run cursor = .ok (.dot, cursor) := by
        rw [← point]
        rfl
      have unfolded : (grammar (levels + 1)).statement = statement (grammar levels) := rfl
      rw [unfolded, statement, run_bind_of_ok looked]
      exact (expression levels).bind _ cursor point

/-- What is read as statements does not start with a point. -/
theorem ReadsAll.peek_ne_dot {levels : Nat} {cursor final : Cursor} {stmts : List Stmt}
    (reads : ReadsAll (grammar levels) cursor stmts final) (at_end : final.rest = [])
    (finish : cursor.finish.kind = .finish) : cursor.peek.kind ≠ .dot := by
  intro point
  cases reads with
  | done =>
      rw [Cursor.peek_of_rest_eq_nil at_end, finish] at point
      cases point
  | next _ run _ =>
      obtain ⟨diagnostic, failed⟩ := statement_failsAtPoint levels _ point
      rw [failed] at run
      cases run

end Parser

/-! ## Two texts -/

namespace Seam

/-- Two texts one below the other, seen from the first one. -/
def above (first second : String) : Seam where
  left := id
  right := id
  more := (Token.inner second).map (Token.below first)
  finish := .finishAt (Place.start.after first.toList)
  finish' := .finishAt ((Place.start.after second.toList).shift (first.utf8ByteSize + 1)
    (first.toList.count '\n' + 1))
  joins := fun first last => congrArg₂ Span.to first last
  finish_kind := rfl
  finish_kind' := rfl

/-- Two texts one below the other, seen from the second one. -/
def below (first second : String) : Seam where
  left := Span.below first
  right := id
  more := []
  finish := .finishAt (Place.start.after second.toList)
  finish' := .finishAt ((Place.start.after second.toList).shift (first.utf8ByteSize + 1)
    (first.toList.count '\n' + 1))
  joins := fun first last => by rw [Span.below, Span.shift_to]; exact congrArg₂ Span.to first last
  finish_kind := rfl
  finish_kind' := rfl

variable {first second : String}

theorem above_tracked (ended : Token.EndsStatement first) :
    (above first second).Tracked (Token.inner first)
      (Token.inner first ++ (Token.inner second).map (Token.below first)) := by
  have last_token {before : List Token} {token : Token}
      (parts : before ++ [token] = Token.inner first) :
      token.kind = .dot ∨ token.kind = .semicolon :=
    ended token (by rw [← parts, List.getLast?_concat]; rfl)
  apply tracked_append fun _ => ⟨rfl, rfl, rfl⟩
  · rintro word ⟨before, parts⟩ negates
    rcases last_token parts with kind | kind <;> rw [kind] at negates <;> cases negates
  · intro point last
    apply startsMethodCall_of_apart
    intro token member
    obtain ⟨original, _, rfl⟩ := List.mem_map.1 member
    have stop : point.span.stop ≤ first.utf8ByteSize :=
      Token.stop_le_of_mem_inner (last.subset (List.mem_singleton_self point))
    have start : (original.below first).span.start = original.span.start + (first.utf8ByteSize + 1) :=
      rfl
    omega
  · rintro point name ⟨before, parts⟩
    apply eq_false_of_ne_true
    intro calls
    obtain ⟨_, kind, _⟩ := name_of_startsMethodCall calls
    rw [List.append_cons] at parts
    rcases last_token parts with other | other <;> rw [kind] at other <;> cases other

theorem startsMethodCall_below (tokens : List Token) :
    startsMethodCall (tokens.map (Token.below first)) = startsMethodCall tokens := by
  match tokens with
  | [] | [_] | [_, _] => rfl
  | point :: name :: mark :: rest =>
      have touches : (point.span.stop + (first.utf8ByteSize + 1) ==
          name.span.start + (first.utf8ByteSize + 1)) = (point.span.stop == name.span.start) := by
        rw [Bool.eq_iff_iff, beq_iff_eq, beq_iff_eq]
        omega
      simp only [List.map_cons, startsMethodCall, Token.below, Token.shift, Span.shift, touches]

theorem below_tracked (tokens : List Token) :
    (below first second).Tracked tokens (tokens.map (Token.below first)) := by
  induction tokens with
  | nil => exact .stop
  | cons token rest ih =>
      refine .step ⟨rfl, rfl, rfl⟩ (startsMethodCall_below (token :: rest)).symm (fun _ => ?_) ih
      cases rest <;> rfl

end Seam

/-- The statements of a text that parses are read from the start of its tokens. -/
theorem Program.exists_readsAll {source : String} {program : Program}
    (parses : Program.parse source = .ok program) :
    ∃ final, final.rest = [] ∧
      Parser.ReadsAll (Parser.grammar maxNesting) ⟨none, Token.inner source,
        .finishAt (Place.start.after source.toList)⟩ program final := by
  rw [Program.parse, Token.scan_eq_append, Program.ofTokens,
    Cursor.ofTokens_append (fun _ => Token.kind_ne_finish_of_mem_inner) rfl] at parses
  generalize outcome : (Parser.statements (Parser.grammar maxNesting)).run _ = result at parses
  cases result with
  | error => cases parses
  | ok result =>
      cases parses
      obtain ⟨reads, at_end⟩ := (Parser.statements_run_iff rfl).1 outcome
      exact ⟨result.2, at_end, reads⟩

/-- The first text is read the same with the second one below it. -/
theorem Seam.above_readsAll {first second : String} {program : Program} {final : Cursor}
    (ended : Token.EndsStatement first)
    (no_point : (above first second).headKind ≠ .dot) (at_end : final.rest = [])
    (reads : Parser.ReadsAll (Parser.grammar maxNesting) ⟨none, Token.inner first,
      (above first second).finish⟩ program final) :
    ∃ middle, Parser.ReadsAll (Parser.grammar maxNesting) ⟨none,
        Token.inner first ++ (above first second).more, (above first second).finish'⟩ program middle ∧
      middle.rest = (above first second).more ∧ middle.finish = (above first second).finish' ∧
      ∀ token ∈ middle.previous, token.kind = .dot ∨ token.kind = .semicolon := by
  have follows : (above first second).Follows
      ⟨none, Token.inner first, (above first second).finish⟩
      ⟨none, Token.inner first ++ (above first second).more, (above first second).finish'⟩ :=
    ⟨above_tracked ended, .start nofun, rfl, rfl⟩
  have last : ∀ token ∈ Cursor.last ⟨none, Token.inner first, (above first second).finish⟩,
      token.kind = .dot ∨ token.kind = .semicolon := by
    rw [Cursor.last, Option.or_none]
    exact ended
  obtain ⟨stmts, middle, reads', same, last_follows⟩ :=
    follows.readsAll (fun _ => last) no_point reads
  have same : program = stmts := by
    rw [← Stmt.mapSpans_id program, ← Stmt.mapSpans_id stmts]
    exact same
  refine ⟨middle, same ▸ reads', last_follows.rest_eq_more at_end, last_follows.finish', ?_⟩
  obtain ⟨_, passes⟩ := reads.passes
  have previous : final.previous = final.last := by
    rw [Cursor.last, at_end]
    rfl
  rw [← passes.last, ← previous] at last
  have before := last_follows.previous
  generalize final.previous = earlier at before last
  generalize middle.previous = earlier' at before
  cases before with
  | start ended' => exact ended'
  | @after token token' alike =>
      rintro _ ⟨⟩
      rw [← alike.kind]
      exact last token rfl

/-- The second text is read the same below the first one, up to its spans. -/
theorem Seam.below_readsAll {first second : String} {program : Program} {final middle : Cursor}
    (at_end : final.rest = [])
    (reads : Parser.ReadsAll (Parser.grammar maxNesting) ⟨none, Token.inner second,
      (below first second).finish⟩ program final)
    (rest : middle.rest = (Token.inner second).map (Token.below first))
    (finish : middle.finish = (below first second).finish')
    (ended : ∀ token ∈ middle.previous, token.kind = .dot ∨ token.kind = .semicolon) :
    ∃ last, last.rest = [] ∧ Parser.ReadsAll (Parser.grammar maxNesting) middle
      (Stmt.mapSpans (Span.below first) program) last := by
  have follows : (below first second).Follows
      ⟨none, Token.inner second, (below first second).finish⟩ middle :=
    ⟨rest ▸ below_tracked _, .start ended, rfl, finish⟩
  have no_point : (below first second).headKind ≠ .dot := nofun
  obtain ⟨stmts, last, reads', same, last_follows⟩ :=
    follows.readsAll (fun further => absurd rfl further) no_point reads
  refine ⟨last, last_follows.rest_eq_more at_end, ?_⟩
  have same : Stmt.mapSpans (Span.below first) program = stmts := by
    rw [← Stmt.mapSpans_id stmts]
    exact same
  rw [same]
  exact reads'

/-- Two programs one below the other are one program. -/
theorem parse_append {first second : String} {program program' : Program}
    (parses : Program.parse first = .ok program) (parses' : Program.parse second = .ok program')
    (ended : Token.EndsStatement first) (closed : Token.ending first ≠ .inComment) :
    Program.parse (first ++ "\n" ++ second) =
      .ok (program ++ Stmt.mapSpans (Span.below first) program') := by
  obtain ⟨final, at_end, reads⟩ := Program.exists_readsAll parses
  obtain ⟨final', at_end', reads'⟩ := Program.exists_readsAll parses'
  have no_point : (Seam.above first second).headKind ≠ .dot := by
    have head := reads'.peek_ne_dot at_end' rfl
    rw [Cursor.peek] at head
    rw [Seam.headKind, Seam.above]
    cases tokens : Token.inner second with
    | nil => rintro ⟨⟩
    | cons token rest =>
        rw [tokens] at head
        exact head
  obtain ⟨middle, first_reads, rest, finish, ended'⟩ :=
    Seam.above_readsAll ended no_point at_end reads
  obtain ⟨last, at_last, second_reads⟩ := Seam.below_readsAll at_end' reads' rest finish ended'
  have run := (Parser.statements_run_iff rfl).2 ⟨first_reads.append second_reads, at_last⟩
  have inside : ∀ token ∈ Token.inner first ++ (Token.inner second).map (Token.below first),
      token.kind ≠ .finish := by
    intro token member
    rcases List.mem_append.1 member with earlier | later
    · exact Token.kind_ne_finish_of_mem_inner earlier
    · obtain ⟨original, found, rfl⟩ := List.mem_map.1 later
      have kind : (original.below first).kind = original.kind := rfl
      rw [kind]
      exact Token.kind_ne_finish_of_mem_inner found
  rw [Program.parse, ended.scan_append closed, Program.ofTokens,
    Cursor.ofTokens_append inside rfl]
  exact congrArg (Except.map Prod.fst) run

end DotScript
