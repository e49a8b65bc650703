import DotScript.Proofs.Parser.Seam.Programs
import DotScript.Proofs.Source.Numerals

/-!
# Texts that wait in vain

A text waits for more if the complaint about it is about its end.  But the parser looks at what
stands in front of `of` only after it has read what stands behind it.  So a number with `of` after
it waits for more, although nothing can follow that makes it a program:
`number_before_of_waits_in_vain`.
-/

namespace DotScript

namespace Parser

variable {below : Grammar} {number word : Token} {more : List Token} {cursor next : Cursor}

/-- A number is an expression up to `of`. -/
theorem disjunction_run_number (is_number : number.kind = .int) (is_of : word.kind = .keyword .of)
    (written : cursor.rest = number :: word :: more) :
    (disjunction below).run cursor =
      .ok (.literal (.int number.text) number.span,
        { cursor with previous := some number, rest := word :: more }) := by
  obtain ⟨previous, tokens, finish⟩ := cursor
  obtain ⟨kind, digits, place⟩ := number
  obtain ⟨kind', text, place'⟩ := word
  obtain rfl : kind = .int := is_number
  obtain rfl : kind' = .keyword .of := is_of
  obtain rfl := written
  -- whether a method is called shows in three tokens
  match more with
  | [] => rfl
  | [_] => rfl
  | _ :: _ :: _ => rfl

/-- The receiver is read before the call in front of `of` is missed. -/
theorem expression_run_number (is_number : number.kind = .int) (is_of : word.kind = .keyword .of)
    (written : cursor.rest = number :: word :: more) :
    (expression below).run cursor =
      (disjunction below >>= fun _ => complain word .misplacedOf).run
        { cursor with previous := some word, rest := more } := by
  rw [expression, run_bind_of_ok (disjunction_run_number is_number is_of written)]
  have looked : peek.run { cursor with previous := some number, rest := word :: more } =
      .ok (word, { cursor with previous := some number, rest := word :: more }) := rfl
  rw [run_bind_of_ok looked, run_bind_of_ok (accept_run_of_eq rfl is_of)]
  rfl

theorem statement_run_number (is_number : number.kind = .int)
    (written : cursor.rest = number :: more) :
    (statement below).run cursor = (expressionStatement below).run cursor := by
  have looked : peekKind.run cursor = .ok (.int, cursor) := by
    rw [← is_number, ← Cursor.peek_of_rest_eq_cons written]
    rfl
  rw [statement, run_bind_of_ok looked]

/-- A program that begins with a number and `of` is refused for what follows `of`, or else for the
missing call. -/
theorem statements_run_number {levels : Nat} {diagnostic : Diagnostic}
    (is_number : number.kind = .int) (is_of : word.kind = .keyword .of)
    (written : cursor.rest = number :: word :: more)
    (refused : (disjunction (grammar levels) >>= fun _ => complain word .misplacedOf :
      Parser Expr).run { cursor with previous := some word, rest := more } = .error diagnostic) :
    (statements (grammar (levels + 2))).run cursor = .error diagnostic := by
  have read : (grammar (levels + 1)).expression.run cursor = .error diagnostic :=
    (expression_run_number is_number is_of written).trans refused
  have stated : (grammar (levels + 2)).statement.run cursor = .error diagnostic :=
    (statement_run_number is_number written).trans (run_bind_of_error read _)
  have inside : cursor.atEnd = false := by
    rw [Cursor.atEnd, written]
    rfl
  have turned : (do
      if (← get).atEnd then return none
      else return some ((← (grammar (levels + 2)).statement) :: []) :
      Parser (Option (List Stmt))).run cursor = .error diagnostic := by
    have looked : (get : Parser Cursor).run cursor = .ok (cursor, cursor) := rfl
    rw [run_bind_of_ok looked, inside]
    exact run_bind_of_error stated _
  refine run_bind_of_error ?_ _
  have looked : (get : Parser Cursor).run cursor = .ok (cursor, cursor) := rfl
  rw [whileSome, run_bind_of_ok looked, written, repeatAlong, turn]
  exact run_bind_of_error turned _

end Parser

/-- A source that begins with a number and `of` is no program; if it ends there, the complaint is
about its end. -/
theorem Program.parse_number_of {source : String} {number word : Token} {more : List Token}
    (is_number : number.kind = .int) (is_of : word.kind = .keyword .of)
    (written : Token.inner source = number :: word :: more) :
    ∃ diagnostic, Program.parse source = .error diagnostic ∧
      (more = [] → diagnostic.span = (Token.finishAt (Place.start.after source.toList)).span) := by
  obtain ⟨levels, enough⟩ : ∃ levels, maxNesting = levels + 2 := ⟨254, rfl⟩
  let finish := Token.finishAt (Place.start.after source.toList)
  let receiver := Parser.disjunction (Parser.grammar levels)
  have refused (diagnostic : Diagnostic)
      (run : (receiver >>= fun _ => Parser.complain word .misplacedOf : Parser Expr).run
        ⟨some word, more, finish⟩ = .error diagnostic) :
      Program.parse source = .error diagnostic := by
    have stated : (Parser.statements (Parser.grammar (levels + 2))).run
        ⟨none, Token.inner source, finish⟩ = .error diagnostic :=
      Parser.statements_run_number is_number is_of written run
    rw [Program.parse, Token.scan_eq_append, Program.ofTokens,
      Cursor.ofTokens_append (fun _ => Token.kind_ne_finish_of_mem_inner) rfl, enough, stated]
    rfl
  have asks (ended : more = []) : ∃ diagnostic,
      receiver.run ⟨some word, more, finish⟩ = .error diagnostic ∧
        diagnostic.span = finish.span := by
    have refuses : Parser.Refuses receiver :=
      inferInstanceAs (Parser.Refuses (Parser.disjunction (Parser.grammar levels)))
    exact refuses.refuses ⟨ended, rfl⟩
  cases run : receiver.run ⟨some word, more, finish⟩ with
  | error diagnostic =>
      refine ⟨diagnostic, refused _ (Parser.run_bind_of_error run _), fun ended => ?_⟩
      obtain ⟨_, again, span⟩ := asks ended
      rw [run] at again
      cases again
      exact span
  | ok result =>
      have misplaced := Parser.run_bind_of_ok run fun _ =>
        (Parser.complain word .misplacedOf : Parser Expr)
      refine ⟨_, refused _ misplaced, fun ended => ?_⟩
      obtain ⟨_, again, _⟩ := asks ended
      rw [run] at again
      cases again

/-! ## Written numbers -/

/-- The tokens of a number, a blank and `of` at the start of a text, if the text ends there or goes
on with a new line. -/
theorem Token.inner_numeral_of {source : String} {first : Char} {rest tail : List Char}
    (digit : first.isDigit = true) (continues : ∀ d ∈ rest, continuesDigits d = true)
    (ends : tail = [] ∨ ∃ lines, tail = '\n' :: lines)
    (text : source.toList = first :: (rest ++ ' ' :: 'o' :: 'f' :: tail)) :
    ∃ number word operand place, number.kind = .int ∧ word.kind = .keyword .of ∧
      Token.inner source = number :: word :: (scanRest operand place tail).dropLast := by
  have number (operand : Bool) :
      firstChunk operand first (rest ++ ' ' :: 'o' :: 'f' :: tail) =
        numberChunk .int (first :: rest) (' ' :: 'o' :: 'f' :: tail) := by
    obtain ⟨taken, dropped⟩ := takeWhile_append_stop continuesDigits
      (show continuesDigits ' ' = false by decide) rest ('o' :: 'f' :: tail)
    rw [List.takeWhile_eq_self_iff.2 continues] at taken
    rw [List.dropWhile_eq_nil_iff.2 continues, List.nil_append] at dropped
    rw [firstChunk_digit digit, numeralChunk, taken, dropped]
    rfl
  have word (operand : Bool) : firstChunk operand 'o' ('f' :: tail) =
      { meaning := .token (.keyword .of) "of", source := ['o', 'f'], rest := tail } := by
    rcases ends with rfl | ⟨lines, rfl⟩ <;> rfl
  have blank (operand : Bool) : firstChunk operand ' ' ('o' :: 'f' :: tail) =
      { meaning := .gap, source := [' '], rest := 'o' :: 'f' :: tail } := rfl
  have scanned : Token.inner source = (scanRest false .start source.toList).dropLast := rfl
  rw [text, scanRest_token (number false) rfl, dropLast_scanRest_cons, numberChunk,
    scanRest_gap (blank _) rfl, scanRest_token (word _) rfl, dropLast_scanRest_cons] at scanned
  exact ⟨_, _, _, _, rfl, rfl, scanned⟩

/-- A numeral and `of` wait for more lines, and are the start of no program. -/
theorem Program.numeral_before_of {written : List Char} (numeral : IsNumeral written) :
    Program.awaitsMore (String.ofList written ++ " of") = true ∧
      ∀ lines, (Program.parse (String.ofList written ++ " of" ++ "\n" ++ lines)).isOk = false := by
  obtain ⟨first, rest, rfl, digit, continues⟩ := numeral
  have text : (String.ofList (first :: rest) ++ " of").toList =
      first :: (rest ++ [' ', 'o', 'f']) := by
    rw [String.toList_append, String.toList_ofList]
    rfl
  constructor
  · obtain ⟨number, word, operand, place, is_number, is_of, inner⟩ :=
      Token.inner_numeral_of digit continues (.inl rfl) text
    obtain ⟨diagnostic, failed, at_end⟩ := Program.parse_number_of is_number is_of inner
    rw [Program.awaitsMore, failed, decide_eq_true_eq, at_end rfl, ← Place.offset_start_after]
    exact Nat.le_refl _
  · intro lines
    have longer : (String.ofList (first :: rest) ++ " of" ++ "\n" ++ lines).toList =
        first :: (rest ++ ' ' :: 'o' :: 'f' :: '\n' :: lines.toList) := by
      rw [Token.toList_append_line, text, List.cons_append, List.append_assoc]
      rfl
    obtain ⟨number, word, operand, place, is_number, is_of, inner⟩ :=
      Token.inner_numeral_of digit continues (.inr ⟨lines.toList, rfl⟩) longer
    obtain ⟨diagnostic, failed, _⟩ := Program.parse_number_of is_number is_of inner
    rw [failed]
    rfl

/-- Whatever number stands in front of `of`, the prompt waits for lines of which none can help. -/
theorem number_before_of_waits_in_vain (number : Nat) :
    Program.awaitsMore (number.repr ++ " of") = true ∧
      ∀ lines, (Program.parse (number.repr ++ " of" ++ "\n" ++ lines)).isOk = false := by
  rw [Nat.repr_eq_ofList_toDigits]
  apply Program.numeral_before_of
  have digits : ∀ d ∈ Nat.toDigits 10 number, d.isDigit = true := fun _ member =>
    Nat.isDigit_of_mem_toDigits (by decide) (by decide) member
  exact IsNumeral.of_digits Nat.toDigits_ne_nil digits

theorem one_before_of_waits_in_vain :
    Program.awaitsMore "1 of" = true ∧
      ¬ ∃ lines, (Program.parse ("1 of" ++ "\n" ++ lines)).isOk = true := by
  have numeral : IsNumeral ['1'] := ⟨'1', [], rfl, rfl, nofun⟩
  obtain ⟨waits, never⟩ := Program.numeral_before_of numeral
  refine ⟨waits, ?_⟩
  rintro ⟨lines, parses⟩
  rw [show "1 of" = String.ofList ['1'] ++ " of" from rfl, never lines] at parses
  cases parses

end DotScript
