import DotScript.Proofs.Parser.Completion.Statements
import DotScript.Proofs.Source.Gaps

/-!
# Texts that wait and what they wait for

A text that waits for more goes on as a program, but for two things: a word `of` that is misplaced
shows only when what stands behind it is there, and a text may be nested so deeply that no level is
left to go on with.  `waiting_text_goes_on` says that these are the only ones.
-/

namespace DotScript

/-- Only the end of what stands behind the edge is marked as such. -/
theorem Beyond.tokens_eq_nil {beyond : Beyond} (ends : beyond.headKind = .finish) :
    beyond.tokens = [] := by
  cases tokens : beyond.tokens with
  | nil => rfl
  | cons token rest =>
      rw [beyond.headKind_of_cons tokens] at ends
      exact absurd ends (beyond.inner token (tokens ▸ List.mem_cons_self))

theorem Token.kind_finishAt (place : Place) : (finishAt place).kind = .finish :=
  rfl

/-- Nothing stands behind the edge. -/
def Beyond.nothing (place : Place) : Beyond where
  tokens := []
  finish := .finishAt place
  inner := List.forall_mem_nil _
  finish_kind := Token.kind_finishAt place

theorem Cursor.ofTokens_scan (source : String) : ofTokens (Token.scan source) =
    ⟨none, Token.inner source, .finishAt (Place.start.after source.toList)⟩ := by
  rw [Token.scan_eq_append, ofTokens_append (fun _ => Token.kind_ne_finish_of_mem_inner) rfl]

/-- The start of a text that goes on with fillers. -/
theorem Cursor.ofTokens_scan_append {source whole : String} {fillers : List Filler}
    {more : List Token} (spell : Filler.Spell fillers more) {place : Place}
    (scanned : Token.scan whole = Token.inner source ++ (more ++ [.finishAt place])) :
    ofTokens (Token.scan whole) =
      (ofTokens (Token.scan source)).onward ((Beyond.nothing place).prepend spell) := by
  have inside (token : Token) (member : token ∈ Token.inner source ++ more) :
      token.kind ≠ .finish :=
    (List.mem_append.1 member).elim Token.kind_ne_finish_of_mem_inner (spell.kind_ne_finish token)
  rw [scanned, ofTokens_scan, ← List.append_assoc, ofTokens_append inside rfl]
  simp only [onward, Beyond.prepend, Beyond.nothing, List.append_nil]

namespace Edge

open DotScript.Parser

variable {edge : Edge}

/-! ## The loop over statements -/

instance {rules rules' : Grammar} [rules.Deepens rules'] (stmts : List Stmt) :
    Deepens (addStatement rules stmts) (addStatement rules' stmts) := by
  unfold addStatement
  infer_instance

theorem supplies_addStatement (rules : Grammar) (stmts : List Stmt) :
    edge.Supplies (fun kind => kind = .finish) (· = none) [] (addStatement rules stmts) := by
  intro previous more tail spell fit
  rw [Beyond.prepend_nil, addStatement_run_nil (Beyond.tokens_eq_nil (of_decide_eq_true fit))]
  exact .reaches rfl

/-- A program that runs out goes on with one more level. -/
theorem completes_statements (levels : Nat) :
    edge.Completes (fun kind => kind = .finish) (fun _ => True) [] (statements (grammar levels))
      (statements (grammar (levels + 1))) := by
  have deepens := grammar_deepens (Nat.le_succ levels)
  have steps (stmts : List Stmt) (cursor : Cursor) (holds : edge.Holds cursor)
      (inside : cursor.rest ≠ []) :
      edge.CompletesAt (fun kind => kind = .finish) (fun _ => True)
        (addStatement (grammar levels) stmts) (addStatement (grammar (levels + 1)) stmts)
        cursor := by
    have closes (kind : Token.Kind) (fit : decide (kind = .finish) = true) :
        kind.closes = true := by
      rw [of_decide_eq_true fit]
      rfl
    have statement := (completesBelow_grammar levels).statement.inside cursor holds inside
    exact .beforeEnd inside ((statement.mono (fun _ => id) closes).map fun _ => id)
  have stable (stmts : List Stmt) : edge.Stable (addStatement (grammar (levels + 1)) stmts) :=
    .beforeEnd <| .bind (stable_grammar_statement _) fun _ => .pure _
  have loop := Completes.whileSome (fun _ _ _ _ => addStatement_shorter)
    (fun _ _ _ _ => addStatement_shorter) stable steps (supplies_addStatement _) []
  exact loop.map fun _ => id

/-! ## Source texts -/

/-- The edge where a source text stops. -/
def ofSource (source : String) : Edge where
  tokens := Token.inner source
  finish := .finishAt (Place.start.after source.toList)
  before token member := by
    have scanned : token ∈ Token.scan source := by
      rw [Token.scan_eq_append]
      exact List.mem_append_left _ member
    have inner_kind := Token.kind_ne_finish_of_mem_inner member
    have some_text := (Token.start_lt_stop_of_mem scanned).2 inner_kind
    have stop : token.span.stop ≤ (Place.start.after source.toList).offset := by
      rw [Place.offset_start_after]
      exact Token.stop_le_of_mem_inner member
    exact Nat.lt_of_lt_of_le some_text stop
  finish_kind := Token.kind_finishAt _

theorem holds_ofSource (source : String) :
    (ofSource source).Holds (.ofTokens (Token.scan source)) := by
  rw [Cursor.ofTokens_scan]
  exact ⟨fun _ => id, rfl⟩

end Edge

namespace Program

/-- Whether a text is nested so deeply that no level is left over. -/
def exhaustsNesting (source : String) : Bool :=
  match (Parser.statements (Parser.grammar (maxNesting - 1))).run
      (.ofTokens (Token.scan source)) with
  | .ok _ => false
  | .error diagnostic => diagnostic.fault = .malformed .tooDeep

/-- A text that waits runs out, with a level left over. -/
theorem runsOut_of_awaitsMore {source : String} (waits : awaitsMore source = true)
    (shallow : exhaustsNesting source = false) :
    (Edge.ofSource source).RunsOut
      ((Parser.statements (Parser.grammar (maxNesting - 1))).run
        (.ofTokens (Token.scan source))) := by
  have deepens := Parser.grammar_deepens (Nat.sub_le maxNesting 1)
  rw [exhaustsNesting] at shallow
  rw [awaitsMore, parse, ofTokens] at waits
  cases run : (Parser.statements (Parser.grammar (maxNesting - 1))).run
      (.ofTokens (Token.scan source)) with
  | ok result =>
      rw [Parser.Deepens.run_eq_of_ok run] at waits
      cases waits
  | error diagnostic =>
      rw [run, decide_eq_false_iff_not] at shallow
      rw [Parser.Deepens.run_eq_of_error run shallow] at waits
      refine .asked ?_ shallow
      have at_end : source.utf8ByteSize ≤ diagnostic.span.start := of_decide_eq_true waits
      rwa [← Place.offset_start_after] at at_end

end Program

namespace Token

/-- A text that does not end inside a string goes on with all fillers, after the end of a comment if
it ends inside one. -/
theorem exists_scan_eq_append {source : String} (outside : ending source ≠ .inString)
    (fillers : List Filler) :
    ∃ lines more place, Filler.Spell fillers more ∧
      scan (source ++ "\n" ++ lines) = inner source ++ (more ++ [finishAt place]) := by
  have scanned (lines : String) : scan (source ++ "\n" ++ lines) =
      scanRest false .start (source.toList ++ '\n' :: lines.toList) := by
    rw [← toList_append_line]
    rfl
  have filled {operand : Bool} {place : Place} {lines : String}
      (joined : scan (source ++ "\n" ++ lines) =
        inner source ++ scanRest operand place (Filler.render fillers)) :
      ∃ lines more place, Filler.Spell fillers more ∧
        scan (source ++ "\n" ++ lines) = inner source ++ (more ++ [finishAt place]) := by
    obtain ⟨more, rest, spell⟩ := Filler.exists_scanRest_render fillers operand place
    exact ⟨lines, more, _, spell, by rw [joined, rest]⟩
  cases ends : ending source with
  | whole =>
      have joined := scanned (String.ofList (Filler.render fillers))
      rw [String.toList_ofList, scanRest_join ends] at joined
      exact filled joined
  | inComment =>
      have joined := scanned (String.ofList ('<' :: '-' :: '-' :: Filler.render fillers))
      rw [String.toList_ofList, scanRest_join_of_inComment ends] at joined
      exact filled joined
  | inString => exact absurd ends outside

/-- A text whose last token is not an open string does not end inside a string. -/
theorem ending_ne_inString {source : String} {next : Kind}
    (joins : (Cursor.ofTokens (scan source)).JoinsTo next) : ending source ≠ .inString := by
  intro ends
  obtain ⟨front, token, _, _, inner_eq, kind, _⟩ := scanRest_join_of_inString ends .start []
  have last : (Cursor.ofTokens (scan source)).last = some token := by
    rw [Cursor.ofTokens_scan, Cursor.last, show inner source = front ++ [token] from inner_eq,
      List.getLast?_concat]
    rfl
  have joined := joins token last
  simp [kind, Kind.joins] at joined

end Token

/-- A text that waits for more goes on as a program, or with a complaint about a word `of` in it,
unless it is nested so deeply that no level is left over. -/
theorem waiting_text_goes_on {source : String} (waits : Program.awaitsMore source = true)
    (shallow : Program.exhaustsNesting source = false) :
    ∃ lines, (Program.parse (source ++ "\n" ++ lines)).isOk = true ∨
      ∃ word ∈ Token.inner source, word.kind = .keyword .of ∧
        Program.parse (source ++ "\n" ++ lines) = .error ⟨.malformed .misplacedOf, word.span⟩ := by
  have no_last (empty : (Cursor.ofTokens (Token.scan source)).rest = []) :
      (Cursor.ofTokens (Token.scan source)).last = none := by
    rw [Cursor.last, empty, Cursor.ofTokens_scan]
    rfl
  have completes := (Edge.completes_statements (maxNesting - 1)).at (Edge.holds_ofSource source)
    fun empty _ _ token found => by
      rw [no_last empty] at found
      cases found
  obtain ⟨fillers, joins, lands⟩ := completes (Program.runsOut_of_awaitsMore waits shallow)
  obtain ⟨lines, more, place, spell, scanned⟩ :=
    Token.exists_scan_eq_append (Token.ending_ne_inString (joins .finish rfl)) fillers
  have whole : Cursor.ofTokens (Token.scan (source ++ "\n" ++ lines)) =
      (Cursor.ofTokens (Token.scan source)).onward ((Beyond.nothing place).prepend spell) :=
    Cursor.ofTokens_scan_append spell scanned
  have landed : (Edge.ofSource source).Lands (fun _ => True) (.nothing place)
      ((Parser.statements (Parser.grammar maxNesting)).run
        (.ofTokens (Token.scan (source ++ "\n" ++ lines)))) := by
    rw [whole]
    exact lands more (.nothing place) spell rfl
  refine ⟨lines, ?_⟩
  rw [Program.parse, Program.ofTokens]
  generalize (Parser.statements _).run _ = outcome at landed ⊢
  cases landed with
  | reaches _ => exact .inl rfl
  | misplaced inside is_of => exact .inr ⟨_, inside, is_of, rfl⟩

/-- A list without its end waits, and goes on as a program. -/
theorem open_list_goes_on :
    Program.awaitsMore "if a: b = [1," = true ∧
      Program.exhaustsNesting "if a: b = [1," = false ∧
        ∃ lines, (Program.parse ("if a: b = [1," ++ "\n" ++ lines)).isOk = true ∨
          ∃ word ∈ Token.inner "if a: b = [1,", word.kind = .keyword .of ∧
            Program.parse ("if a: b = [1," ++ "\n" ++ lines) =
              .error ⟨.malformed .misplacedOf, word.span⟩ :=
  have waits : Program.awaitsMore "if a: b = [1," = true := by decide +kernel
  have shallow : Program.exhaustsNesting "if a: b = [1," = false := by decide +kernel
  ⟨waits, shallow, waiting_text_goes_on waits shallow⟩

end DotScript
