import DotScript.Proofs.Parser.Indexed.Statements
import DotScript.Proofs.Parser.Seam.Programs
import DotScript.Proofs.Parser.Statements
import Mathlib.Data.List.TakeWhile

/-!
# Parsing moves on and stops

The walkers are tied together by fuel as the grammar is by levels.  On every token list they come to
the same as the parsers: with two units of fuel more than there are tokens they do not run out of
it, they never ask for a token that is not there, and whatever they come to, they are in as many
nested parsers as before.
-/

namespace DotScript
namespace Walker

open Cursor

variable {α : Type} {tokens : List Token} {depth fuel : Nat} {cursor : Cursor}

/-! ## Rules with fuel -/

/-- The walkers with some fuel: so many may be nested in one another, and so often a loop may
turn. -/
def rules : Nat → Rules
  | 0 =>
    { turns := 0
      expression := throw .outOfFuel
      power := throw .outOfFuel
      unary := throw .outOfFuel
      statement := throw .outOfFuel }
  | fuel + 1 =>
    { turns := fuel + 1
      expression := nested (expression (rules fuel))
      power := nested (power (rules fuel))
      unary := nested (unary (rules fuel))
      statement := nested (statement (rules fuel)) }

/-- With any fuel, the walkers serve the grammar with the levels that are left. -/
theorem rules_serve (tokens : List Token) (depth fuel : Nat) :
    (rules fuel).Serves tokens depth fuel (Parser.grammar (maxNesting - depth)) := by
  -- one nested parser more around leaves one level less of the grammar
  induction fuel generalizing depth with
  | zero => exact ⟨Nat.le_refl 0, .outOfFuel, .outOfFuel, .outOfFuel, .outOfFuel⟩
  | succ fuel ih =>
      rcases Nat.lt_or_ge depth maxNesting with room | deep
      · have one_more : maxNesting - depth = maxNesting - (depth + 1) + 1 := by omega
        rw [one_more]
        exact
          { turns := Nat.le_refl _
            expression := .nested room (expression_walks (ih (depth + 1)))
            power := .nested room (power_walks (ih (depth + 1)))
            unary := .nested room (unary_walks (ih (depth + 1)))
            statement := .nested room (statement_walks (ih (depth + 1))) }
      · rw [Nat.sub_eq_zero_of_le deep]
        exact
          { turns := Nat.le_refl _
            expression := .nested_tooDeep deep
            power := .nested_tooDeep deep
            unary := .nested_tooDeep deep
            statement := .nested_tooDeep deep }

/-! ## Programs -/

/-- All statements up to the end of the token list. -/
def statements (below : Rules) : Walker Program := do
  let stmts ← loop
    (fun stmts => do
      if ← atEnd then return none else return some ((← below.statement) :: stmts))
    below.turns []
  return stmts.reverse

theorem statements_walks {below : Rules} {below' : Parser.Grammar} [below'.Orderly]
    (serves : below.Serves tokens depth fuel below') :
    WalksAt tokens depth (fuel - 1) cursor (statements below) (Parser.statements below') := by
  have enough : fuel - 1 ≤ below.turns := Nat.le_trans (Nat.sub_le _ _) serves.turns
  rw [Parser.statements_eq]
  refine .bind (.loop Parser.addStatement_shorter ?_ enough []) fun _ => .pure _
  refine .of_walk walk_atEnd (.of_run rfl (.ite (fun _ => .pure none) fun _ => ?_))
  exact .bind serves.statement fun _ => .pure _

/-- A token list with an end behind it, unless its last token is an end. -/
def closed (tokens : List Token) : List Token :=
  match tokens.getLast? with
  | some last =>
    if last.kind = .finish then tokens
    else tokens ++ [.finishAt { offset := last.span.stop, line := max last.span.line 1 }]
  | none => [.finishAt .start]

/-- Parses a token list with some fuel. -/
def parseWithin (fuel : Nat) (tokens : List Token) : Except Stop Program × Position :=
  (statements (rules fuel)).walk (closed tokens) { index := 0, depth := 0 }

theorem exists_closed_eq (tokens : List Token) : ∃ more, closed tokens = tokens ++ more := by
  unfold closed
  cases last : tokens.getLast? with
  | none => exact ⟨_, by rw [List.getLast?_eq_none_iff.1 last]; rfl⟩
  | some token =>
      dsimp only
      split
      · exact ⟨[], (List.append_nil tokens).symm⟩
      · exact ⟨_, rfl⟩

/-- A list without an end is closed by the one that the parsers take for its end. -/
theorem closed_of_inner (inner : ∀ token ∈ tokens, token.kind ≠ .finish) :
    closed tokens = tokens ++ [finishOf tokens] := by
  have none_found : tokens.find? (·.kind = .finish) = none :=
    List.find?_eq_none.2 (by simpa using inner)
  rw [closed, finishOf, none_found]
  cases last : tokens.getLast? with
  | none => rw [List.getLast?_eq_none_iff.1 last]; rfl
  | some token =>
      dsimp only
      rw [if_neg (inner token (List.mem_of_getLast? last))]

/-- The cursor of a parser stands at the start of the list that a walker is given. -/
theorem standsAt_ofTokens (tokens : List Token) :
    (Cursor.ofTokens tokens).StandsAt (closed tokens) 0 := by
  cases found : tokens.find? (·.kind = .finish) with
  | some finish =>
      obtain ⟨ends, inner, beyond, rfl, none_inside⟩ := List.find?_eq_some_iff_append.1 found
      have ends : finish.kind = .finish := by simpa using ends
      have none_inside : ∀ token ∈ inner, token.kind ≠ .finish := by simpa using none_inside
      obtain ⟨more, closed_eq⟩ := exists_closed_eq (inner ++ finish :: beyond)
      rw [closed_eq, ofTokens_append_cons none_inside ends, List.append_assoc, List.cons_append]
      exact @StandsAt.mk [] inner _ finish none_inside ends
  | none =>
      have inner : ∀ token ∈ tokens, token.kind ≠ .finish := by
        simpa using List.find?_eq_none.1 found
      rw [closed_of_inner inner, Cursor.ofTokens, List.takeWhile_eq_self_iff.2 (by simpa using inner)]
      exact @StandsAt.mk [] tokens [] _ inner (finishOf_kind tokens)

/-- From the start a cursor gets to every index up to the first end. -/
theorem exists_standsAt (tokens : List Token) {index : Nat}
    (within : index ≤ firstEnd (closed tokens)) :
    ∃ cursor : Cursor, cursor.StandsAt (closed tokens) index := by
  have start := standsAt_ofTokens tokens
  generalize Cursor.ofTokens tokens = cursor at start
  have enough : index ≤ cursor.rest.length := by
    rw [← start.index_add] at within
    omega
  have passes : cursor.Passes (cursor.rest.take index)
      { cursor with
        previous := (cursor.rest.take index).getLast?.or cursor.previous
        rest := cursor.rest.drop index } :=
    ⟨(List.take_append_drop index cursor.rest).symm, rfl, rfl⟩
  have stands := start.passes passes
  rw [List.length_take_of_le enough, Nat.zero_add] at stands
  exact ⟨_, stands⟩

/-! ## Progress -/

/-- What a walker for something nested comes to from where it was before: it asks for no token that
is not there and does not move past the first end, it is in as many nested parsers as before, and
with a result it has moved on. -/
structure Keeps (tokens : List Token) (before : Position) (walked : Except Stop α × Position) :
    Prop where
  in_range : walked.1 ≠ .error .outOfRange
  within : walked.2.index ≤ firstEnd tokens
  depth : walked.2.depth = before.depth
  progress : walked.1.isOk = true → before.index < walked.2.index

/-- From every index up to the first end and in any number of nested parsers, the walkers for what is
nested keep to a token list. -/
structure Rules.Keep (below : Rules) (tokens : List Token) : Prop where
  expression : ∀ position, position.index ≤ firstEnd tokens →
    Keeps tokens position (below.expression.walk tokens position)
  power : ∀ position, position.index ≤ firstEnd tokens →
    Keeps tokens position (below.power.walk tokens position)
  unary : ∀ position, position.index ≤ firstEnd tokens →
    Keeps tokens position (below.unary.walk tokens position)
  statement : ∀ position, position.index ≤ firstEnd tokens →
    Keeps tokens position (below.statement.walk tokens position)

theorem WalksAt.keeps {walker : Walker α} {parser : Parser α}
    (walks : WalksAt tokens depth fuel cursor walker parser) (moves_on : Parser.MovesOn parser)
    {index : Nat} (stands : cursor.StandsAt tokens index) :
    Keeps tokens ⟨index, depth⟩ (walker.walk tokens ⟨index, depth⟩) := by
  have told := walks.told stands
  generalize walker.walk tokens ⟨index, depth⟩ = walked at told ⊢
  generalize ran : parser.run cursor = outcome at told
  cases told with
  | value next_stands =>
      obtain ⟨taken, some_taken, passes⟩ := moves_on ran stands.finish
      refine ⟨nofun, next_stands.index_le, rfl, fun _ => ?_⟩
      have before := stands.index_add
      have after := next_stands.index_add
      have longer := List.length_pos_iff.2 some_taken
      rw [passes.rest, List.length_append] at before
      dsimp only
      omega
  | complaint last_stands => exact ⟨nofun, last_stands.index_le, rfl, nofun⟩
  | outOfFuel last_stands lacking => exact ⟨nofun, last_stands.index_le, rfl, nofun⟩

theorem rules_keep (fuel : Nat) (tokens : List Token) : (rules fuel).Keep (closed tokens) := by
  have operands (levels : Nat) := Parser.grammar_orderly levels
  constructor <;> intro ⟨index, depth⟩ within <;>
    obtain ⟨cursor, stands⟩ := exists_standsAt tokens within <;>
    have serves := rules_serve (closed tokens) depth fuel
  case expression => exact serves.expression.keeps (operands _).expression.movesOn stands
  case power => exact serves.power.keeps (operands _).power.movesOn stands
  case unary => exact serves.unary.keeps (operands _).unary.movesOn stands
  case statement => exact serves.statement.keeps (Parser.grammar_statement_movesOn _) stands

/-- A walk over a whole program comes to the same as the parser of programs, or else it had less
fuel than two units more than there are tokens. -/
theorem parseWithin_told (fuel : Nat) (tokens : List Token) :
    Told (closed tokens) 0 (fuel < tokens.length + 2) (parseWithin fuel tokens)
      ((Parser.statements (Parser.grammar maxNesting)).run (.ofTokens tokens)) := by
  have walks : WalksAt (closed tokens) 0 (fuel - 1) (.ofTokens tokens) (statements (rules fuel))
      (Parser.statements (Parser.grammar maxNesting)) :=
    statements_walks (rules_serve _ 0 fuel)
  refine (walks.told (standsAt_ofTokens tokens)).mono fun lacking => ?_
  have fewer : (Cursor.ofTokens tokens).rest.length ≤ tokens.length :=
    (List.takeWhile_prefix _).length_le
  omega

/-- Parsing makes progress and stops.  The walkers for what is nested keep to the token list: they
ask for tokens that are there, stay before the first end, give back the number of nested parsers, and
move on whenever they succeed, as the parsers of the grammar do.  With two units of fuel more than
there are tokens, they come to what the parser of programs comes to. -/
theorem parsing_moves_on_and_stops (tokens : List Token) :
    firstEnd (closed tokens) < (closed tokens).length ∧
      (∀ fuel, (rules fuel).Keep (closed tokens)) ∧
      (∀ levels, Parser.MovesOn (Parser.grammar levels).expression ∧
        Parser.MovesOn (Parser.grammar levels).power ∧ Parser.MovesOn (Parser.grammar levels).unary ∧
        Parser.MovesOn (Parser.grammar levels).statement) ∧
      ∀ fuel, ((parseWithin fuel tokens).1 = (Program.ofTokens tokens).mapError .complaint ∨
          (parseWithin fuel tokens).1 = .error .outOfFuel ∧ fuel < tokens.length + 2) ∧
        (parseWithin fuel tokens).2.index ≤ firstEnd (closed tokens) ∧
        (parseWithin fuel tokens).2.depth = 0 := by
  refine ⟨(standsAt_ofTokens tokens).firstEnd_lt, fun fuel => rules_keep fuel tokens, fun levels => ?_,
    fun fuel => ?_⟩
  · have orderly := Parser.grammar_orderly levels
    exact ⟨orderly.expression.movesOn, orderly.power.movesOn, orderly.unary.movesOn,
      Parser.grammar_statement_movesOn levels⟩
  · have told := parseWithin_told fuel tokens
    rw [Program.ofTokens]
    generalize parseWithin fuel tokens = walked at told ⊢
    generalize (Parser.statements (Parser.grammar maxNesting)).run (.ofTokens tokens) = outcome
      at told ⊢
    cases told with
    | value stands => exact ⟨.inl rfl, stands.index_le, rfl⟩
    | complaint stands => exact ⟨.inl rfl, stands.index_le, rfl⟩
    | outOfFuel stands lacking => exact ⟨.inr ⟨rfl, lacking⟩, stands.index_le, rfl⟩

/-- Nothing behind an end is read, and in a list that does not end with one the walkers still find
all tokens they ask for. -/
theorem tokens_behind_an_end_are_not_read :
    let tokens : List Token :=
      [⟨.keyword .pass, "pass", ⟨0, 4, 1⟩⟩, .finishAt ⟨4, 1⟩, ⟨.identifier, "x", ⟨5, 6, 1⟩⟩]
    closed tokens = tokens ++ [.finishAt ⟨6, 1⟩] ∧
      (parseWithin 5 tokens).1 = .ok [.pass ⟨0, 4, 1⟩] ∧
      ((rules 4).statement.walk (closed tokens) ⟨0, 7⟩).2 = ⟨1, 7⟩ ∧
      ((rules 4).expression.walk (closed tokens) ⟨0, 7⟩).1 ≠ .error .outOfRange := by
  intro tokens
  obtain ⟨-, keep, -, parse⟩ := parsing_moves_on_and_stops tokens
  have enough : ¬5 < tokens.length + 2 := by decide
  have within : 0 ≤ firstEnd (closed tokens) := Nat.zero_le _
  have statement := (keep 4).statement ⟨0, 7⟩ within
  have succeeds : ((rules 4).statement.walk (closed tokens) ⟨0, 7⟩).1.isOk = true := rfl
  refine ⟨rfl, ((parse 5).1.resolve_right fun short => enough short.2).trans rfl, ?_,
    ((keep 4).expression ⟨0, 7⟩ within).in_range⟩
  have index : ((rules 4).statement.walk (closed tokens) ⟨0, 7⟩).2.index = 1 :=
    Nat.le_antisymm statement.within (statement.progress succeeds)
  exact congrArg₂ Position.mk index statement.depth

end Walker
end DotScript
