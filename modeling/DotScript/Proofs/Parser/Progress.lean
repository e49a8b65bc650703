import DotScript.Parser.Program

/-!
# Parsers move forward

A parser moves its cursor over some tokens, and where no token is left it stays and complains about
nothing but the end.  Both are matters of the parts of a parser, so they are found by instances for
whole parsers and for what is left of them after some steps.  Parsers of expressions, moreover, take
a token at least and never stop right after a point or a semicolon; parsers of statements take a
token at least.
-/

namespace DotScript

namespace Cursor

/-- The cursor `after` is reached by taking the given tokens. -/
structure Passes (before : Cursor) (taken : List Token) (after : Cursor) : Prop where
  rest : before.rest = taken ++ after.rest
  finish : after.finish = before.finish
  previous : after.previous = taken.getLast?.or before.previous

theorem Passes.refl (cursor : Cursor) : cursor.Passes [] cursor :=
  ⟨rfl, rfl, rfl⟩

theorem Passes.trans {before middle after : Cursor} {first second : List Token}
    (left : before.Passes first middle) (right : middle.Passes second after) :
    before.Passes (first ++ second) after where
  rest := by rw [left.rest, right.rest, List.append_assoc]
  finish := right.finish.trans left.finish
  previous := by rw [right.previous, left.previous, List.getLast?_append, Option.or_assoc]

theorem Passes.length_le {before after : Cursor} {taken : List Token}
    (passes : before.Passes taken after) : after.rest.length ≤ before.rest.length := by
  have parts := congrArg List.length passes.rest
  rw [List.length_append] at parts
  omega

theorem Passes.previous_ne_none {before after : Cursor} {taken : List Token}
    (passes : before.Passes taken after) (earlier : before.previous ≠ none) :
    after.previous ≠ none := by
  rw [passes.previous]
  intro nothing
  exact earlier (Option.or_eq_none_iff.1 nothing).2

/-- No token is left. -/
structure AtEnd (cursor : Cursor) : Prop where
  rest : cursor.rest = []
  finish : cursor.finish.kind = .finish

/-- A cursor does not move past the end. -/
theorem Passes.eq_of_atEnd {before after : Cursor} {taken : List Token}
    (passes : before.Passes taken after) (at_end : before.rest = []) : after = before := by
  obtain ⟨rfl, at_end'⟩ : taken = [] ∧ after.rest = [] :=
    List.append_eq_nil_iff.1 (passes.rest.symm.trans at_end)
  obtain ⟨previous, rest, finish⟩ := before
  obtain ⟨previous', rest', finish'⟩ := after
  obtain rfl : rest' = rest := at_end'.trans at_end.symm
  obtain rfl : finish' = finish := passes.finish
  obtain rfl : previous' = previous := passes.previous
  rfl

theorem peek_of_rest_eq_nil {cursor : Cursor} (at_end : cursor.rest = []) :
    cursor.peek = cursor.finish := by
  rw [peek, at_end, List.headD_nil]

theorem peek_of_rest_eq_cons {cursor : Cursor} {token : Token} {rest : List Token}
    (tokens : cursor.rest = token :: rest) : cursor.peek = token := by
  rw [peek, tokens, List.headD_cons]

theorem exists_cons_of_peek {cursor : Cursor} (finish : cursor.finish.kind = .finish)
    (inside : cursor.peek.kind ≠ .finish) : ∃ rest, cursor.rest = cursor.peek :: rest := by
  cases tokens : cursor.rest with
  | nil =>
      rw [peek_of_rest_eq_nil tokens, finish] at inside
      exact absurd rfl inside
  | cons token rest => exact ⟨rest, by rw [peek_of_rest_eq_cons tokens]⟩

theorem exists_cons_cons_of_peekNext {cursor : Cursor} (finish : cursor.finish.kind = .finish)
    (inside : cursor.peekNext.kind ≠ .finish) :
    ∃ rest, cursor.rest = cursor.peek :: cursor.peekNext :: rest := by
  rw [peek, peekNext] at *
  match tokens : cursor.rest with
  | [] =>
      rw [tokens, List.tail_nil, List.headD_nil, finish] at inside
      exact absurd rfl inside
  | [token] =>
      rw [tokens, List.tail_cons, List.headD_nil, finish] at inside
      exact absurd rfl inside
  | token :: second :: rest => exact ⟨rest, rfl⟩

end Cursor

namespace Parser

open Cursor

variable {α β : Type}

/-! ## Runs of the primitives -/

theorem run_bind_eq_ok {first : Parser α} {next : α → Parser β} {cursor final : Cursor} {last : β}
    (run : (first >>= next).run cursor = .ok (last, final)) :
    ∃ value middle, first.run cursor = .ok (value, middle) ∧
      (next value).run middle = .ok (last, final) := by
  rw [StateT.run_bind] at run
  cases outcome : first.run cursor with
  | error diagnostic =>
      rw [outcome] at run
      cases run
  | ok result =>
      rw [outcome] at run
      exact ⟨result.1, result.2, rfl, run⟩

theorem run_bind_eq_error {first : Parser α} {next : α → Parser β} {cursor : Cursor}
    {diagnostic : Diagnostic} (run : (first >>= next).run cursor = .error diagnostic) :
    first.run cursor = .error diagnostic ∨
      ∃ value middle, first.run cursor = .ok (value, middle) ∧
        (next value).run middle = .error diagnostic := by
  rw [StateT.run_bind] at run
  cases outcome : first.run cursor with
  | error cause =>
      rw [outcome] at run
      cases run
      exact .inl rfl
  | ok result =>
      rw [outcome] at run
      exact .inr ⟨result.1, result.2, rfl, run⟩

theorem run_bind_of_ok {first : Parser α} {cursor middle : Cursor} {value : α}
    (run : first.run cursor = .ok (value, middle)) (next : α → Parser β) :
    (first >>= next).run cursor = (next value).run middle := by
  rw [StateT.run_bind, run]
  rfl

theorem run_bind_of_error {first : Parser α} {cursor : Cursor} {diagnostic : Diagnostic}
    (run : first.run cursor = .error diagnostic) (next : α → Parser β) :
    (first >>= next).run cursor = .error diagnostic := by
  rw [StateT.run_bind, run]
  rfl

theorem advance_run_cons {cursor : Cursor} {token : Token} {rest : List Token}
    (tokens : cursor.rest = token :: rest) :
    advance.run cursor = .ok (token, { cursor with previous := some token, rest }) := by
  simp only [advance, StateT.run_bind, StateT.run_get, pure_bind, tokens]
  rfl

theorem advance_run_nil {cursor : Cursor} (at_end : cursor.rest = []) :
    advance.run cursor = .ok (cursor.finish, cursor) := by
  simp only [advance, StateT.run_bind, StateT.run_get, pure_bind, at_end]
  rfl

theorem refuse_run (wanted : Wanted) (cursor : Cursor) :
    (refuse wanted : Parser α).run cursor =
      .error { fault := .malformed (unexpected wanted cursor.peek), span := cursor.peek.span } :=
  rfl

theorem accept_run_of_eq {kind : Token.Kind} {cursor : Cursor} {token : Token} {rest : List Token}
    (tokens : cursor.rest = token :: rest) (same : token.kind = kind) :
    (accept kind).run cursor = .ok (true, { cursor with previous := some token, rest }) := by
  have head : cursor.peek.kind = kind := by rw [peek_of_rest_eq_cons tokens, same]
  have looked : peekKind.run cursor = .ok (cursor.peek.kind, cursor) := rfl
  rw [accept, run_bind_of_ok looked, if_pos head, run_bind_of_ok (advance_run_cons tokens)]
  rfl

theorem accept_run_of_ne {kind : Token.Kind} {cursor : Cursor} (other : cursor.peek.kind ≠ kind) :
    (accept kind).run cursor = .ok (false, cursor) := by
  have looked : peekKind.run cursor = .ok (cursor.peek.kind, cursor) := rfl
  rw [accept, run_bind_of_ok looked, if_neg other]
  rfl

/-- A mark that is not there leaves the cursor where it is. -/
theorem eq_of_accept_run_false {kind : Token.Kind} {cursor next : Cursor}
    (run : (accept kind).run cursor = .ok (false, next)) : next = cursor := by
  by_cases same : cursor.peek.kind = kind
  · have looked : peekKind.run cursor = .ok (cursor.peek.kind, cursor) := rfl
    rw [accept, run_bind_of_ok looked, if_pos same] at run
    obtain ⟨_, _, _, found⟩ := run_bind_eq_ok run
    cases found
  · rw [accept_run_of_ne same] at run
    cases run
    rfl

/-- A mark that is there is taken. -/
theorem accept_shorter {kind : Token.Kind} {cursor next : Cursor}
    (run : (accept kind).run cursor = .ok (true, next)) (inner : kind ≠ .finish)
    (finish : cursor.finish.kind = .finish) : next.rest.length < cursor.rest.length := by
  cases tokens : cursor.rest with
  | nil =>
      rw [accept_run_of_ne (by rw [peek_of_rest_eq_nil tokens, finish]; exact inner.symm)] at run
      cases run
  | cons token rest =>
      by_cases same : token.kind = kind
      · rw [accept_run_of_eq tokens same] at run
        cases run
        exact Nat.lt_succ_self _
      · rw [accept_run_of_ne (by rwa [peek_of_rest_eq_cons tokens])] at run
        cases run

theorem accept_run_atEnd {kind : Token.Kind} {cursor : Cursor} (at_end : cursor.AtEnd)
    (inner : kind ≠ .finish) : (accept kind).run cursor = .ok (false, cursor) := by
  apply accept_run_of_ne
  rw [peek_of_rest_eq_nil at_end.rest, at_end.finish]
  exact inner.symm

theorem expect_run_of_eq {kind : Token.Kind} {cursor : Cursor} {token : Token} {rest : List Token}
    (wanted : Wanted) (tokens : cursor.rest = token :: rest) (same : token.kind = kind) :
    (expect kind wanted).run cursor = .ok (token, { cursor with previous := some token, rest }) := by
  have head : cursor.peek.kind = kind := by rw [peek_of_rest_eq_cons tokens, same]
  have looked : peekKind.run cursor = .ok (cursor.peek.kind, cursor) := rfl
  rw [expect, run_bind_of_ok looked, if_pos head, advance_run_cons tokens]

theorem expect_run_of_ne {kind : Token.Kind} {cursor : Cursor} (wanted : Wanted)
    (other : cursor.peek.kind ≠ kind) :
    (expect kind wanted).run cursor =
      .error { fault := .malformed (unexpected wanted cursor.peek), span := cursor.peek.span } := by
  have looked : peekKind.run cursor = .ok (cursor.peek.kind, cursor) := rfl
  rw [expect, run_bind_of_ok looked, if_neg other, refuse_run]

theorem expect_run_atEnd {kind : Token.Kind} {cursor : Cursor} (wanted : Wanted)
    (at_end : cursor.AtEnd) (inner : kind ≠ .finish) :
    (expect kind wanted).run cursor =
      .error { fault := .malformed (unexpected wanted cursor.finish), span := cursor.finish.span } := by
  have other : cursor.peek.kind ≠ kind := by
    rw [peek_of_rest_eq_nil at_end.rest, at_end.finish]
    exact inner.symm
  rw [expect_run_of_ne wanted other, peek_of_rest_eq_nil at_end.rest]

/-! ## Movement -/

/-- The parser moves the cursor forward. -/
class Moves (parser : Parser α) : Prop where
  passes : ∀ {cursor value next}, parser.run cursor = .ok (value, next) →
    ∃ taken, cursor.Passes taken next

/-- Where no token is left the parser stays, and complains about the end only. -/
class Rests (parser : Parser α) : Prop extends Moves parser where
  blames : ∀ {cursor diagnostic}, parser.run cursor = .error diagnostic → cursor.AtEnd →
    diagnostic.span = cursor.finish.span

theorem Rests.run_atEnd {cursor : Cursor} (parser : Parser α) [Rests parser]
    (at_end : cursor.AtEnd) :
    (∃ value, parser.run cursor = .ok (value, cursor)) ∨
      ∃ diagnostic, parser.run cursor = .error diagnostic ∧
        diagnostic.span = cursor.finish.span := by
  cases run : parser.run cursor with
  | error diagnostic => exact .inr ⟨diagnostic, rfl, blames run at_end⟩
  | ok result =>
      obtain ⟨value, next⟩ := result
      obtain ⟨taken, passes⟩ := Moves.passes run
      rw [passes.eq_of_atEnd at_end.rest]
      exact .inl ⟨value, rfl⟩

/-- A parser that succeeds wherever it is and never moves the cursor. -/
theorem rests_of_unmoved {parser : Parser α}
    (succeeds : ∀ cursor, ∃ value, parser.run cursor = .ok (value, cursor)) : Rests parser where
  passes {cursor value next} run := by
    obtain ⟨found, same⟩ := succeeds cursor
    rw [same] at run
    cases run
    exact ⟨[], .refl _⟩
  blames {cursor diagnostic} run _ := by
    obtain ⟨found, same⟩ := succeeds cursor
    rw [same] at run
    cases run

instance (value : α) : Rests (pure value : Parser α) := rests_of_unmoved fun _ => ⟨value, rfl⟩

instance : Rests (get : Parser Cursor) := rests_of_unmoved fun cursor => ⟨cursor, rfl⟩

instance : Rests peek := rests_of_unmoved fun cursor => ⟨cursor.peek, rfl⟩

instance : Rests peekKind := rests_of_unmoved fun cursor => ⟨cursor.peek.kind, rfl⟩

instance : Rests peekNextKind := rests_of_unmoved fun cursor => ⟨cursor.peekNext.kind, rfl⟩

theorem spanFrom_run (start : Span) (cursor : Cursor) :
    (spanFrom start).run cursor =
      .ok ((cursor.previous.map fun token => start.to token.span).getD start, cursor) := by
  have looked : (get : Parser Cursor).run cursor = .ok (cursor, cursor) := rfl
  rw [spanFrom, run_bind_of_ok looked]
  cases cursor.previous <;> rfl

instance (start : Span) : Rests (spanFrom start) :=
  rests_of_unmoved fun cursor => ⟨_, spanFrom_run start cursor⟩

instance (token : Token) (fault : SyntaxFault) : Moves (complain token fault : Parser α) where
  passes run := by cases run

instance (wanted : Wanted) : Rests (refuse wanted : Parser α) where
  passes run := by cases run
  blames run at_end := by
    cases run
    rw [peek_of_rest_eq_nil at_end.rest]

instance : Rests (tooDeep : Parser α) where
  passes run := by cases run
  blames run at_end := by
    cases run
    rw [peek_of_rest_eq_nil at_end.rest]

instance : Rests advance where
  passes {cursor value next} run := by
    cases tokens : cursor.rest with
    | nil =>
        rw [advance_run_nil tokens] at run
        cases run
        exact ⟨[], .refl _⟩
    | cons token rest =>
        rw [advance_run_cons tokens] at run
        cases run
        exact ⟨[_], tokens, rfl, rfl⟩
  blames {cursor diagnostic} run at_end := by
    rw [advance_run_nil at_end.rest] at run
    cases run

theorem Moves.bind {first : Parser α} {next : α → Parser β} (moves : Moves first)
    (later : ∀ value, Moves (next value)) : Moves (first >>= next) where
  passes run := by
    obtain ⟨value, middle, first_run, next_run⟩ := run_bind_eq_ok run
    obtain ⟨_, first_passes⟩ := moves.passes first_run
    obtain ⟨_, next_passes⟩ := (later value).passes next_run
    exact ⟨_, first_passes.trans next_passes⟩

theorem Rests.bind {first : Parser α} {next : α → Parser β} (rests : Rests first)
    (later : ∀ value, Rests (next value)) : Rests (first >>= next) where
  toMoves := .bind rests.toMoves fun value => (later value).toMoves
  blames {cursor diagnostic} run at_end := by
    rcases run_bind_eq_error run with failed | ⟨value, middle, first_run, next_run⟩
    · exact rests.blames failed at_end
    · obtain ⟨_, passes⟩ := rests.passes first_run
      obtain rfl := passes.eq_of_atEnd at_end.rest
      exact (later value).blames next_run at_end

instance {first : Parser α} {next : α → Parser β} [Moves first] [∀ value, Moves (next value)] :
    Moves (first >>= next) :=
  .bind inferInstance inferInstance

instance {first : Parser α} {next : α → Parser β} [Rests first] [∀ value, Rests (next value)] :
    Rests (first >>= next) :=
  .bind inferInstance inferInstance

instance {condition : Prop} [Decidable condition] {yes no : Parser α} [Moves yes] [Moves no] :
    Moves (if condition then yes else no) := by
  split <;> infer_instance

instance {condition : Prop} [Decidable condition] {yes no : Parser α} [Rests yes] [Rests no] :
    Rests (if condition then yes else no) := by
  split <;> infer_instance

instance (kind : Token.Kind) : Rests (accept kind) := by
  unfold accept
  infer_instance

instance (kind : Token.Kind) (wanted : Wanted) : Rests (expect kind wanted) := by
  unfold expect
  infer_instance

instance (word : Keyword) : Rests (expectKeyword word) := by
  unfold expectKeyword
  infer_instance

instance (role : String) : Rests (expectName role) := by
  unfold expectName
  infer_instance

/-- What follows a token that may be there does not matter at the end. -/
theorem rests_accept {kind : Token.Kind} {yes no : Parser α} [Moves yes] [Rests no]
    (inner : kind ≠ .finish) :
    Rests (accept kind >>= fun found => if found then yes else no) where
  toMoves := inferInstance
  blames run at_end := by
    rw [run_bind_of_ok (accept_run_atEnd at_end inner), if_neg Bool.false_ne_true] at run
    exact Rests.blames run at_end

instance {step : α → Parser (Option α)} {next : α → Parser α} [∀ state, Moves (step state)]
    [∀ state, Moves (next state)] (state : α) : Moves (turn step next state) := by
  refine .bind inferInstance fun answer => ?_
  cases answer <;> infer_instance

instance {step : α → Parser (Option α)} {next : α → Parser α} [∀ state, Rests (step state)]
    [∀ state, Rests (next state)] (state : α) : Rests (turn step next state) := by
  refine .bind inferInstance fun answer => ?_
  cases answer <;> infer_instance

instance {step : α → Parser (Option α)} [∀ state, Moves (step state)] (tokens : List Token)
    (state : α) : Moves (repeatAlong step tokens state) := by
  induction tokens generalizing state with
  | nil => exact inferInstanceAs (Moves (turn step pure state))
  | cons token tokens ih => exact inferInstanceAs (Moves (turn step (repeatAlong step tokens) state))

instance {step : α → Parser (Option α)} [∀ state, Rests (step state)] (tokens : List Token)
    (state : α) : Rests (repeatAlong step tokens state) := by
  induction tokens generalizing state with
  | nil => exact inferInstanceAs (Rests (turn step pure state))
  | cons token tokens ih => exact inferInstanceAs (Rests (turn step (repeatAlong step tokens) state))

instance {step : α → Parser (Option α)} [∀ state, Moves (step state)] (state : α) :
    Moves (whileSome step state) := by
  unfold whileSome
  infer_instance

instance {step : α → Parser (Option α)} [∀ state, Rests (step state)] (state : α) :
    Rests (whileSome step state) := by
  unfold whileSome
  infer_instance

instance {item : List α → Parser α} [∀ earlier, Moves (item earlier)] : Moves (separated item) := by
  unfold separated
  infer_instance

instance {item : List α → Parser α} [∀ earlier, Rests (item earlier)] : Rests (separated item) := by
  unfold separated
  infer_instance

/-! ## Operands -/

/-- From one cursor to another a token at least is taken, and the last one ends an operand. -/
structure Closes (before after : Cursor) : Prop where
  shorter : after.rest.length < before.rest.length
  ends : ∃ token, after.previous = some token ∧ token.kind.endsOperand = true

theorem Closes.of_passes {before middle after : Cursor} {taken : List Token}
    (passes : before.Passes taken middle) (closes : Closes middle after) : Closes before after where
  shorter := Nat.lt_of_lt_of_le closes.shorter passes.length_le
  ends := closes.ends

theorem Closes.trans {before middle after : Cursor} (first : Closes before middle)
    (second : Closes middle after) : Closes before after where
  shorter := Nat.lt_trans second.shorter first.shorter
  ends := second.ends

/-- The parser asks for more at the end. -/
class Refuses (parser : Parser α) : Prop extends Moves parser where
  refuses : ∀ {cursor}, cursor.AtEnd → ∃ diagnostic, parser.run cursor = .error diagnostic ∧
    diagnostic.span = cursor.finish.span

/-- The parser asks for more at the end, and takes an operand elsewhere. -/
class Operand (parser : Parser α) : Prop extends Refuses parser where
  closes : ∀ {cursor value next}, parser.run cursor = .ok (value, next) →
    cursor.finish.kind = .finish → Closes cursor next

/-- The parser stays, or takes what ends with an operand. -/
class Trails (parser : Parser α) : Prop extends Moves parser where
  trails : ∀ {cursor value next}, parser.run cursor = .ok (value, next) →
    cursor.finish.kind = .finish → next = cursor ∨ Closes cursor next

instance {parser : Parser α} [refusing : Refuses parser] : Rests parser where
  toMoves := refusing.toMoves
  blames run at_end := by
    obtain ⟨diagnostic, refused, span⟩ := refusing.refuses at_end
    rw [refused] at run
    cases run
    exact span

theorem Refuses.bind {first : Parser α} {next : α → Parser β} (refusing : Refuses first)
    (later : ∀ value, Moves (next value)) : Refuses (first >>= next) where
  toMoves := .bind refusing.toMoves later
  refuses at_end := by
    obtain ⟨diagnostic, refused, span⟩ := refusing.refuses at_end
    exact ⟨diagnostic, run_bind_of_error refused next, span⟩

theorem Refuses.of_last {first : Parser α} {next : α → Parser β} (rests : Rests first)
    (later : ∀ value, Refuses (next value)) : Refuses (first >>= next) where
  toMoves := .bind rests.toMoves fun value => (later value).toMoves
  refuses at_end := by
    rcases Rests.run_atEnd first at_end with ⟨value, run⟩ | ⟨diagnostic, run, span⟩
    · rw [run_bind_of_ok run]
      exact (later value).refuses at_end
    · exact ⟨diagnostic, run_bind_of_error run next, span⟩

theorem Refuses.expect {kind : Token.Kind} (wanted : Wanted) (inner : kind ≠ .finish) :
    Refuses (expect kind wanted) where
  refuses at_end := ⟨_, expect_run_atEnd wanted at_end inner, rfl⟩

instance (wanted : Wanted) : Refuses (expect .parenOpen wanted) := .expect wanted nofun

instance (wanted : Wanted) : Refuses (expect .colon wanted) := .expect wanted nofun

instance (wanted : Wanted) : Refuses (expect .semicolon wanted) := .expect wanted nofun

instance (word : Keyword) : Refuses (expectKeyword word) := .expect _ nofun

instance {first : Parser α} {next : α → Parser β} [Refuses first] [∀ value, Moves (next value)] :
    Refuses (first >>= next) :=
  .bind inferInstance inferInstance

instance {first : Parser α} {next : α → Parser β} [Rests first] [∀ value, Refuses (next value)] :
    Refuses (first >>= next) :=
  .of_last inferInstance inferInstance

instance {parser : Parser α} [Operand parser] : Trails parser where
  toMoves := Refuses.toMoves
  trails run finish := .inr (Operand.closes run finish)

theorem Trails.pure (value : α) : Trails (pure value : Parser α) where
  toMoves := inferInstance
  trails run _ := by
    cases run
    exact .inl rfl

theorem Trails.complain (token : Token) (fault : SyntaxFault) :
    Trails (complain token fault : Parser α) where
  toMoves := inferInstance
  trails run _ := by cases run

theorem Trails.bind {first : Parser α} {next : α → Parser β} (trails : Trails first)
    (later : ∀ value, Trails (next value)) : Trails (first >>= next) where
  toMoves := .bind trails.toMoves fun value => (later value).toMoves
  trails {cursor last final} run finish := by
    obtain ⟨value, middle, first_run, next_run⟩ := run_bind_eq_ok run
    obtain ⟨_, passes⟩ := trails.passes first_run
    have finish' : middle.finish.kind = .finish := by rw [passes.finish, finish]
    rcases trails.trails first_run finish with rfl | first_closes
    · exact (later value).trails next_run finish'
    · rcases (later value).trails next_run finish' with rfl | next_closes
      · exact .inr first_closes
      · exact .inr (first_closes.trans next_closes)

theorem Trails.peek {next : Token → Parser α} (later : ∀ token, Trails (next token)) :
    Trails (peek >>= next) where
  toMoves := .bind inferInstance fun token => (later token).toMoves
  trails run finish := (later _).trails run finish

/-- Something that may follow an operand behind a mark. -/
theorem Trails.accept {kind : Token.Kind} {yes no : Parser α} (closing : Operand yes)
    (trailing : Trails no) : Trails (accept kind >>= fun found => if found then yes else no) where
  toMoves := .bind inferInstance fun found => by
    have := trailing.toMoves
    infer_instance
  trails {cursor last final} run finish := by
    obtain ⟨found, middle, first_run, next_run⟩ := run_bind_eq_ok run
    obtain ⟨_, passes⟩ := Moves.passes first_run
    have finish' : middle.finish.kind = .finish := by rw [passes.finish, finish]
    cases found with
    | true => exact .inr (.of_passes passes (closing.closes next_run finish'))
    | false =>
        obtain rfl := eq_of_accept_run_false first_run
        exact trailing.trails next_run finish

/-- The parser answers with nothing where it is, or with something that ends with an operand. -/
structure Extends (step : α → Parser (Option α)) : Prop where
  moves : ∀ state, Moves (step state)
  stays : ∀ {state cursor next}, (step state).run cursor = .ok (none, next) → next = cursor
  closes : ∀ {state state' cursor next}, (step state).run cursor = .ok (some state', next) →
    cursor.finish.kind = .finish → Closes cursor next

theorem Trails.turn {step : α → Parser (Option α)} {next : α → Parser α} (extension : Extends step)
    (later : ∀ state, Trails (next state)) (state : α) : Trails (turn step next state) where
  toMoves := by
    have := extension.moves
    have := fun state => (later state).toMoves
    infer_instance
  trails {cursor last final} run finish := by
    obtain ⟨answer, middle, first_run, next_run⟩ := run_bind_eq_ok run
    have := extension.moves
    obtain ⟨_, passes⟩ := Moves.passes first_run
    have finish' : middle.finish.kind = .finish := by rw [passes.finish, finish]
    cases answer with
    | none =>
        cases next_run
        exact .inl (extension.stays first_run)
    | some state' =>
        have closes := extension.closes first_run finish
        rcases (later state').trails next_run finish' with rfl | next_closes
        · exact .inr closes
        · exact .inr (closes.trans next_closes)

theorem Trails.whileSome {step : α → Parser (Option α)} (extension : Extends step) (state : α) :
    Trails (whileSome step state) where
  toMoves := by
    have := extension.moves
    infer_instance
  trails {cursor last final} run finish := by
    have along (tokens : List Token) (state : α) : Trails (repeatAlong step tokens state) := by
      induction tokens generalizing state with
      | nil => exact .turn extension .pure state
      | cons token tokens ih => exact .turn extension ih state
    exact (along cursor.rest state).trails run finish

/-- What trails an operand is part of it. -/
theorem Operand.bind {first : Parser α} {next : α → Parser β} (operand : Operand first)
    (later : ∀ value, Trails (next value)) : Operand (first >>= next) where
  toRefuses := .bind operand.toRefuses fun value => (later value).toMoves
  closes {cursor last final} run finish := by
    obtain ⟨value, middle, first_run, next_run⟩ := run_bind_eq_ok run
    obtain ⟨_, passes⟩ := operand.passes first_run
    have finish' : middle.finish.kind = .finish := by rw [passes.finish, finish]
    have closes := operand.closes first_run finish
    rcases (later value).trails next_run finish' with rfl | next_closes
    · exact closes
    · exact closes.trans next_closes

/-- What stands before an operand is part of it. -/
theorem Operand.of_last {first : Parser α} {next : α → Parser β} (rests : Rests first)
    (later : ∀ value, Operand (next value)) : Operand (first >>= next) where
  toRefuses := .of_last rests fun value => (later value).toRefuses
  closes {cursor last final} run finish := by
    obtain ⟨value, middle, first_run, next_run⟩ := run_bind_eq_ok run
    obtain ⟨_, passes⟩ := rests.passes first_run
    have finish' : middle.finish.kind = .finish := by rw [passes.finish, finish]
    exact .of_passes passes ((later value).closes next_run finish')

theorem Operand.expect {kind : Token.Kind} (wanted : Wanted) (ends : kind.endsOperand = true) :
    Operand (expect kind wanted) where
  toRefuses := by
    apply Refuses.expect wanted
    rintro rfl
    cases ends
  closes {cursor token next} run finish := by
    cases tokens : cursor.rest with
    | nil =>
        have inner : kind ≠ .finish := by
          rintro rfl
          cases ends
        rw [expect_run_atEnd wanted ⟨tokens, finish⟩ inner] at run
        cases run
    | cons first rest =>
        by_cases same : first.kind = kind
        · rw [expect_run_of_eq wanted tokens same] at run
          cases run
          refine ⟨?_, _, rfl, same ▸ ends⟩
          rw [tokens]
          exact Nat.lt_succ_self _
        · rw [← peek_of_rest_eq_cons tokens] at same
          rw [expect_run_of_ne wanted same] at run
          cases run

instance (role : String) : Operand (expectName role) := .expect _ rfl

instance (wanted : Wanted) : Operand (expect .parenClose wanted) := .expect wanted rfl

theorem Operand.refuse (wanted : Wanted) : Operand (refuse wanted : Parser α) where
  toMoves := inferInstance
  refuses at_end := ⟨_, refuse_run wanted _, by rw [peek_of_rest_eq_nil at_end.rest]⟩
  closes run _ := by cases run

theorem Operand.tooDeep : Operand (tooDeep : Parser α) where
  toMoves := inferInstance
  refuses {cursor} at_end := by
    refine ⟨{ fault := .malformed .tooDeep, span := cursor.peek.span }, rfl, ?_⟩
    rw [peek_of_rest_eq_nil at_end.rest]
  closes run _ := by cases run

/-- A comma and an operand behind it extend a list of operands. -/
theorem separatedStep_extends {item : List α → Parser α}
    (operand : ∀ earlier, Operand (item earlier)) :
    Extends fun items : List α => do
      if ← accept .comma then return some ((← item items) :: items) else return none where
  moves := inferInstance
  stays {items cursor next} run := by
    obtain ⟨found, middle, first_run, next_run⟩ := run_bind_eq_ok run
    cases found with
    | true =>
        obtain ⟨_, _, _, last⟩ := run_bind_eq_ok next_run
        cases last
    | false =>
        cases next_run
        exact eq_of_accept_run_false first_run
  closes {items items' cursor next} run finish := by
    obtain ⟨found, middle, first_run, next_run⟩ := run_bind_eq_ok run
    obtain ⟨_, passes⟩ := Moves.passes first_run
    have finish' : middle.finish.kind = .finish := by rw [passes.finish, finish]
    cases found with
    | true =>
        have closing : Operand (item items >>= fun value => pure (some (value :: items))) :=
          .bind (operand items) fun _ => .pure _
        exact .of_passes passes (closing.closes next_run finish')
    | false => cases next_run

/-- Operands with commas between them end with an operand. -/
theorem Operand.separated {item : List α → Parser α} (operand : ∀ earlier, Operand (item earlier)) :
    Operand (separated item) :=
  .bind (operand []) fun first =>
    .bind (.whileSome (separatedStep_extends operand) [first]) fun _ => .pure _

/-! ## Statements take tokens -/

/-- Where a token is left, the parser takes one at least. -/
class Takes (parser : Parser α) : Prop extends Moves parser where
  takes : ∀ {cursor value next}, parser.run cursor = .ok (value, next) →
    cursor.finish.kind = .finish → cursor.rest ≠ [] → next.rest.length < cursor.rest.length

theorem Takes.bind {first : Parser α} {next : α → Parser β} (takes : Takes first)
    (later : ∀ value, Moves (next value)) : Takes (first >>= next) where
  toMoves := .bind takes.toMoves later
  takes run finish inside := by
    obtain ⟨value, middle, first_run, next_run⟩ := run_bind_eq_ok run
    obtain ⟨_, passes⟩ := (later value).passes next_run
    exact Nat.lt_of_le_of_lt passes.length_le (takes.takes first_run finish inside)

theorem Takes.of_last {first : Parser α} {next : α → Parser β} (moves : Moves first)
    (later : ∀ value, Takes (next value)) : Takes (first >>= next) where
  toMoves := .bind moves fun value => (later value).toMoves
  takes {cursor last final} run finish inside := by
    obtain ⟨value, middle, first_run, next_run⟩ := run_bind_eq_ok run
    obtain ⟨_, passes⟩ := moves.passes first_run
    have finish' : middle.finish.kind = .finish := by rw [passes.finish, finish]
    have shorter := passes.length_le
    by_cases at_end : middle.rest = []
    · obtain ⟨_, last_passes⟩ := (later value).passes next_run
      have none_left := last_passes.length_le
      have some_left : 0 < cursor.rest.length := List.length_pos_iff.2 inside
      rw [at_end, List.length_nil] at none_left
      omega
    · have taken := (later value).takes next_run finish' at_end
      omega

instance : Takes advance where
  takes {cursor value next} run _ inside := by
    cases tokens : cursor.rest with
    | nil => exact absurd tokens inside
    | cons token rest =>
        rw [advance_run_cons tokens] at run
        cases run
        exact Nat.lt_succ_self _

instance (wanted : Wanted) : Takes (refuse wanted : Parser α) where
  takes run _ _ := by cases run

instance : Takes (tooDeep : Parser α) where
  takes run _ _ := by cases run

instance {parser : Parser α} [Operand parser] : Takes parser where
  toMoves := Refuses.toMoves
  takes run finish _ := (Operand.closes run finish).shorter

instance (kind : Token.Kind) (wanted : Wanted) : Takes (expect kind wanted) := by
  refine .of_last inferInstance fun found => ?_
  split <;> infer_instance

instance (word : Keyword) : Takes (expectKeyword word) :=
  inferInstanceAs (Takes (expect _ _))

/-! ## Names and parentheses that come last -/

/-- Where a name or an opening parenthesis is the last token, the parser takes it, or it complains
about the end or about depth. -/
class Settles (parser : Parser α) : Prop where
  settles : ∀ {cursor token}, cursor.rest = [token] →
    token.kind = .identifier ∨ token.kind = .parenOpen → cursor.finish.kind = .finish →
    (∃ value, parser.run cursor = .ok (value, { cursor with previous := some token, rest := [] })) ∨
      ∃ diagnostic, parser.run cursor = .error diagnostic ∧
        (diagnostic.span = cursor.finish.span ∨ diagnostic.fault = .malformed .tooDeep)

theorem Settles.bind {first : Parser α} {next : α → Parser β} (settling : Settles first)
    (later : ∀ value, Rests (next value)) : Settles (first >>= next) where
  settles {cursor token} tokens kind finish := by
    rcases settling.settles tokens kind finish with ⟨value, run⟩ | ⟨diagnostic, run, cause⟩
    · rw [run_bind_of_ok run]
      have := later value
      have at_end : ({ cursor with previous := some token, rest := [] } : Cursor).AtEnd :=
        ⟨rfl, finish⟩
      rcases Rests.run_atEnd (next value) at_end with ⟨last, next_run⟩ | ⟨diagnostic, next_run, span⟩
      · exact .inl ⟨last, next_run⟩
      · exact .inr ⟨diagnostic, next_run, .inl span⟩
    · exact .inr ⟨diagnostic, run_bind_of_error run next, cause⟩

instance : Settles advance where
  settles tokens _ _ := .inl ⟨_, advance_run_cons tokens⟩

theorem Settles.tooDeep : Settles (tooDeep : Parser α) where
  settles _ _ _ := .inr ⟨_, rfl, .inr rfl⟩

/-! ## The grammar -/

/-- What is nested in expressions and statements is in order. -/
class Grammar.Orderly (below : Grammar) : Prop where
  expression : Operand below.expression
  power : Operand below.power
  unary : Operand below.unary
  settles : Settles below.expression
  rests : Rests below.statement
  takes : Takes below.statement

attribute [instance] Grammar.Orderly.expression Grammar.Orderly.power Grammar.Orderly.unary
  Grammar.Orderly.settles Grammar.Orderly.rests Grammar.Orderly.takes

section Expressions

variable {below : Grammar} [below.Orderly]

theorem items_operand {close : Token.Kind} (wanted : Wanted) (ends : close.endsOperand = true) :
    Operand (items below close wanted) := by
  have closing (values : List Expr) : Operand (expect close wanted >>= fun token =>
      (pure (values, token.span) : Parser (List Expr × Span))) :=
    .bind (.expect wanted ends) fun _ => .pure _
  have rests : Rests (separated fun _ : List Expr => below.expression) := inferInstance
  refine .of_last inferInstance fun kind => ?_
  split
  · exact closing []
  · exact .of_last rests closing

/-- A constant or a name that is the next token. -/
theorem advance_closes {cursor next : Cursor} {token : Token}
    (run : advance.run cursor = .ok (token, next)) (ends : cursor.peek.kind.endsOperand = true)
    (finish : cursor.finish.kind = .finish) : Closes cursor next := by
  cases tokens : cursor.rest with
  | nil =>
      rw [peek_of_rest_eq_nil tokens, finish] at ends
      cases ends
  | cons first rest =>
      rw [peek_of_rest_eq_cons tokens] at ends
      rw [advance_run_cons tokens] at run
      cases run
      refine ⟨?_, _, rfl, ends⟩
      rw [tokens]
      exact Nat.lt_succ_self _

instance (value : Literal) : Rests (constant value) := by
  unfold constant
  infer_instance

theorem constant_closes {cursor next : Cursor} {value : Literal} {expr : Expr}
    (run : (constant value).run cursor = .ok (expr, next))
    (ends : cursor.peek.kind.endsOperand = true) (finish : cursor.finish.kind = .finish) :
    Closes cursor next := by
  obtain ⟨_, _, first_run, last⟩ := run_bind_eq_ok run
  cases last
  exact advance_closes first_run ends finish

instance : Rests (nameOrCall below) := by
  have args : Operand (items below .parenClose (.mark ")" "after arguments")) :=
    items_operand _ rfl
  unfold nameOrCall
  infer_instance

theorem nameOrCall_closes {cursor next : Cursor} {expr : Expr}
    (run : (nameOrCall below).run cursor = .ok (expr, next))
    (ends : cursor.peek.kind.endsOperand = true) (finish : cursor.finish.kind = .finish) :
    Closes cursor next := by
  obtain ⟨name, middle, first_run, next_run⟩ := run_bind_eq_ok run
  obtain ⟨_, passes⟩ := Moves.passes first_run
  have finish' : middle.finish.kind = .finish := by rw [passes.finish, finish]
  have closes := advance_closes first_run ends finish
  have args : Operand (items below .parenClose (.mark ")" "after arguments")) :=
    items_operand _ rfl
  have trailing : Trails (accept .parenOpen >>= fun found => if found then
      (items below .parenClose (.mark ")" "after arguments") >>= fun result =>
        (pure (.call name.text result.1 (name.span.to result.2)) : Parser Expr))
      else pure (.variable name.text name.span)) :=
    .accept (.bind args fun _ => .pure _) (.pure _)
  rcases trailing.trails next_run finish' with rfl | next_closes
  · exact closes
  · exact closes.trans next_closes

instance : Operand (group below) := by
  refine .of_last inferInstance fun start => .of_last inferInstance fun inner => ?_
  exact .bind (.expect _ rfl) fun close => .pure _

instance : Operand (listLiteral below) :=
  .of_last inferInstance fun _ => .bind (items_operand _ rfl) fun _ => .pure _

instance : Operand (setLiteral below) :=
  .of_last inferInstance fun _ => .bind (items_operand _ rfl) fun _ => .pure _

instance : Operand (primary below) where
  toMoves := by
    refine .bind inferInstance fun token => ?_
    split <;> try split
    all_goals infer_instance
  refuses {cursor} at_end := by
    have head : cursor.peek.kind = .finish := by rw [peek_of_rest_eq_nil at_end.rest, at_end.finish]
    have looked : peek.run cursor = .ok (cursor.peek, cursor) := rfl
    rw [primary, run_bind_of_ok looked, head]
    exact (Operand.refuse _).refuses at_end
  closes {cursor expr next} run finish := by
    have looked : peek.run cursor = .ok (cursor.peek, cursor) := rfl
    rw [primary, run_bind_of_ok looked] at run
    have ends {kind : Token.Kind} (same : cursor.peek.kind = kind) (operand : kind.endsOperand) :
        cursor.peek.kind.endsOperand = true := same ▸ operand
    split at run
    next same => exact constant_closes run (ends same rfl) finish
    next same =>
      split at run
      · exact constant_closes run (ends same rfl) finish
      · cases run
    next same => exact constant_closes run (ends same rfl) finish
    next same => exact constant_closes run (ends same rfl) finish
    next same => exact constant_closes run (ends same rfl) finish
    next same => exact constant_closes run (ends same rfl) finish
    next same => exact nameOrCall_closes run (ends same rfl) finish
    next => exact Operand.closes run finish
    next => exact Operand.closes run finish
    next => exact Operand.closes run finish
    next => cases run

instance : Settles (primary below) where
  settles {cursor token} tokens kind finish := by
    have looked : peek.run cursor = .ok (token, cursor) := by
      rw [← peek_of_rest_eq_cons tokens]
      rfl
    rw [primary, run_bind_of_ok looked]
    rcases kind with kind | kind
    · have args : Operand (items below .parenClose (.mark ")" "after arguments")) :=
        items_operand _ rfl
      have settling : Settles (nameOrCall below) := .bind inferInstance inferInstance
      rw [kind]
      exact settling.settles tokens (.inl kind) finish
    · have settling : Settles (group below) := .bind inferInstance inferInstance
      rw [kind]
      exact settling.settles tokens (.inr kind) finish

omit [below.Orderly] in
theorem exists_of_atMethodCall {cursor : Cursor} (calls : atMethodCall cursor = true) :
    ∃ dot name mark rest, cursor.rest = dot :: name :: mark :: rest ∧ dot.kind = .dot ∧
      name.kind = .identifier ∧ mark.kind = .parenOpen := by
  unfold atMethodCall at calls
  split at calls
  next dot name mark rest tokens =>
    simp only [Bool.and_eq_true, decide_eq_true_eq] at calls
    exact ⟨dot, name, mark, rest, tokens, calls.1.1.1, calls.1.1.2, calls.1.2⟩
  next => cases calls

instance (receiver : Expr) : Rests (methodCall below receiver) := by
  have args : Operand (items below .parenClose (.mark ")" "after method arguments")) :=
    items_operand _ rfl
  unfold methodCall
  infer_instance

theorem methodCall_extends : Extends (methodCall below) where
  moves := inferInstance
  stays {receiver cursor next} run := by
    have looked : (get : Parser Cursor).run cursor = .ok (cursor, cursor) := rfl
    rw [methodCall, run_bind_of_ok looked] at run
    split at run
    · obtain ⟨_, _, _, run⟩ := run_bind_eq_ok run
      obtain ⟨_, _, _, run⟩ := run_bind_eq_ok run
      obtain ⟨_, _, _, run⟩ := run_bind_eq_ok run
      obtain ⟨_, _, _, run⟩ := run_bind_eq_ok run
      cases run
    · cases run
      rfl
  closes {receiver expr cursor next} run finish := by
    have looked : (get : Parser Cursor).run cursor = .ok (cursor, cursor) := rfl
    rw [methodCall, run_bind_of_ok looked] at run
    split at run
    · refine @Operand.closes _ _ ?_ _ _ _ run finish
      refine .of_last inferInstance fun _ => .of_last inferInstance fun _ => ?_
      exact .of_last inferInstance fun _ => .bind (items_operand _ rfl) fun _ => .pure _
    · cases run

instance : Operand (methodChain below) :=
  .bind inferInstance fun receiver => .whileSome methodCall_extends receiver

instance : Settles (methodChain below) :=
  .bind inferInstance inferInstance

/-- Operators answer with nothing where they are. -/
class Peels (operator : Parser (Option α)) : Prop extends Rests operator where
  stays : ∀ {cursor next}, operator.run cursor = .ok (none, next) → next = cursor

theorem Peels.none : Peels (pure none : Parser (Option α)) where
  toRests := inferInstance
  stays run := by
    cases run
    rfl

theorem Peels.accept {kind : Token.Kind} {op : α} {operator : Parser (Option α)}
    (others : Peels operator) :
    Peels (accept kind >>= fun found => if found then pure (Option.some op) else operator) where
  toRests := inferInstance
  stays run := by
    obtain ⟨found, middle, first_run, next_run⟩ := run_bind_eq_ok run
    cases found with
    | true => cases next_run
    | false =>
        obtain rfl := eq_of_accept_run_false first_run
        exact others.stays next_run

instance : Peels unaryOperator := .accept (.accept .none)

instance : Peels termOperator := .accept (.accept .none)

instance : Peels andOperator := .accept .none

instance : Peels orOperator := .accept .none

instance : Peels factorOperator := by
  refine .accept (.accept (.accept ⟨fun {cursor next} run => ?_⟩))
  have looked : (get : Parser Cursor).run cursor = .ok (cursor, cursor) := rfl
  rw [run_bind_of_ok looked] at run
  split at run <;> cases run
  rfl

instance (op : BinaryOp) : Peels (take op) where
  toRests := by
    unfold take
    infer_instance
  stays run := by
    obtain ⟨_, _, _, last⟩ := run_bind_eq_ok run
    cases last

instance : Peels comparisonOperator where
  toRests := by
    refine .bind inferInstance fun kind => ?_
    split <;> infer_instance
  stays {cursor next} run := by
    have looked : peekKind.run cursor = .ok (cursor.peek.kind, cursor) := rfl
    have looked_next : peekNextKind.run cursor = .ok (cursor.peekNext.kind, cursor) := rfl
    rw [comparisonOperator, run_bind_of_ok looked] at run
    split at run
    case h_8 =>
      obtain ⟨_, _, _, run⟩ := run_bind_eq_ok run
      obtain ⟨found, _, _, run⟩ := run_bind_eq_ok run
      cases found <;> cases run
    case h_9 =>
      rw [run_bind_of_ok looked_next] at run
      split at run
      · obtain ⟨_, _, _, run⟩ := run_bind_eq_ok run
        obtain ⟨_, _, _, last⟩ := run_bind_eq_ok run
        cases last
      · cases run
        rfl
    case h_10 =>
      cases run
      rfl
    all_goals exact Peels.stays run

instance : Operand (unary below) := by
  refine .of_last inferInstance fun start => .of_last inferInstance fun answer => ?_
  cases answer with
  | none => exact inferInstanceAs (Operand (methodChain below))
  | some op => exact .bind inferInstance fun operand => .pure _

/-- Neither a name nor a parenthesis is a sign. -/
theorem unaryOperator_run_of_ne {cursor : Cursor} (minus : cursor.peek.kind ≠ .minus)
    (negation : cursor.peek.kind ≠ .not) : unaryOperator.run cursor = .ok (none, cursor) := by
  rw [unaryOperator, run_bind_of_ok (accept_run_of_ne minus), if_neg Bool.false_ne_true,
    run_bind_of_ok (accept_run_of_ne negation)]
  rfl

instance : Settles (unary below) where
  settles {cursor token} tokens kind finish := by
    have looked : peek.run cursor = .ok (cursor.peek, cursor) := rfl
    have unsigned : unaryOperator.run cursor = .ok (none, cursor) := by
      apply unaryOperator_run_of_ne <;> rw [peek_of_rest_eq_cons tokens] <;>
        rcases kind with kind | kind <;> rw [kind] <;> nofun
    rw [unary, run_bind_of_ok looked, run_bind_of_ok unsigned]
    exact Settles.settles tokens kind finish

instance : Operand (power below) :=
  .bind inferInstance fun _ => .accept (.bind inferInstance fun _ => .pure _) (.pure _)

instance : Settles (power below) :=
  .bind inferInstance inferInstance

omit [below.Orderly] in
theorem moves_chainStep (operand : Parser Expr) [Moves operand] (left : Expr)
    (answer : Option BinaryOp) : Moves (match answer with
      | some op => do return some (Expr.ofBinary op left (← operand))
      | none => (pure none : Parser (Option Expr))) := by
  cases answer <;> infer_instance

omit [below.Orderly] in
theorem rests_chainStep (operand : Parser Expr) [Rests operand] (left : Expr)
    (answer : Option BinaryOp) : Rests (match answer with
      | some op => do return some (Expr.ofBinary op left (← operand))
      | none => (pure none : Parser (Option Expr))) := by
  cases answer <;> infer_instance

omit [below.Orderly] in
/-- An operator and an operand behind it extend a chain. -/
theorem chainStep_extends (operator : Parser (Option BinaryOp)) (operand : Parser Expr)
    [Peels operator] [Operand operand] :
    Extends fun left : Expr => do
      match ← operator with
      | some op => return some (Expr.ofBinary op left (← operand))
      | none => return none where
  moves left := .bind inferInstance fun answer => moves_chainStep operand left answer
  stays {left cursor next} run := by
    obtain ⟨answer, middle, first_run, next_run⟩ := run_bind_eq_ok run
    cases answer with
    | none =>
        cases next_run
        exact Peels.stays first_run
    | some op =>
        obtain ⟨_, _, _, last⟩ := run_bind_eq_ok next_run
        cases last
  closes {left expr cursor next} run finish := by
    obtain ⟨answer, middle, first_run, next_run⟩ := run_bind_eq_ok run
    obtain ⟨_, passes⟩ := Moves.passes first_run
    have finish' : middle.finish.kind = .finish := by rw [passes.finish, finish]
    cases answer with
    | none => cases next_run
    | some op =>
        obtain ⟨_, _, operand_run, last⟩ := run_bind_eq_ok next_run
        cases last
        exact .of_passes passes (Operand.closes operand_run finish')

omit [below.Orderly] in
theorem chain_operand (operator : Parser (Option BinaryOp)) (operand : Parser Expr)
    [Peels operator] [Operand operand] : Operand (chain operator operand) :=
  .bind inferInstance fun first => .whileSome (chainStep_extends operator operand) first

omit [below.Orderly] in
theorem chain_settles (operator : Parser (Option BinaryOp)) (operand : Parser Expr)
    [Peels operator] [Operand operand] [Settles operand] : Settles (chain operator operand) := by
  have rests := rests_chainStep operand
  exact .bind inferInstance inferInstance

instance : Operand (factor below) := chain_operand _ _

instance : Settles (factor below) := chain_settles _ _

instance : Operand (term below) := chain_operand _ _

instance : Settles (term below) := chain_settles _ _

instance : Operand (comparison below) := chain_operand _ _

instance : Settles (comparison below) := chain_settles _ _

instance : Operand (conjunction below) := chain_operand _ _

instance : Settles (conjunction below) := chain_settles _ _

instance : Operand (disjunction below) := chain_operand _ _

instance : Settles (disjunction below) := chain_settles _ _

instance : Operand (expression below) := by
  refine .bind inferInstance fun value => .peek fun mark => ?_
  refine .accept (.bind inferInstance fun receiver => ?_) (.pure _)
  split
  · exact .pure _
  · exact .complain _ _

instance : Settles (expression below) := by
  refine .bind inferInstance fun value => .bind inferInstance fun mark => ?_
  have moves (receiver : Expr) : Moves (match value with
      | .call name args span => pure (.method receiver name args (span.to receiver.span))
      | _ => (complain mark .misplacedOf : Parser Expr)) := by
    split <;> infer_instance
  exact rests_accept nofun

end Expressions

section Statements

variable {below : Grammar} [below.Orderly]

instance : Rests terminator := by
  unfold terminator
  infer_instance

instance : Rests skipPoint := by
  unfold skipPoint
  infer_instance

instance (ends : Token.Kind → Bool) : Rests (block below ends) := by
  unfold block
  infer_instance

/-- A statement that is added to a block takes a token. -/
theorem blockStep_shorter {ends : Token.Kind → Bool} {stmts value : List Stmt} {cursor next : Cursor}
    (run : (do
      if ends (← peekKind) then return none
      else if (← get).atEnd then refuse (.mark ";" "to close the block")
      else return some ((← below.statement) :: stmts) : Parser (Option (List Stmt))).run cursor =
        .ok (some value, next))
    (finish : cursor.finish.kind = .finish) : next.rest.length < cursor.rest.length := by
  have looked : peekKind.run cursor = .ok (cursor.peek.kind, cursor) := rfl
  have got : (get : Parser Cursor).run cursor = .ok (cursor, cursor) := rfl
  rw [run_bind_of_ok looked] at run
  split at run
  · cases run
  rw [run_bind_of_ok got] at run
  split at run
  · cases run
  · rename_i inside
    obtain ⟨stmt, _, statement_run, last⟩ := run_bind_eq_ok run
    cases last
    apply Takes.takes statement_run finish
    intro at_end
    exact inside (by rw [Cursor.atEnd, at_end]; rfl)

instance : Operand (binding below) := by
  refine .bind (.expect _ rfl) fun name => .accept (.bind inferInstance fun _ => ?_) ?_
  · exact .pure _
  · exact .pure _

instance : Operand (separated fun _ => binding below) :=
  .separated inferInstance

instance : Rests (varStatement below) := by
  unfold varStatement
  infer_instance

instance : Rests (letStatement below) := by
  unfold letStatement
  infer_instance

instance (op : Option BinaryOp) : Rests (assignment below op) := by
  refine .bind inferInstance fun name => .bind inferInstance fun mark => ?_
  split <;> infer_instance

instance (op : BinaryOp) : Rests (stepStatement op) := by
  unfold stepStatement
  infer_instance

theorem parameter_operand (function : String) (earlier : List String) : Operand (do
    let param ← expectName "parameter name"
    if earlier.contains param.text then
      complain param (.duplicateParameter param.text function)
    else
      return param.text : Parser String) := by
  refine .bind (.expect _ rfl) fun param => ?_
  split
  · exact .complain _ _
  · exact .pure _

instance (function : String) : Refuses (parameters function) where
  toMoves := by
    refine .bind inferInstance fun kind => ?_
    split <;> infer_instance
  refuses {cursor} at_end := by
    have params := Operand.separated (parameter_operand function)
    have looked : peekKind.run cursor = .ok (.finish, cursor) := by
      rw [← at_end.finish, ← peek_of_rest_eq_nil at_end.rest]
      rfl
    rw [parameters, run_bind_of_ok looked, if_neg (by decide)]
    exact params.refuses at_end

instance (name : Token) : Refuses (functionBody below name) := by
  unfold functionBody
  infer_instance

instance : Rests (functionStatement below) := by
  refine .bind inferInstance fun start => .bind inferInstance fun name => ?_
  refine .bind inferInstance fun _ => .bind inferInstance fun _ => .bind inferInstance fun params => ?_
  refine .bind inferInstance fun close => .bind inferInstance fun kind => ?_
  split <;> infer_instance

instance (word : String) : Rests (arm below word) := by
  unfold arm
  infer_instance

/-- An arm that is added takes a token. -/
theorem laterArm_shorter {arms value : List (Expr × List Stmt)} {cursor next : Cursor}
    (run : (do
      if ← accept (.keyword .elif) then return some ((← arm below "elif") :: arms)
      else return none : Parser (Option (List (Expr × List Stmt)))).run cursor =
        .ok (some value, next))
    (finish : cursor.finish.kind = .finish) : next.rest.length < cursor.rest.length := by
  obtain ⟨found, middle, accept_run, next_run⟩ := run_bind_eq_ok run
  cases found with
  | true =>
      obtain ⟨arm, final, arm_run, last⟩ := run_bind_eq_ok next_run
      cases last
      obtain ⟨_, passes⟩ := Moves.passes arm_run
      exact Nat.lt_of_le_of_lt passes.length_le (accept_shorter accept_run (by decide) finish)
  | false => cases next_run

instance : Rests (laterArms below) := by
  unfold laterArms
  infer_instance

instance : Rests (lastArm below) := by
  unfold lastArm
  infer_instance

instance : Rests (ifStatement below) := by
  unfold ifStatement
  infer_instance

instance : Rests (whileStatement below) := by
  unfold whileStatement
  infer_instance

instance (start : Span) : Rests (rangeBounds below start) := by
  unfold rangeBounds
  infer_instance

instance (name : String) : Rests (forClause below name) := by
  refine .bind inferInstance fun ranged => ?_
  split
  · refine .bind inferInstance fun mark => .bind inferInstance fun (first, last, step) => ?_
    infer_instance
  · infer_instance

instance : Rests (forStatement below) := by
  unfold forStatement
  infer_instance

instance : Rests (givenValue below) := by
  unfold givenValue
  infer_instance

/-- Empty parentheses come next. -/
def AtEmptyParens (cursor : Cursor) : Prop :=
  cursor.peek.kind = .parenOpen ∧ cursor.peekNext.kind = .parenClose

omit [below.Orderly] in
theorem givenValue_run_of_empty {cursor : Cursor} (empty : AtEmptyParens cursor) :
    (givenValue below).run cursor =
      (do let _ ← advance; let _ ← advance; return none : Parser (Option Expr)).run cursor := by
  have looked : peekKind.run cursor = .ok (cursor.peek.kind, cursor) := rfl
  have looked_next : peekNextKind.run cursor = .ok (cursor.peekNext.kind, cursor) := rfl
  rw [givenValue, run_bind_of_ok looked, run_bind_of_ok looked_next, if_pos]
  simpa [AtEmptyParens] using empty

omit [below.Orderly] in
theorem givenValue_run_of_not {cursor : Cursor} (other : ¬ AtEmptyParens cursor) :
    (givenValue below).run cursor =
      (if cursor.peek.kind = .dot || endsStatement cursor.peek.kind then pure none
        else do return some (← below.expression) : Parser (Option Expr)).run cursor := by
  have looked : peekKind.run cursor = .ok (cursor.peek.kind, cursor) := rfl
  have looked_next : peekNextKind.run cursor = .ok (cursor.peekNext.kind, cursor) := rfl
  rw [AtEmptyParens] at other
  rw [givenValue, run_bind_of_ok looked, run_bind_of_ok looked_next, if_neg (by simpa using other)]

instance : Rests (giveStatement below) := by
  unfold giveStatement
  infer_instance

instance : Rests passStatement := by
  unfold passStatement
  infer_instance

instance : Rests (expressionStatement below) := by
  unfold expressionStatement
  infer_instance

instance : Rests (nameStatement below) := by
  refine .bind inferInstance fun kind => ?_
  split <;> infer_instance

instance : Rests (statement below) := by
  refine .bind inferInstance fun kind => ?_
  split <;> infer_instance

instance : Takes (functionStatement below) := by
  refine .bind inferInstance fun start => .bind inferInstance fun name => ?_
  refine .bind inferInstance fun _ => .bind inferInstance fun _ => .bind inferInstance fun params => ?_
  refine .bind inferInstance fun close => .bind inferInstance fun kind => ?_
  split <;> infer_instance

instance (op : Option BinaryOp) : Takes (assignment below op) := by
  refine .bind inferInstance fun name => .bind inferInstance fun mark => ?_
  split <;> infer_instance

instance : Takes (expressionStatement below) :=
  .bind inferInstance inferInstance

instance : Takes (nameStatement below) := by
  refine .of_last inferInstance fun kind => ?_
  split <;> infer_instance

instance : Takes (statement below) := by
  refine .of_last inferInstance fun kind => ?_
  split <;> first | infer_instance | exact .bind inferInstance inferInstance

end Statements

instance Grammar.orderly_above (below : Grammar) [below.Orderly] : below.above.Orderly where
  expression := inferInstanceAs (Operand (Parser.expression below))
  power := inferInstanceAs (Operand (Parser.power below))
  unary := inferInstanceAs (Operand (Parser.unary below))
  settles := inferInstanceAs (Settles (Parser.expression below))
  rests := inferInstanceAs (Rests (Parser.statement below))
  takes := inferInstanceAs (Takes (Parser.statement below))

/-- With any number of levels left, the grammar is in order. -/
instance grammar_orderly (levels : Nat) : (grammar levels).Orderly := by
  induction levels with
  | zero => exact ⟨.tooDeep, .tooDeep, .tooDeep, .tooDeep, inferInstanceAs (Rests tooDeep),
      inferInstanceAs (Takes tooDeep)⟩
  | succ levels ih => exact Grammar.orderly_above (grammar levels)

/-! ## Results take tokens -/

/-- With a result, the parser has taken tokens from those before the end. -/
def MovesOn (parser : Parser α) : Prop :=
  ∀ {cursor value next}, parser.run cursor = .ok (value, next) → cursor.finish.kind = .finish →
    ∃ taken, taken ≠ [] ∧ cursor.Passes taken next

theorem movesOn_of_shorter {parser : Parser α} [Moves parser]
    (shorter : ∀ {cursor value next}, parser.run cursor = .ok (value, next) →
      cursor.finish.kind = .finish → next.rest.length < cursor.rest.length) : MovesOn parser := by
  intro cursor value next run finish
  obtain ⟨taken, passes⟩ := Moves.passes run
  refine ⟨taken, ?_, passes⟩
  rintro rfl
  exact Nat.lt_irrefl _ (passes.rest ▸ shorter run finish)

theorem Operand.movesOn {parser : Parser α} (operand : Operand parser) : MovesOn parser :=
  movesOn_of_shorter fun run finish => (operand.closes run finish).shorter

/-- What begins at the end is taken for an expression, which asks for more. -/
theorem statement_refuses (below : Grammar) [below.Orderly] : Refuses (statement below) where
  refuses {cursor} at_end := by
    have refusing : Refuses (expressionStatement below) := .bind inferInstance inferInstance
    have looked : peekKind.run cursor = .ok (.finish, cursor) := by
      rw [← at_end.finish, ← peek_of_rest_eq_nil at_end.rest]
      rfl
    rw [statement, run_bind_of_ok looked]
    exact refusing.refuses at_end

theorem grammar_statement_refuses (levels : Nat) : Refuses (grammar levels).statement := by
  cases levels with
  | zero => exact Operand.tooDeep.toRefuses
  | succ levels => exact statement_refuses (grammar levels)

theorem grammar_statement_movesOn (levels : Nat) : MovesOn (grammar levels).statement := by
  refine movesOn_of_shorter fun {cursor _ _} run finish => ?_
  by_cases at_end : cursor.rest = []
  · obtain ⟨_, refused, _⟩ := (grammar_statement_refuses levels).refuses ⟨at_end, finish⟩
    rw [refused] at run
    cases run
  · exact Takes.takes run finish at_end

end Parser
end DotScript
