import DotScript.Proofs.Parser.Progress
import DotScript.Proofs.Tree.Wording

/-!
# Parsers account for their tokens

A parser accounts for the tokens that it takes if its result is related to them whenever it
succeeds; and if it fails, it complains about the syntax.  There is a rule for each way to put
parsers together, and the tokens that the parts take are joined along the way.
-/

namespace DotScript

/-- Behind one token, the next one is the second one from before. -/
theorem Cursor.Passes.peek_eq_peekNext {before after : Cursor} {token : Token}
    (passes : before.Passes [token] after) : after.peek = before.peekNext := by
  rw [Cursor.peek, Cursor.peekNext, passes.rest, passes.finish]
  rfl

namespace Parser

open Cursor

variable {α β : Type}

/-- From this place on, the parser yields a result with the tokens that it takes, or complains about
the syntax. -/
def AccountsAt (cursor : Cursor) (parser : Parser α) (result : α → List Token → Prop) : Prop :=
  cursor.finish.kind = .finish →
    match parser.run cursor with
    | .ok (value, next) => ∃ taken, cursor.Passes taken next ∧ result value taken
    | .error diagnostic => ∃ fault, diagnostic.fault = .malformed fault

/-- From every place on, the parser yields a result with the tokens that it takes, or complains about
the syntax. -/
def Accounts (parser : Parser α) (result : α → List Token → Prop) : Prop :=
  ∀ cursor, AccountsAt cursor parser result

/-- A turn of a loop takes no tokens or keeps what holds for the state and the tokens so far. -/
def Continues (keeps : α → List Token → Prop) (done : List Token) : Option α → List Token → Prop
  | none, more => more = []
  | some state, more => keeps state (done ++ more)

namespace AccountsAt

variable {cursor : Cursor} {parser : Parser α} {piece : α → List Token → Prop}
  {next : α → Parser β} {result : β → List Token → Prop}

theorem exists_of_run (accounts : AccountsAt cursor parser piece)
    (finish : cursor.finish.kind = .finish) {value : α} {after : Cursor}
    (run : parser.run cursor = .ok (value, after)) :
    ∃ taken, cursor.Passes taken after ∧ piece value taken := by
  have found := accounts finish
  rwa [run] at found

theorem mono {weaker : α → List Token → Prop} (accounts : AccountsAt cursor parser piece)
    (implies : ∀ value taken, piece value taken → weaker value taken) :
    AccountsAt cursor parser weaker := by
  intro finish
  have found := accounts finish
  cases run : parser.run cursor with
  | error diagnostic =>
      rw [run] at found
      exact found
  | ok outcome =>
      rw [run] at found
      obtain ⟨taken, passes, holds⟩ := found
      exact ⟨taken, passes, implies _ _ holds⟩

theorem pure {value : α} (holds : piece value []) : AccountsAt cursor (pure value) piece :=
  fun _ => ⟨[], .refl cursor, holds⟩

theorem complain (token : Token) (fault : SyntaxFault) :
    AccountsAt cursor (complain token fault) piece :=
  fun _ => ⟨fault, rfl⟩

theorem refuse (wanted : Wanted) : AccountsAt cursor (refuse wanted) piece :=
  fun _ => ⟨unexpected wanted cursor.peek, rfl⟩

theorem tooDeep : AccountsAt cursor tooDeep piece :=
  fun _ => ⟨.tooDeep, rfl⟩

theorem bind (first : AccountsAt cursor parser piece)
    (later : ∀ value taken middle, cursor.Passes taken middle → piece value taken →
      AccountsAt middle (next value) fun last more => result last (taken ++ more)) :
    AccountsAt cursor (parser >>= next) result := by
  intro finish
  have found := first finish
  rw [StateT.run_bind]
  cases run : parser.run cursor with
  | error diagnostic =>
      rw [run] at found
      exact found
  | ok outcome =>
      obtain ⟨value, middle⟩ := outcome
      rw [run] at found
      obtain ⟨taken, passes, holds⟩ := found
      have rest := later value taken middle passes holds (passes.finish ▸ finish)
      change match (next value).run middle with
        | .ok (last, after) => ∃ taken, cursor.Passes taken after ∧ result last taken
        | .error diagnostic => ∃ fault, diagnostic.fault = .malformed fault
      cases next_run : (next value).run middle with
      | error diagnostic =>
          rw [next_run] at rest
          exact rest
      | ok outcome =>
          rw [next_run] at rest
          obtain ⟨more, passes', holds'⟩ := rest
          exact ⟨taken ++ more, passes.trans passes', holds'⟩

/-- The result is made of the value of the last part. -/
theorem last {make : α → β} (first : AccountsAt cursor parser piece)
    (holds : ∀ value taken, piece value taken → result (make value) taken) :
    AccountsAt cursor (parser >>= fun value => Pure.pure (make value)) result :=
  .bind first fun value taken _ _ found =>
    .pure (by simpa only [List.append_nil] using holds value taken found)

theorem get {next : Cursor → Parser β} (later : AccountsAt cursor (next cursor) result) :
    AccountsAt cursor (MonadState.get >>= next) result :=
  later

theorem peek {next : Token → Parser β} (later : AccountsAt cursor (next cursor.peek) result) :
    AccountsAt cursor (peek >>= next) result :=
  later

theorem peekKind {next : Token.Kind → Parser β}
    (later : AccountsAt cursor (next cursor.peek.kind) result) :
    AccountsAt cursor (peekKind >>= next) result :=
  later

theorem peekNextKind {next : Token.Kind → Parser β}
    (later : AccountsAt cursor (next cursor.peekNext.kind) result) :
    AccountsAt cursor (peekNextKind >>= next) result :=
  later

theorem spanFrom {start : Span} {next : Span → Parser β}
    (later : AccountsAt cursor
      (next ((cursor.previous.map fun token => start.to token.span).getD start)) result) :
    AccountsAt cursor (spanFrom start >>= next) result := by
  intro finish
  rw [run_bind_of_ok (spanFrom_run start cursor)]
  exact later finish

/-- A parser that takes one token. -/
theorem take {token : Token} {rest : List Token} {value : α} (tokens : cursor.rest = token :: rest)
    (run : parser.run cursor = .ok (value, { cursor with previous := some token, rest }))
    (later : ∀ middle, cursor.Passes [token] middle →
      AccountsAt middle (next value) fun last more => result last (token :: more)) :
    AccountsAt cursor (parser >>= next) result := by
  have taken : AccountsAt cursor parser fun found taken => found = value ∧ taken = [token] := by
    intro _
    rw [run]
    exact ⟨[token], ⟨tokens, rfl, rfl⟩, rfl, rfl⟩
  refine taken.bind fun found taken middle passes ⟨same, one⟩ => ?_
  subst same one
  exact later middle passes

/-- A token that is known to be there is taken. -/
theorem advance {next : Token → Parser β} (inside : cursor.peek.kind ≠ .finish)
    (later : ∀ middle, cursor.Passes [cursor.peek] middle →
      AccountsAt middle (next cursor.peek) fun last more => result last (cursor.peek :: more)) :
    AccountsAt cursor (advance >>= next) result := by
  intro finish
  obtain ⟨rest, tokens⟩ := exists_cons_of_peek finish inside
  exact take tokens (advance_run_cons tokens) later finish

theorem accept {kind : Token.Kind} {yes no : Parser β} (inner : kind ≠ .finish)
    (there : ∀ token middle, token.kind = kind → cursor.Passes [token] middle →
      AccountsAt middle yes fun last more => result last (token :: more))
    (absent : AccountsAt cursor no result) :
    AccountsAt cursor (accept kind >>= fun found => if found then yes else no) result := by
  intro finish
  by_cases same : cursor.peek.kind = kind
  · obtain ⟨rest, tokens⟩ := exists_cons_of_peek finish (same ▸ inner)
    exact take tokens (accept_run_of_eq tokens same) (there cursor.peek · same) finish
  · rw [run_bind_of_ok (accept_run_of_ne same)]
    exact absent finish

/-- A token that may be there. -/
theorem optional {kind : Token.Kind} (inner : kind ≠ .finish) :
    AccountsAt cursor (Parser.accept kind) fun _ taken => IsOptional kind taken := by
  intro finish
  by_cases same : cursor.peek.kind = kind
  · obtain ⟨rest, tokens⟩ := exists_cons_of_peek finish (same ▸ inner)
    rw [accept_run_of_eq tokens same]
    exact ⟨[cursor.peek], ⟨tokens, rfl, rfl⟩, .present same⟩
  · rw [accept_run_of_ne same]
    exact ⟨[], .refl cursor, .absent⟩

theorem expect {kind : Token.Kind} {wanted : Wanted} {next : Token → Parser β}
    (inner : kind ≠ .finish)
    (later : ∀ token middle, token.kind = kind → cursor.Passes [token] middle →
      AccountsAt middle (next token) fun last more => result last (token :: more)) :
    AccountsAt cursor (expect kind wanted >>= next) result := by
  intro finish
  by_cases same : cursor.peek.kind = kind
  · obtain ⟨rest, tokens⟩ := exists_cons_of_peek finish (same ▸ inner)
    exact take tokens (expect_run_of_eq wanted tokens same) (later cursor.peek · same) finish
  · rw [run_bind_of_error (expect_run_of_ne wanted same)]
    exact ⟨_, rfl⟩

/-! ## Loops -/

section Loops

variable {keeps : α → List Token → Prop} {step : α → Parser (Option α)}
  (steps : ∀ state done cursor, keeps state done →
    AccountsAt cursor (step state) (Continues keeps done))

include steps

theorem turn {next : α → Parser α}
    (later : ∀ state done cursor, keeps state done →
      AccountsAt cursor (next state) fun last more => keeps last (done ++ more))
    (state : α) (done : List Token) (cursor : Cursor) (holds : keeps state done) :
    AccountsAt cursor (turn step next state) fun last more => keeps last (done ++ more) := by
  refine .bind (steps state done cursor holds) fun answer more middle _ kept => ?_
  cases answer with
  | none =>
      obtain rfl : more = [] := kept
      exact .pure (by simpa only [List.append_nil] using holds)
  | some state => simpa only [List.append_assoc] using later state (done ++ more) middle kept

variable (keeps) in
/-- The turns of a loop keep what holds for its state and the tokens so far. -/
theorem whileSome {state : α} {done : List Token} (holds : keeps state done) :
    AccountsAt cursor (whileSome step state) fun last more => keeps last (done ++ more) := by
  have along (tokens : List Token) (state : α) (done : List Token) (cursor : Cursor)
      (holds : keeps state done) :
      AccountsAt cursor (repeatAlong step tokens state) fun last more =>
        keeps last (done ++ more) := by
    induction tokens generalizing state done cursor with
    | nil =>
        refine turn steps (fun state done cursor holds => .pure ?_) state done cursor holds
        simpa only [List.append_nil] using holds
    | cons token tokens ih => exact turn steps ih state done cursor holds
  exact along cursor.rest state done cursor holds

end Loops

/-- Items with commas between them. -/
theorem separated {item : List α → Parser α} (items : ∀ earlier, Accounts (item earlier) piece) :
    AccountsAt cursor (separated item) fun values taken =>
      Listed piece values taken ∧ values ≠ [] := by
  let keeps (values : List α) (done : List Token) : Prop :=
    Listed piece values.reverse done ∧ values ≠ []
  refine .bind (items [] cursor) fun first taken middle _ written => ?_
  have start : keeps [first] taken := ⟨.one written, List.cons_ne_nil _ _⟩
  refine .last (.whileSome keeps (fun values done cursor kept => ?_) start)
    fun values more kept => ⟨kept.1, List.reverse_ne_nil_iff.2 kept.2⟩
  refine .accept (by decide) (fun comma middle separates _ => ?_) (.pure rfl)
  refine .last (items values middle) fun value tokens written => ⟨?_, List.cons_ne_nil _ _⟩
  rw [List.reverse_cons]
  exact kept.1.concat (List.reverse_ne_nil_iff.2 kept.2) separates written

end AccountsAt

end Parser
end DotScript
