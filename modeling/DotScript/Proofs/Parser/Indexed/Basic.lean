import DotScript.Proofs.Parser.Progress

/-!
# Parsing by index

A walker parses a list of tokens as a machine does: it keeps the index of the next token and counts
the nested parsers it is in, it may ask for a token that is not there, and its loops and calls use up
fuel.  A parser never does so, for its cursor holds the tokens that are left and a loop turns as often
as there are tokens.

`WalksAt` says that a walker comes to the same as a parser: from where the parser's cursor stands the
walker never asks for a token that is not there, leaves its count as it was, and runs out of fuel only
if there are as many tokens left as the fuel allows for.
-/

namespace DotScript

/-- Where a walker is. -/
structure Position where
  /-- The index of the next token. -/
  index : Nat
  /-- The number of nested parsers around. -/
  depth : Nat
deriving DecidableEq, Repr

/-- Why a walker comes to no result. -/
inductive Stop
  | complaint (diagnostic : Diagnostic)
  /-- No token is at the index that was asked for. -/
  | outOfRange
  | outOfFuel
deriving DecidableEq, Repr

/-- A parser that works on the indices of a token list.  It is somewhere even when it stops. -/
abbrev Walker := ReaderT (List Token) (ExceptT Stop (StateM Position))

namespace Walker

variable {α β : Type}

/-- What a walker comes to, and where. -/
def walk (walker : Walker α) (tokens : List Token) (position : Position) : Except Stop α × Position :=
  ((walker.run tokens).run.run position).run

/-! ## Steps -/

/-- The token at an index. -/
def tokenAt (index : Nat) : Walker Token := do
  match (← read)[index]? with
  | some token => return token
  | none => throw .outOfRange

/-- The next token, or the last one behind the end of the list. -/
def peek : Walker Token := do
  tokenAt (min (← get).index ((← read).length - 1))

/-- The token after the next one. -/
def peekNext : Walker Token := do
  tokenAt (min ((← get).index + 1) ((← read).length - 1))

/-- The kind of the next token. -/
def peekKind : Walker Token.Kind := do
  return (← peek).kind

/-- The kind of the token after the next one. -/
def peekNextKind : Walker Token.Kind := do
  return (← peekNext).kind

/-- The token before the next one, or the first one. -/
def previous : Walker Token := do
  tokenAt ((← get).index - 1)

/-- Whether the next token ends the list. -/
def atEnd : Walker Bool := do
  return (← peekKind) = .finish

/-- Takes the next token, unless it ends the list. -/
def advance : Walker Token := do
  if !(← atEnd) then modify fun position => { position with index := position.index + 1 }
  previous

/-- Complains about a token. -/
def complain (token : Token) (fault : SyntaxFault) : Walker α :=
  throw (.complaint { fault := .malformed fault, span := token.span })

/-- Complains that the next token is not what the grammar asks for. -/
def refuse (wanted : Wanted) : Walker α := do
  let token ← peek
  complain token (Parser.unexpected wanted token)

/-- Takes the next token if it is of the given kind, and tells whether it was. -/
def accept (kind : Token.Kind) : Walker Bool := do
  if (← peekKind) = kind then
    let _ ← advance
    return true
  else
    return false

/-- Takes the next token, which has to be of the given kind. -/
def expect (kind : Token.Kind) (wanted : Wanted) : Walker Token := do
  if (← peekKind) = kind then advance else refuse wanted

/-- Takes a keyword. -/
def expectKeyword (word : Keyword) : Walker Token :=
  expect (.keyword word) (.keyword word)

/-- Takes a name. -/
def expectName (role : String) : Walker Token :=
  expect .identifier (.name role)

/-- Repeats a step until it answers with nothing, as often as there is fuel. -/
def loop (step : α → Walker (Option α)) : Nat → α → Walker α
  | 0, _ => throw .outOfFuel
  | fuel + 1, state => do
    match ← step state with
    | none => return state
    | some state => loop step fuel state

/-- One or more items with commas between them. -/
def separated (fuel : Nat) (item : List α → Walker α) : Walker (List α) := do
  let first ← item []
  let items ← loop
    (fun items => do
      if ← accept .comma then return some ((← item items) :: items) else return none)
    fuel [first]
  return items.reverse

/-- Runs a walker with one more nested parser around. -/
def nested (inner : Walker α) : Walker α := do
  if maxNesting ≤ (← get).depth then
    complain (← peek) .tooDeep
  else
    modify fun position => { position with depth := position.depth + 1 }
    try inner finally modify fun position => { position with depth := position.depth - 1 }

variable {tokens : List Token} {position middle : Position} {stop : Stop} {value : α}

theorem walk_bind_of_ok {first : Walker α} (walked : first.walk tokens position = (.ok value, middle))
    (next : α → Walker β) :
    (first >>= next).walk tokens position = (next value).walk tokens middle := by
  simp only [walk, ReaderT.run_bind, ExceptT.run_bind, StateT.run_bind, Id.run_bind] at walked ⊢
  rw [walked]

theorem walk_bind_of_error {first : Walker α}
    (walked : first.walk tokens position = (.error stop, middle)) (next : α → Walker β) :
    (first >>= next).walk tokens position = (.error stop, middle) := by
  simp only [walk, ReaderT.run_bind, ExceptT.run_bind, StateT.run_bind, Id.run_bind] at walked ⊢
  rw [walked]
  rfl

/-- What is done at last is done whatever a walker comes to. -/
theorem walk_finally (inner : Walker α) (change : Position → Position) :
    (try inner finally modify change : Walker α).walk tokens position =
      ((inner.walk tokens position).1, change (inner.walk tokens position).2) := by
  cases walked : inner.walk tokens position with
  | mk outcome after =>
      change inner tokens position = (outcome, after) at walked
      simp only [walk, tryFinally, tryFinally', ReaderT.run, ExceptT.run, StateT.run, Functor.map,
        ExceptT.mk, ExceptT.map, StateT.bind, bind, pure, Id.run, walked]
      cases outcome <;> rfl

theorem walk_get : (get : Walker Position).walk tokens position = (.ok position, position) := rfl

theorem walk_read : (read : Walker (List Token)).walk tokens position = (.ok tokens, position) := rfl

theorem walk_tokenAt {index : Nat} {token : Token} (there : tokens[index]? = some token) :
    (tokenAt index).walk tokens position = (.ok token, position) := by
  rw [tokenAt, walk_bind_of_ok walk_read, there]
  rfl

theorem walk_modify (change : Position → Position) :
    (modify change : Walker PUnit).walk tokens position = (.ok ⟨⟩, change position) := rfl

theorem walk_nested_of_le (inner : Walker α) (deep : maxNesting ≤ position.depth) :
    (nested inner).walk tokens position =
      (peek >>= fun token => (complain token .tooDeep : Walker α)).walk tokens position := by
  rw [nested, walk_bind_of_ok walk_get, if_pos deep]

theorem walk_nested_of_lt (inner : Walker α) (room : position.depth < maxNesting) :
    (nested inner).walk tokens position =
      let walked := inner.walk tokens { position with depth := position.depth + 1 }
      (walked.1, { walked.2 with depth := walked.2.depth - 1 }) := by
  rw [nested, walk_bind_of_ok walk_get, if_neg (Nat.not_le.2 room),
    walk_bind_of_ok (walk_modify _), walk_finally]

end Walker

/-! ## Cursors at an index -/

/-- The index of the first end in a token list. -/
def firstEnd (tokens : List Token) : Nat :=
  tokens.findIdx (·.kind = .finish)

namespace Cursor

/-- A cursor stands at an index of a token list: the tokens before the index were taken, and those
from it up to the first end are left. -/
inductive StandsAt : Cursor → List Token → Nat → Prop
  | mk {taken rest beyond : List Token} {finish : Token}
      (inner : ∀ token ∈ taken ++ rest, token.kind ≠ .finish) (ends : finish.kind = .finish) :
      StandsAt ⟨taken.getLast?, rest, finish⟩ (taken ++ (rest ++ finish :: beyond)) taken.length

namespace StandsAt

variable {cursor : Cursor} {tokens : List Token} {index : Nat}

theorem finish (stands : cursor.StandsAt tokens index) : cursor.finish.kind = .finish := by
  cases stands with
  | mk inner ends => exact ends

/-- The cursor is as far from the first end as it has tokens left. -/
theorem index_add (stands : cursor.StandsAt tokens index) :
    index + cursor.rest.length = firstEnd tokens := by
  unfold firstEnd
  cases stands with
  | @mk taken rest beyond finish inner ends =>
      have none_inside : (taken ++ rest).findIdx (·.kind = .finish) = (taken ++ rest).length := by
        rw [List.findIdx_eq_length]
        simpa using inner
      rw [← List.append_assoc, List.findIdx_append, none_inside, if_neg (Nat.lt_irrefl _),
        List.findIdx_cons, decide_eq_true ends, List.length_append]
      exact (Nat.zero_add _).symm

theorem index_le (stands : cursor.StandsAt tokens index) : index ≤ firstEnd tokens :=
  stands.index_add ▸ Nat.le_add_right _ _

/-- A list that a cursor stands in has an end. -/
theorem firstEnd_lt (stands : cursor.StandsAt tokens index) : firstEnd tokens < tokens.length := by
  rw [← stands.index_add]
  cases stands with
  | mk inner ends =>
      simp only [List.length_append, List.length_cons]
      omega

theorem index_lt (stands : cursor.StandsAt tokens index) : index < tokens.length :=
  Nat.lt_of_le_of_lt stands.index_le stands.firstEnd_lt

theorem peek_eq (stands : cursor.StandsAt tokens index) :
    tokens[min index (tokens.length - 1)]? = some cursor.peek := by
  rw [Nat.min_eq_left (Nat.le_sub_one_of_lt stands.index_lt)]
  cases stands with
  | @mk taken rest beyond finish inner ends =>
      rw [List.getElem?_append_right (Nat.le_refl _), Nat.sub_self]
      cases rest <;> rfl

/-- Inside the list, a token comes after the next one. -/
theorem peekNext_eq (stands : cursor.StandsAt tokens index) (inside : cursor.rest ≠ []) :
    tokens[min (index + 1) (tokens.length - 1)]? = some cursor.peekNext := by
  cases stands with
  | @mk before rest beyond finish inner ends =>
      cases rest with
      | nil => exact absurd rfl inside
      | cons token rest =>
          have two_left : before.length + 1 ≤
              (before ++ (token :: rest ++ finish :: beyond)).length - 1 := by
            simp only [List.length_append, List.length_cons]
            omega
          rw [Nat.min_eq_left two_left, List.getElem?_append_right (Nat.le_add_right _ _),
            Nat.add_sub_cancel_left]
          cases rest <;> rfl

theorem previous_eq (stands : cursor.StandsAt tokens index) {token : Token}
    (taken : cursor.previous = some token) : tokens[index - 1]? = some token := by
  cases stands with
  | @mk before rest beyond finish inner ends =>
      have some_taken : before ≠ [] := by
        rintro rfl
        cases taken
      have inside : before.length - 1 < before.length :=
        Nat.sub_one_lt (mt List.length_eq_zero_iff.1 some_taken)
      rw [List.getElem?_append_left inside, ← List.getLast?_eq_getElem?]
      exact taken

theorem previous_eq_none_iff (stands : cursor.StandsAt tokens index) :
    cursor.previous = none ↔ index = 0 := by
  cases stands with
  | mk inner ends => rw [List.getLast?_eq_none_iff, List.length_eq_zero_iff]

theorem passes (stands : cursor.StandsAt tokens index) {taken : List Token} {next : Cursor}
    (passes : cursor.Passes taken next) : next.StandsAt tokens (index + taken.length) := by
  cases stands with
  | @mk before rest beyond finish inner ends =>
      obtain ⟨previous', rest', finish'⟩ := next
      obtain ⟨left, same, last⟩ := passes
      dsimp only at left same last
      subst left same last
      have stands : StandsAt ⟨(before ++ taken).getLast?, rest', finish'⟩
          (before ++ taken ++ (rest' ++ finish' :: beyond)) (before ++ taken).length :=
        ⟨by rwa [List.append_assoc], ends⟩
      rwa [List.getLast?_append, List.length_append, List.append_assoc,
        ← List.append_assoc taken] at stands

theorem advance (stands : cursor.StandsAt tokens index) {token : Token} {rest : List Token}
    (written : cursor.rest = token :: rest) :
    StandsAt { cursor with previous := some token, rest } tokens (index + 1) := by
  have passes : cursor.Passes [token] { cursor with previous := some token, rest } :=
    ⟨written, rfl, rfl⟩
  exact stands.passes passes

/-- The next token is an end only if no token is left. -/
theorem peek_kind_eq_finish_iff (stands : cursor.StandsAt tokens index) :
    cursor.peek.kind = .finish ↔ cursor.rest = [] := by
  constructor
  · intro at_end
    cases stands with
    | @mk taken rest beyond finish inner ends =>
        cases rest with
        | nil => rfl
        | cons token rest => exact absurd at_end (inner token (by simp))
  · intro at_end
    rw [peek_of_rest_eq_nil at_end, stands.finish]

end StandsAt
end Cursor

namespace Walker

open Cursor

variable {α β : Type}

/-- What a walker comes to, beside what a parser comes to. -/
inductive Told (tokens : List Token) (depth : Nat) (short : Prop) :
    Except Stop α × Position → Except Diagnostic (α × Cursor) → Prop
  | value {value : α} {next : Cursor} {index : Nat} (stands : next.StandsAt tokens index) :
      Told tokens depth short (.ok value, ⟨index, depth⟩) (.ok (value, next))
  | complaint {diagnostic : Diagnostic} {last : Cursor} {index : Nat}
      (stands : last.StandsAt tokens index) :
      Told tokens depth short (.error (.complaint diagnostic), ⟨index, depth⟩) (.error diagnostic)
  | outOfFuel {outcome : Except Diagnostic (α × Cursor)} {last : Cursor} {index : Nat}
      (stands : last.StandsAt tokens index) (lacking : short) :
      Told tokens depth short (.error .outOfFuel, ⟨index, depth⟩) outcome

/-- From a cursor on, a walker with a number of nested parsers around comes to the same as a parser,
or else runs out of fuel because its fuel does not exceed the number of tokens that are left. -/
structure WalksAt (tokens : List Token) (depth fuel : Nat) (cursor : Cursor) (walker : Walker α)
    (parser : Parser α) : Prop where
  told : ∀ {index}, cursor.StandsAt tokens index →
    Told tokens depth (fuel ≤ cursor.rest.length) (walker.walk tokens ⟨index, depth⟩)
      (parser.run cursor)

variable {tokens : List Token} {depth fuel : Nat} {cursor : Cursor}

namespace Told

variable {short : Prop}

theorem mono {short' : Prop} {outcome : Except Stop α × Position}
    {outcome' : Except Diagnostic (α × Cursor)} (told : Told tokens depth short outcome outcome')
    (shorter : short → short') : Told tokens depth short' outcome outcome' := by
  cases told with
  | value stands => exact .value stands
  | complaint stands => exact .complaint stands
  | outOfFuel stands lacking => exact .outOfFuel stands (shorter lacking)

theorem bind {position : Position} {first : Walker α} {first' : Parser α} {next : α → Walker β}
    {next' : α → Parser β}
    (told : Told tokens depth short (first.walk tokens position) (first'.run cursor))
    (later : ∀ {value middle index}, first'.run cursor = .ok (value, middle) →
      middle.StandsAt tokens index →
      Told tokens depth short ((next value).walk tokens ⟨index, depth⟩) ((next' value).run middle)) :
    Told tokens depth short ((first >>= next).walk tokens position)
      ((first' >>= next').run cursor) := by
  generalize walked : first.walk tokens position = outcome at told
  generalize ran : first'.run cursor = outcome' at told
  cases told with
  | value stands =>
      rw [walk_bind_of_ok walked, Parser.run_bind_of_ok ran]
      exact later ran stands
  | complaint stands =>
      rw [walk_bind_of_error walked, Parser.run_bind_of_error ran]
      exact .complaint stands
  | outOfFuel stands lacking =>
      rw [walk_bind_of_error walked]
      exact .outOfFuel stands lacking

end Told

/-! ## What a walker finds where it is -/

theorem walk_peek {index : Nat} (stands : cursor.StandsAt tokens index) :
    peek.walk tokens ⟨index, depth⟩ = (.ok cursor.peek, ⟨index, depth⟩) := by
  rw [peek, walk_bind_of_ok walk_get, walk_bind_of_ok walk_read, walk_tokenAt stands.peek_eq]

theorem walk_peekNext {index : Nat} (stands : cursor.StandsAt tokens index)
    (inside : cursor.rest ≠ []) :
    peekNext.walk tokens ⟨index, depth⟩ = (.ok cursor.peekNext, ⟨index, depth⟩) := by
  rw [peekNext, walk_bind_of_ok walk_get, walk_bind_of_ok walk_read,
    walk_tokenAt (stands.peekNext_eq inside)]

theorem walk_previous {index : Nat} {token : Token} (stands : cursor.StandsAt tokens index)
    (taken : cursor.previous = some token) :
    previous.walk tokens ⟨index, depth⟩ = (.ok token, ⟨index, depth⟩) := by
  rw [previous, walk_bind_of_ok walk_get, walk_tokenAt (stands.previous_eq taken)]

theorem walk_peekKind {index : Nat} (stands : cursor.StandsAt tokens index) :
    peekKind.walk tokens ⟨index, depth⟩ = (.ok cursor.peek.kind, ⟨index, depth⟩) := by
  rw [peekKind, walk_bind_of_ok (walk_peek stands)]
  rfl

theorem walk_peekNextKind {index : Nat} (stands : cursor.StandsAt tokens index)
    (inside : cursor.rest ≠ []) :
    peekNextKind.walk tokens ⟨index, depth⟩ = (.ok cursor.peekNext.kind, ⟨index, depth⟩) := by
  rw [peekNextKind, walk_bind_of_ok (walk_peekNext stands inside)]
  rfl

theorem walk_atEnd {index : Nat} (stands : cursor.StandsAt tokens index) :
    atEnd.walk tokens ⟨index, depth⟩ = (.ok cursor.atEnd, ⟨index, depth⟩) := by
  have same : decide (cursor.peek.kind = .finish) = cursor.atEnd := by
    rw [Cursor.atEnd, Bool.eq_iff_iff, decide_eq_true_iff, List.isEmpty_iff]
    exact stands.peek_kind_eq_finish_iff
  rw [atEnd, walk_bind_of_ok (walk_peekKind stands), ← same]
  rfl

theorem walk_advance {index : Nat} {token : Token} {rest : List Token}
    (stands : cursor.StandsAt tokens index) (written : cursor.rest = token :: rest) :
    advance.walk tokens ⟨index, depth⟩ = (.ok token, ⟨index + 1, depth⟩) := by
  have inside : cursor.atEnd = false := by
    rw [Cursor.atEnd, written]
    rfl
  have moved := stands.advance written
  rw [advance, walk_bind_of_ok (walk_atEnd stands), inside]
  exact walk_previous moved rfl

/-! ## Rules -/

namespace WalksAt

variable {walker : Walker α} {parser : Parser α}

theorem mono {more : Nat} (walks : WalksAt tokens depth more cursor walker parser)
    (less : fuel ≤ more) : WalksAt tokens depth fuel cursor walker parser where
  told stands := (walks.told stands).mono (Nat.le_trans less)

protected theorem pure (value : α) : WalksAt tokens depth fuel cursor (pure value) (pure value) where
  told stands := .value stands

protected theorem complain (token : Token) (fault : SyntaxFault) :
    WalksAt tokens depth fuel cursor (complain token fault : Walker α)
      (Parser.complain token fault) where
  told stands := .complaint stands

protected theorem outOfFuel : WalksAt tokens depth 0 cursor (throw .outOfFuel) parser where
  told stands := .outOfFuel stands (Nat.zero_le _)

/-- What follows when a walker has found out something where it is. -/
theorem of_walk {look : Walker β} {found : β} {next : β → Walker α}
    (walked : ∀ {index}, cursor.StandsAt tokens index →
      look.walk tokens ⟨index, depth⟩ = (.ok found, ⟨index, depth⟩))
    (later : WalksAt tokens depth fuel cursor (next found) parser) :
    WalksAt tokens depth fuel cursor (look >>= next) parser where
  told stands := by
    rw [walk_bind_of_ok (walked stands)]
    exact later.told stands

/-- What follows when a parser has found out something where it is. -/
theorem of_run {look : Parser β} {found : β} {next : β → Parser α}
    (run : look.run cursor = .ok (found, cursor))
    (later : WalksAt tokens depth fuel cursor walker (next found)) :
    WalksAt tokens depth fuel cursor walker (look >>= next) where
  told stands := by
    rw [Parser.run_bind_of_ok run]
    exact later.told stands

/-- A cursor that stands anywhere ends with an end. -/
theorem of_finish
    (walks : cursor.finish.kind = .finish → WalksAt tokens depth fuel cursor walker parser) :
    WalksAt tokens depth fuel cursor walker parser where
  told stands := (walks stands.finish).told stands

theorem bind {next : α → Walker β} {next' : α → Parser β} [Parser.Moves parser]
    (first : WalksAt tokens depth fuel cursor walker parser)
    (later : ∀ {value middle}, parser.run cursor = .ok (value, middle) →
      WalksAt tokens depth fuel middle (next value) (next' value)) :
    WalksAt tokens depth fuel cursor (walker >>= next) (parser >>= next') where
  told stands := (first.told stands).bind fun run middle_stands =>
    ((later run).told middle_stands).mono fun lacking => by
      obtain ⟨_, passes⟩ := Parser.Moves.passes run
      exact Nat.le_trans lacking passes.length_le

/-- Behind a token one less is left, so as much less fuel will do. -/
theorem bind_of_lt {next : α → Walker β} {next' : α → Parser β}
    (first : WalksAt tokens depth fuel cursor walker parser)
    (shorter : ∀ {value middle}, parser.run cursor = .ok (value, middle) →
      cursor.finish.kind = .finish → middle.rest.length < cursor.rest.length)
    (later : ∀ {value middle}, parser.run cursor = .ok (value, middle) →
      WalksAt tokens depth (fuel - 1) middle (next value) (next' value)) :
    WalksAt tokens depth fuel cursor (walker >>= next) (parser >>= next') where
  told stands := (first.told stands).bind fun run middle_stands =>
    ((later run).told middle_stands).mono fun lacking => by
      have fewer := shorter run stands.finish
      omega

theorem ite {condition : Prop} [Decidable condition] {yes no : Walker α} {yes' no' : Parser α}
    (holds : condition → WalksAt tokens depth fuel cursor yes yes')
    (fails : ¬condition → WalksAt tokens depth fuel cursor no no') :
    WalksAt tokens depth fuel cursor (if condition then yes else no)
      (if condition then yes' else no') := by
  by_cases condition' : condition
  · rw [if_pos condition', if_pos condition']
    exact holds condition'
  · rw [if_neg condition', if_neg condition']
    exact fails condition'

protected theorem peek {next : Token → Walker α} {next' : Token → Parser α}
    (later : WalksAt tokens depth fuel cursor (next cursor.peek) (next' cursor.peek)) :
    WalksAt tokens depth fuel cursor (peek >>= next) (Parser.peek >>= next') :=
  .of_walk walk_peek (.of_run rfl later)

protected theorem peekKind {next : Token.Kind → Walker α} {next' : Token.Kind → Parser α}
    (later : WalksAt tokens depth fuel cursor (next cursor.peek.kind) (next' cursor.peek.kind)) :
    WalksAt tokens depth fuel cursor (peekKind >>= next) (Parser.peekKind >>= next') :=
  .of_walk walk_peekKind (.of_run rfl later)

protected theorem peekNextKind {next : Token.Kind → Walker α} {next' : Token.Kind → Parser α}
    (inside : cursor.peek.kind ≠ .finish)
    (later : WalksAt tokens depth fuel cursor (next cursor.peekNext.kind)
      (next' cursor.peekNext.kind)) :
    WalksAt tokens depth fuel cursor (peekNextKind >>= next) (Parser.peekNextKind >>= next') :=
  .of_walk (fun stands => walk_peekNextKind stands (mt stands.peek_kind_eq_finish_iff.2 inside))
    (.of_run rfl later)

protected theorem refuse (wanted : Wanted) :
    WalksAt tokens depth fuel cursor (refuse wanted : Walker α) (Parser.refuse wanted) :=
  .of_walk walk_peek ⟨fun stands => .complaint stands⟩

protected theorem advance (inside : cursor.peek.kind ≠ .finish) :
    WalksAt tokens depth fuel cursor advance Parser.advance where
  told stands := by
    obtain ⟨rest, written⟩ := exists_cons_of_peek stands.finish inside
    rw [walk_advance stands written, Parser.advance_run_cons written]
    exact .value (stands.advance written)

protected theorem accept {kind : Token.Kind} (inner : kind ≠ .finish) :
    WalksAt tokens depth fuel cursor (accept kind) (Parser.accept kind) := by
  refine .peekKind (.ite (fun same => ?_) fun _ => .pure false)
  exact .bind (.advance (same ▸ inner)) fun _ => .pure true

/-- What follows the next token. -/
theorem advance_cons {next : Token → Walker α} {next' : Token → Parser α} {token : Token}
    {rest : List Token} (written : cursor.rest = token :: rest)
    (later : WalksAt tokens depth (fuel - 1) { cursor with previous := some token, rest }
      (next token) (next' token)) :
    WalksAt tokens depth fuel cursor (advance >>= next) (Parser.advance >>= next') where
  told stands := by
    rw [walk_bind_of_ok (walk_advance stands written),
      Parser.run_bind_of_ok (Parser.advance_run_cons written)]
    refine (later.told (stands.advance written)).mono fun lacking => ?_
    rw [written, List.length_cons]
    exact Nat.le_add_of_sub_le lacking

/-- What follows the next token, which does not end the list. -/
theorem advance_then {next : Token → Walker α} {next' : Token → Parser α}
    (inside : cursor.peek.kind ≠ .finish)
    (later : ∀ {middle}, middle.previous = some cursor.peek → middle.peek = cursor.peekNext →
      WalksAt tokens depth (fuel - 1) middle (next cursor.peek) (next' cursor.peek)) :
    WalksAt tokens depth fuel cursor (advance >>= next) (Parser.advance >>= next') := by
  refine .of_finish fun finish => ?_
  obtain ⟨rest, written⟩ := exists_cons_of_peek finish inside
  refine .advance_cons written (later rfl ?_)
  rw [Cursor.peekNext, written]
  rfl

/-- What follows a mark that may be there. -/
theorem accept_bind {kind : Token.Kind} {next : Bool → Walker α} {next' : Bool → Parser α}
    (inner : kind ≠ .finish)
    (there : ∀ {middle}, middle.previous = some cursor.peek →
      WalksAt tokens depth (fuel - 1) middle (next true) (next' true))
    (other : WalksAt tokens depth fuel cursor (next false) (next' false)) :
    WalksAt tokens depth fuel cursor (accept kind >>= next) (Parser.accept kind >>= next') := by
  rw [accept, Parser.accept, bind_assoc, bind_assoc]
  refine .peekKind ?_
  by_cases same : cursor.peek.kind = kind
  · rw [if_pos same, if_pos same, bind_assoc, bind_assoc]
    exact .advance_then (same ▸ inner) fun taken _ => there taken
  · rw [if_neg same, if_neg same]
    exact other

/-- What follows when a mark is there, and what follows when it is not. -/
theorem accept_then {kind : Token.Kind} {yes no : Walker α} {yes' no' : Parser α}
    (inner : kind ≠ .finish)
    (there : ∀ {middle}, middle.previous = some cursor.peek →
      WalksAt tokens depth (fuel - 1) middle yes yes')
    (other : WalksAt tokens depth fuel cursor no no') :
    WalksAt tokens depth fuel cursor (accept kind >>= fun found => if found then yes else no)
      (Parser.accept kind >>= fun found => if found then yes' else no') :=
  .accept_bind inner there other

protected theorem expect {kind : Token.Kind} (wanted : Wanted) (inner : kind ≠ .finish) :
    WalksAt tokens depth fuel cursor (expect kind wanted) (Parser.expect kind wanted) :=
  .peekKind (.ite (fun same => .advance (same ▸ inner)) fun _ => .refuse wanted)

/-- What follows a token that has to be there. -/
theorem expect_then {kind : Token.Kind} {wanted : Wanted} {next : Token → Walker α}
    {next' : Token → Parser α} (inner : kind ≠ .finish)
    (later : ∀ {middle}, middle.previous = some cursor.peek →
      WalksAt tokens depth (fuel - 1) middle (next cursor.peek) (next' cursor.peek)) :
    WalksAt tokens depth fuel cursor (expect kind wanted >>= next)
      (Parser.expect kind wanted >>= next') := by
  rw [expect, Parser.expect, bind_assoc, bind_assoc]
  refine .peekKind ?_
  by_cases same : cursor.peek.kind = kind
  · rw [if_pos same, if_pos same]
    exact .advance_then (same ▸ inner) fun taken _ => later taken
  · rw [if_neg same, if_neg same]
    exact ⟨fun stands => by
      rw [refuse, bind_assoc, walk_bind_of_ok (walk_peek stands)]
      exact .complaint stands⟩

protected theorem expectKeyword (word : Keyword) :
    WalksAt tokens depth fuel cursor (expectKeyword word) (Parser.expectKeyword word) :=
  .expect _ (by simp)

protected theorem expectName (role : String) :
    WalksAt tokens depth fuel cursor (expectName role) (Parser.expectName role) :=
  .expect _ (by decide)

section Loops

variable {step : α → Walker (Option α)} {step' : α → Parser (Option α)}

/-- One turn of a loop; what goes on after it has one token less. -/
theorem loop_turn {state : α} {turns : Nat} {next : α → Parser α}
    (walks : WalksAt tokens depth fuel cursor (step state) (step' state))
    (shorter : ∀ {state' next}, (step' state).run cursor = .ok (some state', next) →
      cursor.finish.kind = .finish → next.rest.length < cursor.rest.length)
    (later : ∀ {state' middle}, middle.rest.length < cursor.rest.length →
      WalksAt tokens depth (fuel - 1) middle (loop step turns state') (next state')) :
    WalksAt tokens depth fuel cursor (loop step (turns + 1) state)
      (Parser.turn step' next state) where
  told stands := (walks.told stands).bind fun {answer _ _} run middle_stands => by
    cases answer with
    | none => exact .value middle_stands
    | some state' =>
        have fewer := shorter run stands.finish
        refine ((later fewer).told middle_stands).mono fun lacking => ?_
        omega

variable
  (shorter : ∀ {state state' cursor next}, (step' state).run cursor = .ok (some state', next) →
    cursor.finish.kind = .finish → next.rest.length < cursor.rest.length)
  (walks : ∀ {state cursor}, WalksAt tokens depth fuel cursor (step state) (step' state))
  {turns : Nat} (enough : fuel ≤ turns)

include shorter walks enough

theorem loop_repeatAlong {bound : List Token} (bounded : cursor.rest.length ≤ bound.length)
    (state : α) :
    WalksAt tokens depth fuel cursor (loop step turns state)
      (Parser.repeatAlong step' bound state) := by
  -- each turn but the last takes a token, so the fuel and the bound may shrink by one with it
  induction turns generalizing fuel cursor bound state with
  | zero => exact .mono .outOfFuel enough
  | succ turns ih =>
      cases bound with
      | nil =>
          refine .loop_turn walks shorter fun fewer => ?_
          exact absurd bounded (Nat.not_le.2 (Nat.zero_lt_of_lt fewer))
      | cons token bound =>
          refine .loop_turn walks shorter fun fewer => ?_
          refine ih (walks.mono (Nat.sub_le _ _)) (by omega) ?_ _
          exact Nat.le_of_lt_succ (Nat.lt_of_lt_of_le fewer bounded)

/-- A loop turns once more at most than there are tokens left. -/
protected theorem loop (state : α) :
    WalksAt tokens depth fuel cursor (loop step turns state) (Parser.whileSome step' state) :=
  .of_run rfl (loop_repeatAlong shorter walks enough (Nat.le_refl _) state)

end Loops

protected theorem separated {turns : Nat} {item : List α → Walker α} {item' : List α → Parser α}
    (operand : ∀ earlier, Parser.Operand (item' earlier)) (enough : fuel ≤ turns + 1)
    (walks : ∀ {earlier cursor}, WalksAt tokens depth fuel cursor (item earlier) (item' earlier)) :
    WalksAt tokens depth fuel cursor (separated turns item) (Parser.separated item') := by
  have extension := Parser.separatedStep_extends operand
  have := extension.moves
  refine .bind_of_lt walks (fun run finish => (Parser.Operand.closes run finish).shorter)
    fun _ => ?_
  refine .bind (.loop (fun run finish => (extension.closes run finish).shorter) ?_ (by omega) _)
    fun _ => .pure _
  refine .accept_then (by decide) (fun _ => ?_) (.pure none)
  exact .bind (walks.mono (by omega)) fun _ => .pure _

/-- Something nested, where there is room for it. -/
protected theorem nested (room : depth < maxNesting)
    (inner : WalksAt tokens (depth + 1) fuel cursor walker parser) :
    WalksAt tokens depth fuel cursor (nested walker) parser where
  told stands := by
    have told := inner.told stands
    rw [walk_nested_of_lt _ room]
    generalize walker.walk tokens _ = outcome at told ⊢
    generalize parser.run cursor = outcome' at told ⊢
    cases told with
    | value stands => exact .value stands
    | complaint stands => exact .complaint stands
    | outOfFuel stands lacking => exact .outOfFuel stands lacking

/-- Something nested too deep. -/
theorem nested_tooDeep (deep : maxNesting ≤ depth) :
    WalksAt tokens depth fuel cursor (nested walker) Parser.tooDeep where
  told stands := by
    rw [walk_nested_of_le _ deep, walk_bind_of_ok (walk_peek stands)]
    exact .complaint stands

end WalksAt
end Walker
end DotScript
