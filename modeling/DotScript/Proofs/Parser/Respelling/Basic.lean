import DotScript.Proofs.Parser.Progress

/-!
# Two spellings of a token list

One token list is parsed as it stands and once more in another spelling: products that need no sign
have one, and some points before the end of a block or of the list are left out.  The places where
the lists differ are seen by few parsers, and only right after an operand or a statement.

Two runs are compared as long as the first one succeeds.  `Level`, `Ready` and `Fresh` say how far
two cursors may be apart at corresponding places; `Retells` says that the second run comes to the
same result.  There is one exception: a declaration without a body has to keep its point before the
end of a block.
-/

namespace DotScript

/-- Whether a factor right after a token of this kind is multiplied with what ends there. -/
def Token.Kind.endsFactor : Token.Kind → Bool
  | .int | .float | .parenClose => true
  | _ => false

/-- Whether a token of this kind begins a factor that needs no sign before it. -/
def Token.Kind.startsFactor : Token.Kind → Bool
  | .parenOpen | .identifier => true
  | _ => false

namespace Parser

/-- Which points are left out.  A point is given by the token before it and by the tokens from it
on. -/
abbrev Omissions := Option Token → List Token → Prop

variable (omits : Omissions)

/-- Two spellings of the tokens that come after a token, if there is one. -/
inductive Respelled : Option Token → List Token → List Token → Prop
  | done (previous : Option Token) : Respelled previous [] []
  | token {previous : Option Token} {token : Token} {rest rest' : List Token}
      (later : Respelled (some token) rest rest') :
      Respelled previous (token :: rest) (token :: rest')
  | product {first second star : Token} {rest rest' : List Token}
      (ends : first.kind.endsFactor = true) (starts : second.kind.startsFactor = true)
      (sign : star.kind = .star) (later : Respelled (some second) rest rest') :
      Respelled (some first) (second :: rest) (star :: second :: rest')
  | point {previous : Option Token} {point : Token} {rest rest' : List Token}
      (is_point : point.kind = .dot) (omitted : omits previous (point :: rest))
      (ends : ∀ next ∈ rest.head?, endsStatement next.kind = true)
      (later : Respelled (some point) rest rest') :
      Respelled previous (point :: rest) rest'

/-- What stands before both cursors is the same. -/
structure Level (cursor cursor' : Cursor) : Prop where
  rest : Respelled omits cursor.previous cursor.rest cursor'.rest
  previous : cursor'.previous = cursor.previous
  finish : cursor.finish.kind = .finish
  finish' : cursor'.finish.kind = .finish

/-- Both cursors are right before a token. -/
inductive Facing (token : Token) : Cursor → Cursor → Prop
  | token {previous previous' : Option Token} {finish finish' : Token} {rest rest' : List Token}
      (later : Respelled omits (some token) rest rest') (ends : finish.kind = .finish)
      (ends' : finish'.kind = .finish) :
      Facing token ⟨previous, token :: rest, finish⟩ ⟨previous', token :: rest', finish'⟩

/-- What comes next is the same for both cursors. -/
inductive Fresh : Cursor → Cursor → Prop
  | atEnd {previous previous' : Option Token} {finish finish' : Token}
      (ends : finish.kind = .finish) (ends' : finish'.kind = .finish) :
      Fresh ⟨previous, [], finish⟩ ⟨previous', [], finish'⟩
  | facing {token : Token} {cursor cursor' : Cursor} (faces : Facing omits token cursor cursor') :
      Fresh cursor cursor'

/-- The first cursor is at a point that is left out for the second one. -/
inductive AtPoint : Cursor → Cursor → Prop
  | point {previous previous' : Option Token} {point finish finish' : Token}
      {rest rest' : List Token} (is_point : point.kind = .dot)
      (omitted : omits previous (point :: rest))
      (fresh : Fresh omits ⟨some point, rest, finish⟩ ⟨previous', rest', finish'⟩)
      (closes : endsStatement (rest'.headD finish').kind = true) :
      AtPoint ⟨previous, point :: rest, finish⟩ ⟨previous', rest', finish'⟩

/-- The second cursor is at a sign that the first one can do without. -/
inductive AtProduct : Cursor → Cursor → Prop
  | product {first second star finish finish' : Token} {rest rest' : List Token}
      (ends : first.kind.endsFactor = true) (starts : second.kind.startsFactor = true)
      (sign : star.kind = .star)
      (fresh : Fresh omits ⟨some first, second :: rest, finish⟩
        ⟨some star, second :: rest', finish'⟩) :
      AtProduct ⟨some first, second :: rest, finish⟩ ⟨some first, star :: second :: rest', finish'⟩

/-- Two cursors where a statement or an operand may begin. -/
def Ready (cursor cursor' : Cursor) : Prop :=
  Fresh omits cursor cursor' ∨ AtPoint omits cursor cursor'

/-- Two cursors right after a token of a certain kind. -/
structure After (kind : Token.Kind) (cursor cursor' : Cursor) : Prop extends
    Level omits cursor cursor' where
  taken : ∃ token, cursor.previous = some token ∧ token.kind = kind

/-- Two cursors right after a mark that may be there, or where they were if there is none. -/
def Found (kind : Token.Kind) (before : Cursor → Cursor → Prop) (found : Bool)
    (cursor cursor' : Cursor) : Prop :=
  cond found (After omits kind cursor cursor') (before cursor cursor')

variable {omits} {cursor cursor' : Cursor}

/-! ## Places where the spellings differ -/

theorem endsStatement_ne_of_eq_false {kind other : Token.Kind} (ends : endsStatement kind = true)
    (goes_on : endsStatement other = false) : kind ≠ other := by
  rintro rfl
  rw [ends] at goes_on
  cases goes_on

theorem startsFactor_ne_of_eq_false {kind other : Token.Kind} (starts : kind.startsFactor = true)
    (other_kind : other.startsFactor = false) : kind ≠ other := by
  rintro rfl
  rw [starts] at other_kind
  cases other_kind

theorem Fresh.finishes (fresh : Fresh omits cursor cursor') :
    cursor.finish.kind = .finish ∧ cursor'.finish.kind = .finish := by
  cases fresh with
  | atEnd ends ends' => exact ⟨ends, ends'⟩
  | facing faces =>
      cases faces with
      | token later ends ends' => exact ⟨ends, ends'⟩

theorem Facing.peek_eq {token : Token} (faces : Facing omits token cursor cursor') :
    cursor.peek = token ∧ cursor'.peek = token := by
  cases faces with
  | token => exact ⟨rfl, rfl⟩

theorem Ready.finishes (ready : Ready omits cursor cursor') :
    cursor.finish.kind = .finish ∧ cursor'.finish.kind = .finish := by
  rcases ready with fresh | ⟨_, _, fresh, _⟩
  · exact fresh.finishes
  · exact fresh.finishes

theorem Level.finishes (level : Level omits cursor cursor') :
    cursor.finish.kind = .finish ∧ cursor'.finish.kind = .finish :=
  ⟨level.finish, level.finish'⟩

/-- Both cursors see a token of the same kind. -/
theorem Fresh.peek_kind (fresh : Fresh omits cursor cursor') :
    cursor'.peek.kind = cursor.peek.kind := by
  cases fresh with
  | atEnd ends ends' => exact ends'.trans ends.symm
  | facing faces =>
      cases faces with
      | token => rfl

theorem AtPoint.peek_kind (at_point : AtPoint omits cursor cursor') : cursor.peek.kind = .dot := by
  cases at_point with
  | point is_point => exact is_point

theorem AtPoint.peek_kind' (at_point : AtPoint omits cursor cursor') :
    endsStatement cursor'.peek.kind = true := by
  cases at_point with
  | point _ _ _ closes => exact closes

theorem AtProduct.peek_kind (at_product : AtProduct omits cursor cursor') :
    cursor.peek.kind.startsFactor = true := by
  cases at_product with
  | product _ starts => exact starts

theorem AtProduct.peek_kind' (at_product : AtProduct omits cursor cursor') :
    cursor'.peek.kind = .star := by
  cases at_product with
  | product _ _ sign => exact sign

/-- Cursors that see the same are before one token, unless they are at the end. -/
theorem Fresh.exists_facing (fresh : Fresh omits cursor cursor') {kind : Token.Kind}
    (same : cursor.peek.kind = kind) (inner : kind ≠ .finish) :
    ∃ token, Facing omits token cursor cursor' ∧ token.kind = kind := by
  cases fresh with
  | atEnd ends => exact absurd (same.symm.trans ends) inner
  | facing faces =>
      cases faces with
      | @token _ token _ _ _ _ later ends ends' => exact ⟨_, .token later ends ends', same⟩

/-- A point is left out before the end of both lists or before a token that both have. -/
theorem Respelled.of_point {point : Token} {rest rest' : List Token} (is_point : point.kind = .dot)
    (closes : ∀ next ∈ rest.head?, endsStatement next.kind = true)
    (later : Respelled omits (some point) rest rest') :
    (rest = [] ∧ rest' = []) ∨ ∃ next more more', rest = next :: more ∧ rest' = next :: more' ∧
      endsStatement next.kind = true ∧ Respelled omits (some next) more more' := by
  cases later with
  | done => exact .inl ⟨rfl, rfl⟩
  | token later => exact .inr ⟨_, _, _, rfl, rfl, closes _ rfl, later⟩
  | product ends_factor =>
      rw [is_point] at ends_factor
      cases ends_factor
  | point is_point' =>
      have ends := closes _ rfl
      rw [is_point'] at ends
      cases ends

/-- After a token that multiplies with nothing, the second list has what the first one has, unless
that is a point. -/
theorem Respelled.exists_cons {previous token : Token} {rest tokens' : List Token}
    (respelled : Respelled omits (some previous) (token :: rest) tokens')
    (no_factor : previous.kind.endsFactor = false) (no_point : token.kind ≠ .dot) :
    ∃ rest', tokens' = token :: rest' ∧ Respelled omits (some token) rest rest' := by
  cases respelled with
  | token later => exact ⟨_, rfl, later⟩
  | product ends =>
      rw [ends] at no_factor
      cases no_factor
  | point is_point => exact absurd is_point no_point

/-- The first list has what the second one has, unless that is a sign or what a point is left out
before. -/
theorem Respelled.exists_cons_left {previous : Option Token} {token : Token}
    {tokens rest' : List Token} (respelled : Respelled omits previous tokens (token :: rest'))
    (no_sign : token.kind ≠ .star) (goes_on : endsStatement token.kind = false) :
    ∃ rest, tokens = token :: rest ∧ Respelled omits (some token) rest rest' := by
  cases respelled with
  | token later => exact ⟨_, rfl, later⟩
  | product _ _ sign => exact absurd sign no_sign
  | point is_point _ closes later =>
      rcases later.of_point is_point closes with ⟨_, last⟩ | ⟨next, _, _, _, same, ends, _⟩
      · cases last
      · cases same
        rw [goes_on] at ends
        cases ends

/-- Level cursors see the same, or one of them is at a point or a sign of its own. -/
theorem Level.cases (level : Level omits cursor cursor') :
    Ready omits cursor cursor' ∨ AtProduct omits cursor cursor' := by
  obtain ⟨previous, rest, finish⟩ := cursor
  obtain ⟨previous', rest', finish'⟩ := cursor'
  obtain ⟨respelled, same, ends, ends'⟩ := level
  cases same
  cases respelled with
  | done => exact .inl (.inl (.atEnd ends ends'))
  | token later => exact .inl (.inl (.facing (.token later ends ends')))
  | product ends_factor starts sign later =>
      exact .inr (.product ends_factor starts sign (.facing (.token later ends ends')))
  | @point _ point rest _ is_point omitted closes later =>
      have fresh : Fresh omits ⟨some point, rest, finish⟩ ⟨previous, rest', finish'⟩ ∧
          endsStatement (rest'.headD finish').kind = true := by
        rcases later.of_point is_point closes with
          ⟨rfl, rfl⟩ | ⟨next, more, more', rfl, rfl, closes, later⟩
        · exact ⟨.atEnd ends ends', by rw [List.headD_nil, ends']; rfl⟩
        · exact ⟨.facing (.token later ends ends'), closes⟩
      exact .inl (.inr (.point is_point omitted fresh.1 fresh.2))

/-- Level cursors that do not see a factor next see the same, apart from points. -/
theorem Level.ready_of_peek (level : Level omits cursor cursor')
    (no_factor : cursor.peek.kind.startsFactor = false) : Ready omits cursor cursor' :=
  level.cases.resolve_right fun at_product => by
    rw [at_product.peek_kind] at no_factor
    cases no_factor

theorem Ready.fresh_of_peek (ready : Ready omits cursor cursor')
    (no_point : cursor.peek.kind ≠ .dot) : Fresh omits cursor cursor' :=
  ready.resolve_right fun at_point => no_point at_point.peek_kind

theorem Level.fresh_of_peek (level : Level omits cursor cursor')
    (no_point : cursor.peek.kind ≠ .dot) (no_factor : cursor.peek.kind.startsFactor = false) :
    Fresh omits cursor cursor' :=
  (level.ready_of_peek no_factor).fresh_of_peek no_point

theorem Respelled.after {token finish finish' : Token} {rest rest' : List Token} {kind : Token.Kind}
    (later : Respelled omits (some token) rest rest') (same : token.kind = kind)
    (ends : finish.kind = .finish) (ends' : finish'.kind = .finish) :
    After omits kind ⟨some token, rest, finish⟩ ⟨some token, rest', finish'⟩ :=
  ⟨⟨later, rfl, ends, ends'⟩, token, rfl, same⟩

/-- No sign is written right after a token that multiplies with nothing. -/
theorem After.ready {kind : Token.Kind} (after : After omits kind cursor cursor')
    (no_factor : kind.endsFactor = false) : Ready omits cursor cursor' := by
  refine after.toLevel.cases.resolve_right ?_
  rintro ⟨ends⟩
  obtain ⟨token, taken, rfl⟩ := after.taken
  cases taken
  rw [ends] at no_factor
  cases no_factor

/-! ## Runs that come to the same -/

theorem advance_bind_run {α : Type} (next : Token → Parser α) (previous : Option Token)
    (token : Token) (rest : List Token) (finish : Token) :
    (advance >>= next).run ⟨previous, token :: rest, finish⟩ =
      (next token).run ⟨some token, rest, finish⟩ := rfl

variable (omits) in
/-- The complaint about a declaration without a body whose point is left out. -/
def Excused (diagnostic : Diagnostic) : Prop :=
  ∃ close point next rest, close.kind = .parenClose ∧ omits (some close) (point :: next :: rest) ∧
    next.kind ≠ .finish ∧
    diagnostic =
      ⟨.malformed (unexpected (.mark ":" "to open the function body") next), next.span⟩

variable {α β : Type}

variable (omits) in
/-- What the second run comes to where the first one comes to a value. -/
inductive Told (after : Cursor → Cursor → Prop) (value : α) (final : Cursor) :
    Except Diagnostic (α × Cursor) → Prop
  | same {final' : Cursor} (follows : after final final') :
      Told after value final (.ok (value, final'))
  | refused {diagnostic : Diagnostic} (excused : Excused omits diagnostic) :
      Told after value final (.error diagnostic)

variable (omits) in
/-- From cursors at corresponding places on, the second run comes to what the first one comes to. -/
def Retells (before : Cursor → Cursor → Prop) (after : α → Cursor → Cursor → Prop)
    (parser : Parser α) : Prop :=
  ∀ cursor cursor', before cursor cursor' →
    ∀ value final, parser.run cursor = .ok (value, final) →
      Told omits (after value) value final (parser.run cursor')

variable {before : Cursor → Cursor → Prop} {middle after : α → Cursor → Cursor → Prop}
  {later : β → Cursor → Cursor → Prop}

theorem Told.mono {after after' : Cursor → Cursor → Prop} {value : α} {final : Cursor}
    {outcome : Except Diagnostic (α × Cursor)} (told : Told omits after value final outcome)
    (weaker : ∀ final', after final final' → after' final final') :
    Told omits after' value final outcome := by
  cases told with
  | same follows => exact .same (weaker _ follows)
  | refused excused => exact .refused excused

namespace Retells

theorem mono {before' : Cursor → Cursor → Prop} {after' : α → Cursor → Cursor → Prop}
    {parser : Parser α} (retells : Retells omits before after parser)
    (stronger : ∀ {cursor cursor'}, before' cursor cursor' → before cursor cursor')
    (weaker : ∀ {value cursor cursor'}, after value cursor cursor' → after' value cursor cursor') :
    Retells omits before' after' parser :=
  fun _ _ related _ _ run => (retells _ _ (stronger related) _ _ run).mono fun _ => weaker

protected theorem pure {value : α} (follows : ∀ {cursor cursor'}, before cursor cursor' →
    after value cursor cursor') : Retells omits before after (pure value) := by
  intro cursor cursor' related value final run
  cases run
  exact .same (follows related)

theorem bind {first : Parser α} {next : α → Parser β}
    (first_retells : Retells omits before middle first)
    (next_retells : ∀ value, Retells omits (middle value) later (next value)) :
    Retells omits before later (first >>= next) := by
  intro cursor cursor' related value final run
  obtain ⟨found, between, first_run, next_run⟩ := run_bind_eq_ok run
  generalize outcome : first.run cursor' = second at *
  cases outcome ▸ first_retells _ _ related _ _ first_run with
  | same follows =>
      rw [run_bind_of_ok outcome]
      exact next_retells found _ _ follows _ _ next_run
  | refused excused =>
      rw [run_bind_of_error outcome]
      exact .refused excused

/-! ### Looking and taking -/

/-- Where the kind of what comes next is known, both runs are compared from one token on. -/
theorem of_kind {kind : Token.Kind} {parser : Parser α} (inner : kind ≠ .finish)
    (fresh : ∀ {cursor cursor'}, before cursor cursor' →
      Fresh omits cursor cursor' ∧ cursor.peek.kind = kind)
    (retells : ∀ token : Token, token.kind = kind →
      Retells omits (Facing omits token) after parser) :
    Retells omits before after parser := by
  intro cursor cursor' related value final run
  obtain ⟨same, peek_kind⟩ := fresh related
  obtain ⟨token, faces, token_kind⟩ := same.exists_facing peek_kind inner
  exact retells token token_kind _ _ faces _ _ run

/-- The kind of what comes next decides how both runs go on. -/
theorem peekKind_of_same {next : Token.Kind → Parser α}
    (same : ∀ {cursor cursor'}, before cursor cursor' → cursor'.peek.kind = cursor.peek.kind)
    (retells : ∀ kind, Retells omits (fun cursor cursor' =>
      before cursor cursor' ∧ cursor.peek.kind = kind) after (next kind)) :
    Retells omits before after (Parser.peekKind >>= next) := by
  intro cursor cursor' related value final run
  have looked : Parser.peekKind.run cursor = .ok (cursor.peek.kind, cursor) := rfl
  have looked' : Parser.peekKind.run cursor' = .ok (cursor'.peek.kind, cursor') := rfl
  rw [run_bind_of_ok looked] at run
  rw [run_bind_of_ok looked', same related]
  exact retells _ _ _ ⟨related, rfl⟩ _ _ run

variable {token : Token}

/-- Both runs see the token that comes next. -/
theorem peek {next : Token → Parser α}
    (faces : ∀ {cursor cursor'}, before cursor cursor' → Facing omits token cursor cursor')
    (retells : Retells omits before after (next token)) :
    Retells omits before after (Parser.peek >>= next) := by
  intro cursor cursor' related value final run
  obtain ⟨seen, seen'⟩ := (faces related).peek_eq
  have looked : Parser.peek.run cursor = .ok (cursor.peek, cursor) := rfl
  have looked' : Parser.peek.run cursor' = .ok (cursor'.peek, cursor') := rfl
  rw [run_bind_of_ok looked, seen] at run
  rw [run_bind_of_ok looked', seen']
  exact retells _ _ related _ _ run

theorem peekKind {next : Token.Kind → Parser α}
    (faces : ∀ {cursor cursor'}, before cursor cursor' → Facing omits token cursor cursor')
    (retells : Retells omits before after (next token.kind)) :
    Retells omits before after (Parser.peekKind >>= next) := by
  have looks : Retells omits before after (Parser.peek >>= fun token => next token.kind) :=
    .peek faces retells
  exact looks

/-- Both runs take the token that comes next. -/
theorem advance :
    Retells omits (Facing omits token) (fun _ => After omits token.kind) Parser.advance := by
  rintro _ _ ⟨later, ends, ends'⟩ value final run
  rw [advance_run_cons rfl] at run ⊢
  cases run
  exact .same (later.after rfl ends ends')

/-- Both runs take a token that has to be there, if they see it both. -/
theorem expect {kind : Token.Kind} (wanted : Wanted) (inner : kind ≠ .finish)
    (sees : ∀ {cursor cursor'}, before cursor cursor' → cursor.peek.kind = kind →
      Fresh omits cursor cursor') :
    Retells omits before (fun _ => After omits kind) (Parser.expect kind wanted) := by
  intro cursor cursor' related value final run
  by_cases same : cursor.peek.kind = kind
  · have fresh := sees related same
    have looked : Parser.peekKind.run cursor = .ok (cursor.peek.kind, cursor) := rfl
    have looked' : Parser.peekKind.run cursor' = .ok (cursor'.peek.kind, cursor') := rfl
    rw [Parser.expect, run_bind_of_ok looked, if_pos same] at run
    rw [Parser.expect, run_bind_of_ok looked', if_pos (fresh.peek_kind.trans same)]
    obtain ⟨token, faces, rfl⟩ := fresh.exists_facing same inner
    exact Retells.advance _ _ faces _ _ run
  · rw [expect_run_of_ne wanted same] at run
    cases run

/-- Both runs find a mark that may be there, or neither does. -/
theorem accept {kind : Token.Kind} (inner : kind ≠ .finish)
    (iff : ∀ {cursor cursor'}, before cursor cursor' →
      (cursor.peek.kind = kind ↔ cursor'.peek.kind = kind))
    (sees : ∀ {cursor cursor'}, before cursor cursor' → cursor.peek.kind = kind →
      Fresh omits cursor cursor') :
    Retells omits before (Found omits kind before) (Parser.accept kind) := by
  intro cursor cursor' related value final run
  by_cases same : cursor.peek.kind = kind
  · have looked : Parser.peekKind.run cursor = .ok (cursor.peek.kind, cursor) := rfl
    have looked' : Parser.peekKind.run cursor' = .ok (cursor'.peek.kind, cursor') := rfl
    rw [Parser.accept, run_bind_of_ok looked, if_pos same] at run
    rw [Parser.accept, run_bind_of_ok looked', if_pos ((iff related).1 same)]
    obtain ⟨token, faces, rfl⟩ := (sees related same).exists_facing same inner
    have takes : Retells omits (Facing omits token)
        (Found omits token.kind before)
        (Parser.advance >>= fun _ => Pure.pure true) :=
      .bind .advance fun _ => .pure id
    exact takes _ _ faces _ _ run
  · rw [accept_run_of_ne same] at run
    rw [accept_run_of_ne (mt (iff related).2 same)]
    cases run
    exact .same related

/-- A mark that may be there, and what comes with it or without it. -/
theorem of_accept {kind : Token.Kind} {yes no : Parser α}
    (accepts : Retells omits before (Found omits kind before) (Parser.accept kind))
    (with_mark : Retells omits (After omits kind) after yes)
    (without_mark : Retells omits before after no) :
    Retells omits before after (Parser.accept kind >>= fun found => if found then yes else no) := by
  refine accepts.bind fun found => ?_
  cases found with
  | true => exact with_mark
  | false => exact without_mark

end Retells

/-- The kinds of tokens that are neither a point nor what a point is left out before. -/
def isPlain : Token.Kind → Bool
  | .dot => false
  | kind => !endsStatement kind

/-- The kinds of plain tokens that are no sign and begin no factor. -/
def isFixed : Token.Kind → Bool
  | .star => false
  | kind => isPlain kind && !kind.startsFactor

section Kinds

variable {kind : Token.Kind}

theorem ne_dot_of_isPlain (plain : isPlain kind = true) : kind ≠ .dot := by
  rintro rfl
  cases plain

theorem ne_finish_of_isPlain (plain : isPlain kind = true) : kind ≠ .finish := by
  rintro rfl
  cases plain

theorem endsStatement_of_isPlain (plain : isPlain kind = true) : endsStatement kind = false := by
  unfold isPlain at plain
  split at plain
  · cases plain
  · rwa [Bool.not_eq_true'] at plain

theorem ne_star_of_isFixed (fixed : isFixed kind = true) : kind ≠ .star := by
  rintro rfl
  cases fixed

theorem isPlain_of_isFixed (fixed : isFixed kind = true) :
    isPlain kind = true ∧ kind.startsFactor = false := by
  unfold isFixed at fixed
  split at fixed
  · cases fixed
  · rwa [Bool.and_eq_true, Bool.not_eq_true'] at fixed

theorem Ready.peek_kind_iff (ready : Ready omits cursor cursor') (plain : isPlain kind = true) :
    cursor.peek.kind = kind ↔ cursor'.peek.kind = kind := by
  rcases ready with fresh | at_point
  · rw [fresh.peek_kind]
  · rw [at_point.peek_kind]
    have other :=
      endsStatement_ne_of_eq_false at_point.peek_kind' (endsStatement_of_isPlain plain)
    exact iff_of_false (ne_dot_of_isPlain plain).symm other

theorem Level.peek_kind_iff (level : Level omits cursor cursor') (fixed : isFixed kind = true) :
    cursor.peek.kind = kind ↔ cursor'.peek.kind = kind := by
  obtain ⟨plain, no_factor⟩ := isPlain_of_isFixed fixed
  rcases level.cases with ready | at_product
  · exact ready.peek_kind_iff plain
  · rw [at_product.peek_kind']
    have other := startsFactor_ne_of_eq_false at_product.peek_kind no_factor
    exact iff_of_false other (ne_star_of_isFixed fixed).symm

theorem fresh_of_fixed (fixed : isFixed kind = true) (level : Level omits cursor cursor')
    (same : cursor.peek.kind = kind) : Fresh omits cursor cursor' := by
  obtain ⟨plain, no_factor⟩ := isPlain_of_isFixed fixed
  subst same
  exact level.fresh_of_peek (ne_dot_of_isPlain plain) no_factor

theorem ne_finish_of_isFixed (fixed : isFixed kind = true) : kind ≠ .finish :=
  ne_finish_of_isPlain (isPlain_of_isFixed fixed).1

/-- Right after a token that multiplies with nothing, both cursors see a certain kind of token, or
neither does. -/
theorem Respelled.headD_kind_iff {previous finish finish' : Token} {rest rest' : List Token}
    (respelled : Respelled omits (some previous) rest rest')
    (no_factor : previous.kind.endsFactor = false) (ends : finish.kind = .finish)
    (ends' : finish'.kind = .finish) (plain : isPlain kind = true) :
    (rest.headD finish).kind = kind ↔ (rest'.headD finish').kind = kind := by
  have ready := (respelled.after rfl ends ends').ready no_factor
  exact ready.peek_kind_iff plain

end Kinds

namespace Retells

variable {kind : Token.Kind}

/-- A mark that both spellings have in the same places. -/
theorem accept_fixed (fixed : isFixed kind = true)
    (level : ∀ {cursor cursor'}, before cursor cursor' → Level omits cursor cursor') :
    Retells omits before (Found omits kind before) (Parser.accept kind) :=
  .accept (ne_finish_of_isFixed fixed) (fun related => (level related).peek_kind_iff fixed)
    fun related => fresh_of_fixed fixed (level related)

/-- A mark where a factor may not come next without a sign. -/
theorem accept_ready (plain : isPlain kind = true)
    (ready : ∀ {cursor cursor'}, before cursor cursor' → Ready omits cursor cursor') :
    Retells omits before (Found omits kind before) (Parser.accept kind) := by
  refine .accept (ne_finish_of_isPlain plain) (fun related => (ready related).peek_kind_iff plain) ?_
  rintro cursor cursor' related rfl
  exact (ready related).fresh_of_peek (ne_dot_of_isPlain plain)

theorem accept_fresh (inner : kind ≠ .finish)
    (fresh : ∀ {cursor cursor'}, before cursor cursor' → Fresh omits cursor cursor') :
    Retells omits before (Found omits kind before) (Parser.accept kind) :=
  .accept inner (fun related => by rw [(fresh related).peek_kind]) fun related _ => fresh related

theorem expect_fixed (wanted : Wanted) (fixed : isFixed kind = true)
    (level : ∀ {cursor cursor'}, before cursor cursor' → Level omits cursor cursor') :
    Retells omits before (fun _ => After omits kind) (Parser.expect kind wanted) :=
  .expect wanted (ne_finish_of_isFixed fixed) fun related => fresh_of_fixed fixed (level related)

theorem expect_ready (wanted : Wanted) (plain : isPlain kind = true)
    (ready : ∀ {cursor cursor'}, before cursor cursor' → Ready omits cursor cursor') :
    Retells omits before (fun _ => After omits kind) (Parser.expect kind wanted) := by
  refine .expect wanted (ne_finish_of_isPlain plain) ?_
  rintro cursor cursor' related rfl
  exact (ready related).fresh_of_peek (ne_dot_of_isPlain plain)

theorem expect_fresh (wanted : Wanted) (inner : kind ≠ .finish) :
    Retells omits (Fresh omits) (fun _ => After omits kind) (Parser.expect kind wanted) :=
  .expect wanted inner fun fresh _ => fresh

end Retells

theorem Retells.refuse {before : Cursor → Cursor → Prop} {after : α → Cursor → Cursor → Prop}
    (wanted : Wanted) : Retells omits before after (refuse wanted) := by
  intro cursor cursor' _ value final run
  rw [refuse_run] at run
  cases run

theorem Retells.complain {before : Cursor → Cursor → Prop} {after : α → Cursor → Cursor → Prop}
    (token : Token) (fault : SyntaxFault) : Retells omits before after (complain token fault) := by
  intro cursor cursor' _ value final run
  cases run

/-! ## Loops -/

section Loops

variable {step : α → Parser (Option α)} {inside outside : Cursor → Cursor → Prop}

/-- Two cursors after an answer, or else without one. -/
def Answered (inside outside : Cursor → Cursor → Prop) (answer : Option α)
    (cursor cursor' : Cursor) : Prop :=
  answer.elim (outside cursor cursor') fun _ => inside cursor cursor'

variable (omits inside outside step) in
/-- Every turn of a loop is retold: a last one leads out of the loop, and any other one takes a
token and stays inside. -/
structure RetellsTurns : Prop where
  retells : ∀ state, Retells omits inside (Answered inside outside) (step state)
  finishes : ∀ {cursor cursor'}, inside cursor cursor' →
    cursor.finish.kind = .finish ∧ cursor'.finish.kind = .finish
  shrinks : ∀ {state next cursor final}, (step state).run cursor = .ok (some next, final) →
    cursor.finish.kind = .finish → final.rest.length < cursor.rest.length

theorem RetellsTurns.told_turn (turns : RetellsTurns omits step inside outside)
    (related : inside cursor cursor') {next next' : α → Parser α} {state value : α} {final : Cursor}
    (run : (turn step next state).run cursor = .ok (value, final))
    (goes_on : ∀ found between between', (step state).run cursor = .ok (some found, between) →
      (step state).run cursor' = .ok (some found, between') → inside between between' →
      (next found).run between = .ok (value, final) →
      Told omits outside value final ((next' found).run between')) :
    Told omits outside value final ((turn step next' state).run cursor') := by
  obtain ⟨answer, between, step_run, next_run⟩ := run_bind_eq_ok run
  have told := turns.retells state _ _ related _ _ step_run
  rw [turn]
  generalize outcome : (step state).run cursor' = second at told
  cases told with
  | refused excused =>
      rw [run_bind_of_error outcome]
      exact .refused excused
  | same follows =>
      rw [run_bind_of_ok outcome]
      cases answer with
      | none =>
          cases next_run
          exact .same follows
      | some found => exact goes_on found _ _ step_run outcome follows next_run

/-- Loops may be given more turns than they take, so their numbers need not be the same. -/
theorem RetellsTurns.told_repeatAlong (turns : RetellsTurns omits step inside outside)
    (related : inside cursor cursor') {tokens tokens' : List Token} {state value : α}
    {final : Cursor} (enough : cursor.rest.length ≤ tokens.length)
    (enough' : cursor'.rest.length ≤ tokens'.length)
    (run : (repeatAlong step tokens state).run cursor = .ok (value, final)) :
    Told omits outside value final ((repeatAlong step tokens' state).run cursor') := by
  have finishes := turns.finishes related
  induction tokens generalizing tokens' state cursor cursor' with
  | nil =>
      have last (next' : α → Parser α) :
          Told omits outside value final ((turn step next' state).run cursor') := by
        refine turns.told_turn related run fun found between between' step_run _ _ _ => ?_
        have shorter := turns.shrinks step_run finishes.1
        rw [List.length_nil] at enough
        omega
      cases tokens' with
      | nil => exact last _
      | cons token' tokens' => exact last _
  | cons token tokens ih =>
      cases tokens' with
      | nil =>
          refine turns.told_turn related run fun found between between' _ step_run' _ _ => ?_
          have shorter' := turns.shrinks step_run' finishes.2
          rw [List.length_nil] at enough'
          omega
      | cons token' tokens' =>
          refine turns.told_turn related run ?_
          intro found between between' step_run step_run' next_related next_run
          have shorter := turns.shrinks step_run finishes.1
          have shorter' := turns.shrinks step_run' finishes.2
          rw [List.length_cons] at enough enough'
          exact ih next_related (by omega) (by omega) next_run (turns.finishes next_related)

theorem Retells.whileSome (turns : RetellsTurns omits step inside outside) (state : α) :
    Retells omits inside (fun _ => outside) (whileSome step state) :=
  fun _ _ related _ _ run =>
    turns.told_repeatAlong related (Nat.le_refl _) (Nat.le_refl _) run

end Loops

/-! ## Points begin nothing -/

/-- The parser complains where a point comes next. -/
class RefusesPoint (parser : Parser α) : Prop where
  refuses : ∀ {cursor : Cursor}, cursor.peek.kind = .dot →
    ∃ diagnostic, parser.run cursor = .error diagnostic

theorem RefusesPoint.bind {first : Parser α} (refusing : RefusesPoint first)
    (next : α → Parser β) : RefusesPoint (first >>= next) where
  refuses at_point := by
    obtain ⟨diagnostic, run⟩ := refusing.refuses at_point
    exact ⟨diagnostic, run_bind_of_error run next⟩

instance {first : Parser α} {next : α → Parser β} [refusing : RefusesPoint first] :
    RefusesPoint (first >>= next) :=
  refusing.bind next

theorem RefusesPoint.expect {kind : Token.Kind} (wanted : Wanted) (other : kind ≠ .dot) :
    RefusesPoint (expect kind wanted) where
  refuses at_point := ⟨_, expect_run_of_ne wanted (at_point ▸ other.symm)⟩

instance (role : String) : RefusesPoint (expectName role) := .expect _ (by decide)

instance : RefusesPoint (tooDeep : Parser α) where
  refuses _ := ⟨_, rfl⟩

/-- The runs of a parser that does not begin with a point have to be compared where the same comes
next for both. -/
theorem Retells.of_fresh {parser : Parser α} [no_point : RefusesPoint parser]
    (ready : ∀ {cursor cursor'}, before cursor cursor' → Ready omits cursor cursor')
    (retells : Retells omits (fun cursor cursor' =>
      before cursor cursor' ∧ Fresh omits cursor cursor') after parser) :
    Retells omits before after parser := by
  intro cursor cursor' related value final run
  rcases ready related with fresh | at_point
  · exact retells _ _ ⟨related, fresh⟩ _ _ run
  · obtain ⟨diagnostic, refused⟩ := no_point.refuses at_point.peek_kind
    rw [refused] at run
    cases run

/-- If the parser refuses the end as well, they have to be compared where a token comes next. -/
theorem Retells.of_facing {parser : Parser α} [refusing : Refuses parser] [RefusesPoint parser]
    (retells : ∀ token, Retells omits (Facing omits token) after parser) :
    Retells omits (Ready omits) after parser := by
  refine .of_fresh id ?_
  rintro cursor cursor' ⟨-, fresh⟩ value final run
  cases fresh with
  | @atEnd previous _ finish _ ends =>
      have at_end : Cursor.AtEnd ⟨previous, [], finish⟩ := ⟨rfl, ends⟩
      obtain ⟨diagnostic, refused, _⟩ := refusing.refuses at_end
      rw [refused] at run
      cases run
  | facing faces => exact retells _ _ _ faces _ _ run

end Parser
end DotScript
