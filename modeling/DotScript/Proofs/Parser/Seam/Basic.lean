import DotScript.Proofs.Parser.Progress
import DotScript.Proofs.Tree.Spans

/-!
# Two runs along a seam

One token list is parsed on its own and once more with further tokens behind it.  Spans may differ
between the two lists; they are compared after a change on either side.  The place where the first
list ends and the further tokens begin is the seam.

Both runs do the same until the first one comes to its end.  `Agree` lists what they come to: the
same; or the first run stops at its end, with a result or with a complaint about the end or about
depth; or both complain.  With no further tokens, they come to the same or both complain.
-/

namespace DotScript

/-- The kinds of tokens at which an expression ends, whatever stands before them. -/
def Token.Kind.endsExpression : Token.Kind → Bool
  | .finish | .dot | .semicolon | .colon | .parenClose | .bracketClose | .braceClose => true
  | .keyword .to => true
  | _ => false

theorem Token.Kind.ne_finish_of_endsExpression {kind : Token.Kind}
    (goes_on : kind.endsExpression = false) : kind ≠ .finish := by
  rintro rfl
  cases goes_on

/-- Whether a point, a name that touches it and an opening parenthesis come first. -/
def startsMethodCall : List Token → Bool
  | dot :: name :: mark :: _ =>
    dot.kind = .dot && name.kind = .identifier && mark.kind = .parenOpen &&
      dot.span.stop == name.span.start
  | _ => false

theorem name_of_startsMethodCall {dot name : Token} {tokens : List Token}
    (calls : startsMethodCall (dot :: name :: tokens) = true) :
    dot.kind = .dot ∧ name.kind = .identifier ∧ dot.span.stop = name.span.start := by
  cases tokens with
  | nil => cases calls
  | cons mark rest =>
      simp only [startsMethodCall, Bool.and_eq_true, decide_eq_true_eq, beq_iff_eq] at calls
      exact ⟨calls.1.1.1, calls.1.1.2, calls.2⟩

theorem exists_of_startsMethodCall {tokens : List Token} (calls : startsMethodCall tokens = true) :
    ∃ dot name mark rest, tokens = dot :: name :: mark :: rest ∧ dot.kind = .dot := by
  match tokens, calls with
  | dot :: name :: mark :: rest, calls =>
      exact ⟨dot, name, mark, rest, rfl, (name_of_startsMethodCall calls).1⟩

/-- Whether the word `points` comes first. -/
def startsPoints : List Token → Bool
  | [] => false
  | token :: _ => token.kind = .keyword .points

/-- Two token lists, of which one may go on after the other has ended. -/
structure Seam where
  /-- What is done to spans of the first list before they are compared. -/
  left : Span → Span
  /-- What is done to spans of the second list before they are compared. -/
  right : Span → Span
  /-- The further tokens of the second list. -/
  more : List Token
  /-- The token that ends the first list. -/
  finish : Token
  /-- The token that ends the second list. -/
  finish' : Token
  joins : ∀ {first last first' last' : Span}, left first = right first' → left last = right last' →
    left (first.to last) = right (first'.to last')
  finish_kind : finish.kind = .finish
  finish_kind' : finish'.kind = .finish

namespace Seam

variable (seam : Seam)

/-- Two tokens that differ in their places at most. -/
structure Alike (token token' : Token) : Prop where
  kind : token.kind = token'.kind
  text : token.text = token'.text
  span : seam.left token.span = seam.right token'.span

/-- Two lists of tokens that are alike up to the seam.  The marks that are recognised by what comes
after them are the same in both lists. -/
inductive Tracked : List Token → List Token → Prop
  | stop : Tracked [] seam.more
  | step {token token' : Token} {rest rest' : List Token} (alike : seam.Alike token token')
      (calls : startsMethodCall (token :: rest) = startsMethodCall (token' :: rest'))
      (points : token.kind = .not → startsPoints rest = startsPoints rest')
      (later : Tracked rest rest') : Tracked (token :: rest) (token' :: rest')

/-- What stands before two cursors at corresponding places.  Where nothing stands before the first
one, a statement may have ended before the second one. -/
inductive Before : Option Token → Option Token → Prop
  | start {previous' : Option Token}
      (ended : ∀ token ∈ previous', token.kind = .dot ∨ token.kind = .semicolon) :
      Before none previous'
  | after {token token' : Token} (alike : seam.Alike token token') :
      Before (some token) (some token')

/-- Two cursors at corresponding places. -/
structure Follows (cursor cursor' : Cursor) : Prop where
  rest : seam.Tracked cursor.rest cursor'.rest
  previous : seam.Before cursor.previous cursor'.previous
  finish : cursor.finish = seam.finish
  finish' : cursor'.finish = seam.finish'

/-- The kind of the token right after the seam. -/
def headKind : Token.Kind :=
  (seam.more.headD seam.finish').kind

/-- The further tokens may go on with an expression. -/
def Open : Prop :=
  startsMethodCall seam.more = true ∨ seam.headKind.endsExpression = false

variable {seam} {α β γ δ : Type}

theorem not_open_of_more_eq_nil (nothing : seam.more = []) : ¬ seam.Open := by
  rintro (calls | goes_on)
  · rw [nothing] at calls
    cases calls
  · rw [headKind, nothing, List.headD_nil, seam.finish_kind'] at goes_on
    cases goes_on

theorem Tracked.eq_of_nil {tokens' : List Token} (tracked : seam.Tracked [] tokens') :
    tokens' = seam.more := by
  cases tracked
  rfl

theorem Follows.atEnd {cursor cursor' : Cursor} (follows : seam.Follows cursor cursor')
    (at_end : cursor.rest = []) : cursor.AtEnd :=
  ⟨at_end, by rw [follows.finish, seam.finish_kind]⟩

theorem Follows.rest_eq_more {cursor cursor' : Cursor} (follows : seam.Follows cursor cursor')
    (at_end : cursor.rest = []) : cursor'.rest = seam.more :=
  (at_end ▸ follows.rest).eq_of_nil

theorem Follows.atEnd_of_more_eq_nil {cursor cursor' : Cursor}
    (follows : seam.Follows cursor cursor') (at_end : cursor.rest = []) (nothing : seam.more = []) :
    cursor'.AtEnd :=
  ⟨(follows.rest_eq_more at_end).trans nothing, by rw [follows.finish', seam.finish_kind']⟩

theorem Follows.exists_cons {cursor cursor' : Cursor} {token : Token} {rest : List Token}
    (follows : seam.Follows cursor cursor') (tokens : cursor.rest = token :: rest) :
    ∃ token' rest', cursor'.rest = token' :: rest' ∧ seam.Alike token token' ∧
      seam.Follows { cursor with previous := some token, rest }
        { cursor' with previous := some token', rest := rest' } := by
  have tracked := follows.rest
  rw [tokens] at tracked
  generalize second : cursor'.rest = tokens' at tracked
  cases tracked with
  | step alike calls points later =>
      exact ⟨_, _, rfl, alike, later, .after alike, follows.finish, follows.finish'⟩

theorem Follows.rest_ne_nil {cursor cursor' : Cursor} (follows : seam.Follows cursor cursor')
    (inside : cursor.rest ≠ []) : cursor'.rest ≠ [] := by
  obtain ⟨token, rest, tokens⟩ := List.exists_cons_of_ne_nil inside
  obtain ⟨token', rest', tokens', _, _⟩ := follows.exists_cons tokens
  rw [tokens']
  exact List.cons_ne_nil _ _

/-- What two runs come to. -/
inductive Agree (halt : Cursor → Prop) (related : α → β → Prop) :
    Except Diagnostic (α × Cursor) → Except Diagnostic (β × Cursor) → Prop
  | same {value : α} {value' : β} {cursor cursor' : Cursor} (results : related value value')
      (follows : seam.Follows cursor cursor') :
      Agree halt related (.ok (value, cursor)) (.ok (value', cursor'))
  | stopped {value : α} {cursor : Cursor} {outcome : Except Diagnostic (β × Cursor)}
      (further : seam.more ≠ []) (at_end : cursor.rest = []) (finish : cursor.finish = seam.finish)
      (halts : halt cursor) :
      Agree halt related (.ok (value, cursor)) outcome
  | refused {diagnostic : Diagnostic} {outcome : Except Diagnostic (β × Cursor)}
      (further : seam.more ≠ [])
      (cause : diagnostic.span = seam.finish.span ∨ diagnostic.fault = .malformed .tooDeep) :
      Agree halt related (.error diagnostic) outcome
  | failed {diagnostic diagnostic' : Diagnostic} :
      Agree halt related (.error diagnostic) (.error diagnostic')

variable (seam) in
/-- Two parsers agree from cursors at corresponding places on. -/
def Tracks (halt : Cursor → Prop) (related : α → β → Prop) (parser : Parser α)
    (parser' : Parser β) : Prop :=
  ∀ cursor cursor', seam.Follows cursor cursor' →
    seam.Agree halt related (parser.run cursor) (parser'.run cursor')

/-! ## Sequences -/

open DotScript.Parser

variable {halt halt' : Cursor → Prop} {related : α → β → Prop} {later : γ → δ → Prop}

theorem Agree.mono {halt' : Cursor → Prop} {related' : α → β → Prop}
    {outcome : Except Diagnostic (α × Cursor)} {outcome' : Except Diagnostic (β × Cursor)}
    (agree : seam.Agree halt related outcome outcome')
    (results : ∀ value value', related value value' → related' value value')
    (halts : ∀ value cursor, outcome = .ok (value, cursor) → halt cursor → halt' cursor) :
    seam.Agree halt' related' outcome outcome' := by
  cases agree with
  | same alike follows => exact .same (results _ _ alike) follows
  | stopped further at_end finish halted =>
      exact .stopped further at_end finish (halts _ _ rfl halted)
  | refused further cause => exact .refused further cause
  | failed => exact .failed

/-- At the end of the first list the first run stops. -/
theorem Follows.agree_of_rests {cursor cursor' : Cursor} (follows : seam.Follows cursor cursor')
    (parser : Parser α) [Rests parser] (at_end : cursor.rest = []) (further : seam.more ≠ [])
    (halts : halt cursor) (outcome : Except Diagnostic (β × Cursor)) :
    seam.Agree halt related (parser.run cursor) outcome := by
  rcases Rests.run_atEnd parser (follows.atEnd at_end) with ⟨value, run⟩ | ⟨diagnostic, run, span⟩
  · rw [run]
    exact .stopped further at_end follows.finish halts
  · rw [run]
    exact .refused further (.inl (follows.finish ▸ span))

/-- At the end of the first list runs that ask for more are refused. -/
theorem Follows.agree_of_refuses {cursor cursor' : Cursor} (follows : seam.Follows cursor cursor')
    (at_end : cursor.rest = []) (parser : Parser α) (parser' : Parser β)
    [refusing : Refuses parser] [refusing' : Refuses parser'] :
    seam.Agree halt related (parser.run cursor) (parser'.run cursor') := by
  obtain ⟨diagnostic, run, span⟩ := refusing.refuses (follows.atEnd at_end)
  rw [run]
  by_cases nothing : seam.more = []
  · obtain ⟨diagnostic', run', _⟩ :=
      refusing'.refuses (follows.atEnd_of_more_eq_nil at_end nothing)
    rw [run']
    exact .failed
  · exact .refused nothing (.inl (follows.finish ▸ span))

/-- The runs of two sequences.  Where the first part of the first run has stopped, the second part
runs at the end. -/
theorem Agree.bind {cursor cursor' : Cursor} {first : Parser α} {first' : Parser β}
    {next : α → Parser γ} {next' : β → Parser δ}
    (agree : seam.Agree halt related (first.run cursor) (first'.run cursor'))
    (rests : ∀ value, Rests (next value))
    (halts : ∀ value final last, first.run cursor = .ok (value, final) → final.AtEnd →
      halt final → (next value).run final = .ok (last, final) → halt' final)
    (goes_on : ∀ value value' final final', first.run cursor = .ok (value, final) →
      related value value' → seam.Follows final final' →
      seam.Agree halt' later ((next value).run final) ((next' value').run final')) :
    seam.Agree halt' later ((first >>= next).run cursor) ((first' >>= next').run cursor') := by
  generalize run : first.run cursor = outcome at agree
  generalize run' : first'.run cursor' = outcome' at agree
  cases agree with
  | same alike follows =>
      rw [run_bind_of_ok run, run_bind_of_ok run']
      exact goes_on _ _ _ _ run alike follows
  | @stopped value final _ further at_end finish halted =>
      rw [run_bind_of_ok run]
      have end_kind : final.AtEnd := ⟨at_end, by rw [finish, seam.finish_kind]⟩
      have := rests value
      rcases Rests.run_atEnd (next value) end_kind with ⟨last, next_run⟩ | ⟨diagnostic, next_run, span⟩
      · rw [next_run]
        exact .stopped further at_end finish (halts _ _ _ run end_kind halted next_run)
      · rw [next_run]
        exact .refused further (.inl (finish ▸ span))
  | refused further cause =>
      rw [run_bind_of_error run]
      exact .refused further cause
  | failed =>
      rw [run_bind_of_error run, run_bind_of_error run']
      exact .failed

theorem Tracks.pure {value : α} {value' : β} (results : related value value') :
    seam.Tracks halt related (pure value) (pure value') :=
  fun _ _ follows => .same results follows

theorem Tracks.bind {first : Parser α} {first' : Parser β} {next : α → Parser γ}
    {next' : β → Parser δ} [∀ value, Rests (next value)]
    (tracks : seam.Tracks halt related first first')
    (goes_on : ∀ value value', related value value' →
      seam.Tracks halt later (next value) (next' value')) :
    seam.Tracks halt later (first >>= next) (first' >>= next') := by
  intro cursor cursor' follows
  refine (tracks _ _ follows).bind inferInstance (fun _ _ _ _ _ halted _ => halted) ?_
  intro value value' final final' _ alike next_follows
  exact goes_on value value' alike _ _ next_follows

/-- Where it does not matter how the first run stops. -/
theorem Tracks.weaken {parser : Parser α} {parser' : Parser β}
    (tracks : seam.Tracks halt related parser parser') :
    seam.Tracks (fun _ => True) related parser parser' :=
  fun _ _ follows => (tracks _ _ follows).mono (fun _ _ => id) fun _ _ _ _ => trivial

/-- What comes after asks for more at the end, so it does not matter how the first part stops. -/
theorem Tracks.bind_refuses {first : Parser α} {first' : Parser β} {next : α → Parser γ}
    {next' : β → Parser δ} [refusing : ∀ value, Refuses (next value)]
    (tracks : seam.Tracks halt related first first')
    (goes_on : ∀ value value', related value value' →
      seam.Tracks halt' later (next value) (next' value')) :
    seam.Tracks halt' later (first >>= next) (first' >>= next') := by
  intro cursor cursor' follows
  refine (tracks _ _ follows).bind inferInstance ?_ ?_
  · intro value final last _ at_end _ next_run
    obtain ⟨diagnostic, refused, _⟩ := (refusing value).refuses at_end
    rw [refused] at next_run
    cases next_run
  · intro value value' final final' _ alike next_follows
    exact goes_on value value' alike _ _ next_follows

/-- An operand is followed by something that is only ever run after an operand. -/
theorem Tracks.bind_operand {first : Parser α} {first' : Parser β} {next : α → Parser γ}
    {next' : β → Parser δ} [Operand first] [∀ value, Rests (next value)]
    (tracks : seam.Tracks halt related first first')
    (halts : ∀ cursor final, Closes cursor final → halt final → halt' final)
    (goes_on : ∀ value value', related value value' → ∀ cursor final final',
      Closes cursor final → seam.Follows final final' →
      seam.Agree halt' later ((next value).run final) ((next' value').run final')) :
    seam.Tracks halt' later (first >>= next) (first' >>= next') := by
  intro cursor cursor' follows
  have finish : cursor.finish.kind = .finish := by rw [follows.finish, seam.finish_kind]
  refine (tracks _ _ follows).bind inferInstance ?_ ?_
  · intro value final last run _ halted _
    exact halts _ _ (Operand.closes run finish) halted
  · intro value value' final final' run alike next_follows
    exact goes_on value value' alike _ _ _ (Operand.closes run finish) next_follows

/-! ## Looking and taking -/

/-- Two cursors at corresponding places before the seam. -/
structure Locked (cursor cursor' : Cursor) : Prop extends seam.Follows cursor cursor' where
  inside : cursor.rest ≠ []

/-- Two cursors at corresponding places, of which the first is not where an expression may go on
after the seam. -/
structure Still (cursor cursor' : Cursor) : Prop extends seam.Follows cursor cursor' where
  inside : cursor.rest ≠ [] ∨ ¬ seam.Open

theorem Locked.peek {cursor cursor' : Cursor} (locked : seam.Locked cursor cursor') :
    seam.Alike cursor.peek cursor'.peek := by
  obtain ⟨token, rest, tokens⟩ := List.exists_cons_of_ne_nil locked.inside
  obtain ⟨token', rest', tokens', alike, _⟩ := locked.exists_cons tokens
  rw [Cursor.peek_of_rest_eq_cons tokens, Cursor.peek_of_rest_eq_cons tokens']
  exact alike

theorem Follows.peek_atEnd {cursor cursor' : Cursor} (follows : seam.Follows cursor cursor')
    (at_end : cursor.rest = []) :
    cursor.peek.kind = .finish ∧ cursor'.peek.kind = seam.headKind := by
  rw [Cursor.peek_of_rest_eq_nil at_end, follows.finish, seam.finish_kind, Cursor.peek,
    follows.rest_eq_more at_end, follows.finish', headKind]
  exact ⟨rfl, rfl⟩

theorem Follows.peekKind_run {cursor cursor' : Cursor} (follows : seam.Follows cursor cursor')
    (at_end : cursor.rest = []) :
    peekKind.run cursor = .ok (.finish, cursor) ∧
      peekKind.run cursor' = .ok (seam.headKind, cursor') := by
  obtain ⟨kind, kind'⟩ := follows.peek_atEnd at_end
  rw [← kind, ← kind']
  exact ⟨rfl, rfl⟩

/-- Where an expression cannot go on after the seam, both runs see one kind, or both see an end. -/
theorem Still.peek_kind {cursor cursor' : Cursor} (still : seam.Still cursor cursor') :
    cursor.peek.kind = cursor'.peek.kind ∨
      cursor.peek.kind = .finish ∧ cursor'.peek.kind.endsExpression = true := by
  by_cases at_end : cursor.rest = []
  · obtain ⟨kind, kind'⟩ := still.peek_atEnd at_end
    have closed : ¬ seam.Open := still.inside.resolve_left (absurd at_end)
    refine .inr ⟨kind, ?_⟩
    rw [kind']
    exact eq_true_of_ne_false fun goes_on => closed (.inr goes_on)
  · have locked : seam.Locked cursor cursor' := ⟨still.toFollows, at_end⟩
    exact .inl locked.peek.kind

theorem Still.peek_kind_eq_iff {cursor cursor' : Cursor} (still : seam.Still cursor cursor')
    {kind : Token.Kind} (goes_on : kind.endsExpression = false) :
    cursor.peek.kind = kind ↔ cursor'.peek.kind = kind := by
  rcases still.peek_kind with same | ⟨finish, ends⟩
  · rw [same]
  · rw [finish]
    constructor
    · rintro rfl
      cases goes_on
    · rintro rfl
      rw [ends] at goes_on
      cases goes_on

theorem Still.startsMethodCall_eq {cursor cursor' : Cursor} (still : seam.Still cursor cursor') :
    startsMethodCall cursor.rest = startsMethodCall cursor'.rest := by
  have tracked := still.rest
  cases tokens : cursor.rest with
  | nil =>
      have closed : ¬ seam.Open := still.inside.resolve_left (absurd tokens)
      rw [still.rest_eq_more tokens]
      exact (eq_false_of_ne_true fun calls => closed (.inl calls)).symm
  | cons token rest =>
      rw [tokens] at tracked
      generalize cursor'.rest = tokens' at tracked
      cases tracked with
      | step _ calls _ _ => exact calls

/-- The runs have to be compared where the first one is not at its end. -/
theorem Tracks.of_locked {parser : Parser α} {parser' : Parser β} [Refuses parser] [Refuses parser']
    (agree : ∀ cursor cursor', seam.Locked cursor cursor' →
      seam.Agree halt related (parser.run cursor) (parser'.run cursor')) :
    seam.Tracks halt related parser parser' := by
  intro cursor cursor' follows
  by_cases at_end : cursor.rest = []
  · exact follows.agree_of_refuses at_end parser parser'
  · exact agree _ _ ⟨follows, at_end⟩

/-- The runs have to be compared where an expression cannot go on after the seam. -/
theorem Tracks.of_still {parser : Parser α} {parser' : Parser β} [Rests parser]
    (agree : ∀ cursor cursor', seam.Still cursor cursor' →
      seam.Agree (fun _ => seam.Open) related (parser.run cursor) (parser'.run cursor')) :
    seam.Tracks (fun _ => seam.Open) related parser parser' := by
  intro cursor cursor' follows
  by_cases inside : cursor.rest ≠ [] ∨ ¬ seam.Open
  · exact agree _ _ ⟨follows, inside⟩
  · rw [not_or, Classical.not_not, Classical.not_not] at inside
    have further : seam.more ≠ [] := fun nothing => not_open_of_more_eq_nil nothing inside.2
    exact follows.agree_of_rests parser inside.1 further inside.2 _

/-- Taking a token that is there. -/
theorem Follows.advance_bind {cursor cursor' : Cursor} (follows : seam.Follows cursor cursor')
    {token : Token} {rest : List Token} (tokens : cursor.rest = token :: rest)
    {next : Token → Parser α} {next' : Token → Parser β}
    (goes_on : ∀ token' rest', seam.Alike token token' →
      seam.Follows { cursor with previous := some token, rest }
        { cursor' with previous := some token', rest := rest' } →
      seam.Agree halt related ((next token).run { cursor with previous := some token, rest })
        ((next' token').run { cursor' with previous := some token', rest := rest' })) :
    seam.Agree halt related ((advance >>= next).run cursor) ((advance >>= next').run cursor') := by
  obtain ⟨token', rest', tokens', alike, next_follows⟩ := follows.exists_cons tokens
  rw [run_bind_of_ok (advance_run_cons tokens), run_bind_of_ok (advance_run_cons tokens')]
  exact goes_on token' rest' alike next_follows

theorem Locked.advance_bind {cursor cursor' : Cursor} (locked : seam.Locked cursor cursor')
    {next : Token → Parser α} {next' : Token → Parser β}
    (goes_on : ∀ token token', seam.Alike token token' →
      seam.Tracks halt related (next token) (next' token')) :
    seam.Agree halt related ((advance >>= next).run cursor) ((advance >>= next').run cursor') := by
  obtain ⟨token, rest, tokens⟩ := List.exists_cons_of_ne_nil locked.inside
  apply locked.toFollows.advance_bind tokens
  intro token' rest' alike follows
  exact goes_on _ _ alike _ _ follows

theorem Locked.peekKind_bind {cursor cursor' : Cursor} (locked : seam.Locked cursor cursor')
    {next : Token.Kind → Parser α} {next' : Token.Kind → Parser β}
    (agree : seam.Agree halt related ((next cursor.peek.kind).run cursor)
      ((next' cursor.peek.kind).run cursor')) :
    seam.Agree halt related ((peekKind >>= next).run cursor) ((peekKind >>= next').run cursor') := by
  have looked : peekKind.run cursor = .ok (cursor.peek.kind, cursor) := rfl
  have looked' : peekKind.run cursor' = .ok (cursor'.peek.kind, cursor') := rfl
  rwa [run_bind_of_ok looked, run_bind_of_ok looked', ← locked.peek.kind]

theorem agree_refuse (wanted : Wanted) (cursor cursor' : Cursor) :
    seam.Agree halt related ((refuse wanted : Parser α).run cursor)
      ((refuse wanted : Parser β).run cursor') := by
  rw [refuse_run, refuse_run]
  exact .failed

/-- Both runs find a mark, or neither does. -/
theorem Follows.accept_run {cursor cursor' : Cursor} (follows : seam.Follows cursor cursor')
    {kind : Token.Kind} (inner : kind ≠ .finish)
    (iff : cursor.peek.kind = kind ↔ cursor'.peek.kind = kind) :
    (∃ next next', (accept kind).run cursor = .ok (true, next) ∧
      (accept kind).run cursor' = .ok (true, next') ∧ seam.Follows next next') ∨
    ((accept kind).run cursor = .ok (false, cursor) ∧
      (accept kind).run cursor' = .ok (false, cursor')) := by
  by_cases same : cursor.peek.kind = kind
  · have same' := iff.1 same
    cases tokens : cursor.rest with
    | nil =>
        rw [(follows.peek_atEnd tokens).1] at same
        exact absurd same.symm inner
    | cons token rest =>
        obtain ⟨token', rest', tokens', alike, next_follows⟩ := follows.exists_cons tokens
        rw [Cursor.peek_of_rest_eq_cons tokens] at same
        rw [Cursor.peek_of_rest_eq_cons tokens'] at same'
        exact .inl ⟨_, _, accept_run_of_eq tokens same, accept_run_of_eq tokens' same', next_follows⟩
  · exact .inr ⟨accept_run_of_ne same, accept_run_of_ne (mt iff.2 same)⟩

theorem tracks_accept {kind : Token.Kind} (goes_on : kind.endsExpression = false) :
    seam.Tracks (fun _ => seam.Open) Eq (accept kind) (accept kind) := by
  apply Tracks.of_still
  intro cursor cursor' still
  have inner := Token.Kind.ne_finish_of_endsExpression goes_on
  rcases still.toFollows.accept_run inner (still.peek_kind_eq_iff goes_on) with
    ⟨next, next', run, run', follows⟩ | ⟨run, run'⟩
  · rw [run, run']
    exact .same rfl follows
  · rw [run, run']
    exact .same rfl still.toFollows

/-- A mark that may be there, and what comes with it or without it. -/
theorem Tracks.accept {kind : Token.Kind} (goes_on : kind.endsExpression = false)
    {yes no : Parser α} {yes' no' : Parser β} [Moves yes] [Rests no]
    (with_mark : seam.Tracks (fun _ => seam.Open) related yes yes')
    (without_mark : seam.Tracks (fun _ => seam.Open) related no no') :
    seam.Tracks (fun _ => seam.Open) related
      (accept kind >>= fun found => if found then yes else no)
      (accept kind >>= fun found => if found then yes' else no') := by
  have inner := Token.Kind.ne_finish_of_endsExpression goes_on
  have : Rests (Parser.accept kind >>= fun found => if found then yes else no) :=
    rests_accept inner
  apply Tracks.of_still
  intro cursor cursor' still
  rcases still.toFollows.accept_run inner (still.peek_kind_eq_iff goes_on) with
    ⟨next, next', run, run', follows⟩ | ⟨run, run'⟩
  · rw [run_bind_of_ok run, run_bind_of_ok run']
    exact with_mark _ _ follows
  · rw [run_bind_of_ok run, run_bind_of_ok run']
    exact without_mark _ _ still.toFollows

/-- A token that has to be there, and what comes after it. -/
theorem Tracks.expect {kind : Token.Kind} (wanted : Wanted) (inner : kind ≠ .finish)
    {next : Token → Parser α} {next' : Token → Parser β}
    (goes_on : ∀ token token', token.kind = kind → seam.Alike token token' →
      seam.Tracks halt related (next token) (next' token')) :
    seam.Tracks halt related (expect kind wanted >>= next) (expect kind wanted >>= next') := by
  intro cursor cursor' follows
  cases tokens : cursor.rest with
  | nil =>
      rw [run_bind_of_error (expect_run_atEnd wanted (follows.atEnd tokens) inner)]
      by_cases nothing : seam.more = []
      · have at_end' := follows.atEnd_of_more_eq_nil tokens nothing
        rw [run_bind_of_error (expect_run_atEnd wanted at_end' inner)]
        exact .failed
      · exact .refused nothing (.inl (by rw [follows.finish]))
  | cons token rest =>
      obtain ⟨token', rest', tokens', alike, next_follows⟩ := follows.exists_cons tokens
      by_cases same : token.kind = kind
      · rw [run_bind_of_ok (expect_run_of_eq wanted tokens same),
          run_bind_of_ok (expect_run_of_eq wanted tokens' (alike.kind ▸ same))]
        exact goes_on _ _ same alike _ _ next_follows
      · have other : cursor.peek.kind ≠ kind := by rwa [Cursor.peek_of_rest_eq_cons tokens]
        have other' : cursor'.peek.kind ≠ kind := by
          rwa [Cursor.peek_of_rest_eq_cons tokens', ← alike.kind]
        rw [run_bind_of_error (expect_run_of_ne wanted other),
          run_bind_of_error (expect_run_of_ne wanted other')]
        exact .failed

theorem tracks_expect {kind : Token.Kind} (wanted : Wanted) (inner : kind ≠ .finish) :
    seam.Tracks halt seam.Alike (expect kind wanted) (expect kind wanted) := by
  rw [← bind_pure (expect kind wanted)]
  exact .expect wanted inner fun _ _ _ alike => .pure alike

/-! ## Loops -/

theorem Tracked.length_le {tokens tokens' : List Token} (tracked : seam.Tracked tokens tokens') :
    tokens.length ≤ tokens'.length := by
  induction tracked with
  | stop => exact Nat.zero_le _
  | step _ _ _ _ ih => exact Nat.succ_le_succ ih

section Loops

variable {step : α → Parser (Option α)} {step' : β → Parser (Option β)}

theorem agree_turn {next : α → Parser α} {next' : β → Parser β} [∀ state, Rests (next state)]
    {state : α} {state' : β} {cursor cursor' : Cursor} (start : related state state')
    (agree : seam.Agree halt (Option.Rel related) ((step state).run cursor)
      ((step' state').run cursor'))
    (goes_on : ∀ value value' final final', (step state).run cursor = .ok (some value, final) →
      related value value' → seam.Follows final final' →
      seam.Agree halt related ((next value).run final) ((next' value').run final')) :
    seam.Agree halt related ((turn step next state).run cursor)
      ((turn step' next' state').run cursor') := by
  refine agree.bind ?_ (fun _ _ _ _ _ halted _ => halted) ?_
  · intro answer
    cases answer <;> infer_instance
  · intro answer answer' final final' run answers follows
    cases answers with
    | none => exact .same start follows
    | some alike => exact goes_on _ _ _ _ run alike follows

variable [∀ state, Rests (step state)]

/-- Loops agree if their turns do and every turn of the first one that goes on takes a token. -/
theorem agree_repeatAlong
    (shrinks : ∀ state value cursor next, (step state).run cursor = .ok (some value, next) →
      cursor.finish.kind = .finish → next.rest.length < cursor.rest.length)
    (tracks : ∀ state state', related state state' →
      seam.Tracks halt (Option.Rel related) (step state) (step' state'))
    {tokens tokens' : List Token} {state : α} {state' : β} {cursor cursor' : Cursor}
    (start : related state state') (follows : seam.Follows cursor cursor')
    (enough : cursor.rest.length ≤ tokens.length) (enough' : tokens.length ≤ tokens'.length) :
    seam.Agree halt related ((repeatAlong step tokens state).run cursor)
      ((repeatAlong step' tokens' state').run cursor') := by
  induction tokens generalizing tokens' state state' cursor cursor' with
  | nil =>
      have last (next' : β → Parser β) : seam.Agree halt related
          ((turn step pure state).run cursor) ((turn step' next' state').run cursor') := by
        refine agree_turn start (tracks _ _ start _ _ follows) fun value _ final _ run _ _ => ?_
        have finish : cursor.finish.kind = .finish := by rw [follows.finish, seam.finish_kind]
        have shorter := shrinks _ _ _ _ run finish
        rw [List.length_nil] at enough
        omega
      cases tokens' with
      | nil => exact last _
      | cons token' tokens' => exact last _
  | cons token tokens ih =>
      cases tokens' with
      | nil => cases enough'
      | cons token' tokens' =>
          refine agree_turn start (tracks _ _ start _ _ follows) ?_
          intro value value' final final' run alike next_follows
          have finish : cursor.finish.kind = .finish := by rw [follows.finish, seam.finish_kind]
          have shorter := shrinks _ _ _ _ run finish
          rw [List.length_cons] at enough
          rw [List.length_cons, List.length_cons] at enough'
          exact ih alike next_follows (by omega) (by omega)

theorem Tracks.whileSome (related : α → β → Prop)
    (shrinks : ∀ state value cursor next, (step state).run cursor = .ok (some value, next) →
      cursor.finish.kind = .finish → next.rest.length < cursor.rest.length)
    (tracks : ∀ state state', related state state' →
      seam.Tracks halt (Option.Rel related) (step state) (step' state'))
    {state : α} {state' : β} (start : related state state') :
    seam.Tracks halt related (whileSome step state) (whileSome step' state') :=
  fun _ _ follows => agree_repeatAlong shrinks tracks start follows (Nat.le_refl _)
    follows.rest.length_le

end Loops

end Seam
end DotScript
