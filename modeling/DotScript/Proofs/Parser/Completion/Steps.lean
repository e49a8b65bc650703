import DotScript.Proofs.Parser.Completion.Basic

/-!
# Steps towards the edge

Before the edge a step is the same whatever stands behind it, so a parser that starts with the step
goes on where the rest of it does.  At the edge the rest is supplied.
-/

namespace DotScript
namespace Edge

open DotScript.Parser

variable {edge : Edge} {α β : Type} {cursor : Cursor} {fits fits' : Token.Kind → Bool}
  {post : α → Prop} {post' : β → Prop} {fillers fillers' : List Filler}
  {parser parser' first first' : Parser α} {next next' : α → Parser β}

/-! ## Before the edge -/

theorem CompletesAt.of_ok {value : α} {after : Cursor}
    (run : parser.run cursor = .ok (value, after)) (before : after.rest ≠ []) :
    edge.CompletesAt fits post parser parser' cursor := by
  intro out
  rw [run] at out
  exact absurd out.rest_eq_nil before

theorem CompletesAt.of_error {diagnostic : Diagnostic} {token : Token}
    (run : parser.run cursor = .error diagnostic) (inside : token ∈ edge.tokens)
    (place : diagnostic.span = token.span) :
    edge.CompletesAt fits post parser parser' cursor := by
  intro out
  rw [run] at out
  exact absurd out (RunsOut.not_of_mem inside place)

theorem CompletesAt.mono {weaker : α → Prop}
    (here : edge.CompletesAt fits post parser parser' cursor) (weakens : ∀ value, post value → weaker value)
    (fewer : ∀ kind, fits' kind = true → fits kind = true) :
    edge.CompletesAt fits' weaker parser parser' cursor := by
  intro out
  obtain ⟨fillers, joins, lands⟩ := here out
  exact ⟨fillers, fun head fit => joins head (fewer head fit), fun more tail spell fit =>
    (lands more tail spell (fewer _ fit)).mono weakens⟩

theorem CompletesAt.congr {other other' : Parser α}
    (same : parser.run cursor = other.run cursor)
    (same' : ∀ beyond, cursor.JoinsTo beyond.headKind →
      parser'.run (cursor.onward beyond) = other'.run (cursor.onward beyond))
    (here : edge.CompletesAt fits post other other' cursor) :
    edge.CompletesAt fits post parser parser' cursor := by
  intro out
  rw [same] at out
  obtain ⟨fillers, joins, lands⟩ := here out
  refine ⟨fillers, joins, fun more tail spell fit => ?_⟩
  have joined : cursor.JoinsTo (tail.prepend spell).headKind := by
    rw [Beyond.headKind_prepend]
    exact joins _ fit
  rw [same' _ joined]
  exact lands more tail spell fit

/-- Both runs take the same step. -/
theorem CompletesAt.of_step {value : α} {after : Cursor}
    (run : first.run cursor = .ok (value, after)) (last : after.last = cursor.last)
    (run' : ∀ beyond, cursor.JoinsTo beyond.headKind →
      first'.run (cursor.onward beyond) = .ok (value, after.onward beyond))
    (later : edge.CompletesAt fits post' (next value) (next' value) after) :
    edge.CompletesAt fits post' (first >>= next) (first' >>= next') cursor := by
  intro out
  rw [run_bind_of_ok run] at out
  obtain ⟨fillers, joins, lands⟩ := later out
  refine ⟨fillers, fun head fit => joinsTo_of_last last.symm (joins head fit), ?_⟩
  intro more tail spell fit
  have joined : cursor.JoinsTo (tail.prepend spell).headKind := by
    rw [Beyond.headKind_prepend]
    exact joinsTo_of_last last.symm (joins _ fit)
  rw [run_bind_of_ok (run' _ joined)]
  exact lands more tail spell fit

/-- What runs out is gone on with, and what comes after it is supplied. -/
theorem CompletesAt.bind [Moves first] [Deepens first first'] (stable : edge.Stable first')
    (holds : edge.Holds cursor) (here : edge.CompletesAt fits post first first' cursor)
    (inside : ∀ value after, first.run cursor = .ok (value, after) → edge.Holds after →
      after.rest ≠ [] → edge.CompletesAt fits' post' (next value) (next' value) after)
    (supplies : ∀ value, post value → edge.Supplies fits' post' fillers' (next' value))
    (leads : ∀ kind, fits' kind = true → fits (Filler.lead fillers' kind) = true) :
    edge.CompletesAt fits' post' (first >>= next) (first' >>= next') cursor := by
  have goes_on (out : edge.RunsOut (first.run cursor)) :
      edge.CompletesAt fits' post' (first >>= next) (first' >>= next') cursor := by
    intro _
    obtain ⟨fillers, joins, lands⟩ := here out
    refine ⟨fillers ++ fillers', fun head fit => ?_, fun more tail spell fit => ?_⟩
    · rw [Filler.lead_append]
      exact joins _ (leads _ fit)
    · obtain ⟨front, back, rfl, first_spell, next_spell⟩ := spell.exists_append
      rw [Beyond.prepend_append _ spell first_spell next_spell]
      have led := leads _ fit
      rw [← Beyond.headKind_prepend _ next_spell] at led
      refine (lands front _ first_spell led).bind fun value previous post_holds => ?_
      exact supplies value post_holds previous back tail next_spell fit
  cases run : first.run cursor with
  | error diagnostic =>
      intro out
      have whole := out
      rw [run_bind_of_error run] at out
      refine goes_on ?_ whole
      rw [run]
      cases out with
      | asked place shallow => exact .asked place shallow
  | ok result =>
      obtain ⟨value, after⟩ := result
      by_cases at_edge : after.rest = []
      · exact goes_on (by rw [run]; exact .ended at_edge)
      · obtain ⟨_, passes⟩ := Moves.passes run
        have later_holds := holds.of_passes passes
        refine .of_step run passes.last (fun beyond joined => ?_)
          (inside value after run later_holds at_edge)
        exact stable _ _ _ _ holds (Deepens.run_eq_of_ok run) at_edge joined

/-- What comes after needs nothing more. -/
theorem CompletesAt.bind_nil [Moves first] [Deepens first first'] (stable : edge.Stable first')
    (holds : edge.Holds cursor) (here : edge.CompletesAt fits post first first' cursor)
    (inside : ∀ value after, first.run cursor = .ok (value, after) → edge.Holds after →
      after.rest ≠ [] → edge.CompletesAt fits' post' (next value) (next' value) after)
    (supplies : ∀ value, post value → edge.Supplies fits' post' [] (next' value))
    (fewer : ∀ kind, fits' kind = true → fits kind = true) :
    edge.CompletesAt fits' post' (first >>= next) (first' >>= next') cursor :=
  .bind stable holds here inside supplies fewer

/-- What comes last only changes the result. -/
theorem CompletesAt.map {change : α → β} (here : edge.CompletesAt fits post parser parser' cursor)
    (holds : ∀ value, post value → post' (change value)) :
    edge.CompletesAt fits post' (parser >>= fun value => Pure.pure (change value))
      (parser' >>= fun value => Pure.pure (change value)) cursor := by
  intro out
  have out_here : edge.RunsOut (parser.run cursor) := by
    cases run : parser.run cursor with
    | error diagnostic =>
        rw [run_bind_of_error run] at out
        cases out with
        | asked place shallow => exact .asked place shallow
    | ok result =>
        rw [run_bind_of_ok run] at out
        exact .ended out.rest_eq_nil
  obtain ⟨fillers, joins, lands⟩ := here out_here
  refine ⟨fillers, joins, fun more tail spell fit => ?_⟩
  exact (lands more tail spell fit).bind fun value _ value_holds =>
    .reaches (holds value value_holds)

/-! ## Steps -/

theorem CompletesAt.pure {value : α} (holds : post value)
    (joins : cursor.rest = [] → ∀ head, fits head = true → cursor.JoinsTo head) :
    edge.CompletesAt fits post (Pure.pure value) (Pure.pure value) cursor := by
  by_cases at_edge : cursor.rest = []
  · exact (Supplies.pure holds).completesAt at_edge (joins at_edge)
  · exact .of_ok rfl at_edge

theorem CompletesAt.refuse (holds : edge.Holds cursor) (inside : cursor.rest ≠ [])
    (wanted : Wanted) :
    edge.CompletesAt fits post (refuse wanted) (refuse wanted) cursor := by
  obtain ⟨token, rest, tokens⟩ := List.exists_cons_of_ne_nil inside
  refine .of_error (refuse_run wanted cursor) (holds.inside token (by simp [tokens])) ?_
  rw [Cursor.peek_of_rest_eq_cons tokens]

theorem onward_rest {token : Token} {rest : List Token} (tokens : cursor.rest = token :: rest)
    (beyond : Beyond) : (cursor.onward beyond).rest = token :: (rest ++ beyond.tokens) := by
  rw [Cursor.onward, tokens, List.cons_append]

theorem peek_onward (inside : cursor.rest ≠ []) (beyond : Beyond) :
    (cursor.onward beyond).peek = cursor.peek := by
  obtain ⟨token, rest, tokens⟩ := List.exists_cons_of_ne_nil inside
  rw [Cursor.peek_of_rest_eq_cons tokens, Cursor.peek_of_rest_eq_cons (onward_rest tokens beyond)]

theorem CompletesAt.peek {next next' : Token → Parser β} (inside : cursor.rest ≠ [])
    (later : edge.CompletesAt fits post' (next cursor.peek) (next' cursor.peek) cursor) :
    edge.CompletesAt fits post' (peek >>= next) (peek >>= next') cursor := by
  refine .of_step rfl rfl (fun beyond _ => ?_) later
  rw [← peek_onward inside beyond]
  rfl

theorem CompletesAt.peekKind {next next' : Token.Kind → Parser β} (inside : cursor.rest ≠ [])
    (later : edge.CompletesAt fits post' (next cursor.peek.kind) (next' cursor.peek.kind) cursor) :
    edge.CompletesAt fits post' (peekKind >>= next) (peekKind >>= next') cursor := by
  refine .of_step rfl rfl (fun beyond _ => ?_) later
  rw [← peek_onward inside beyond]
  rfl

/-- A test of the cursor that does not look behind the edge. -/
theorem CompletesAt.test {test : Cursor → Bool} {yes yes' no no' : Parser α}
    (same : ∀ beyond, cursor.JoinsTo beyond.headKind → test (cursor.onward beyond) = test cursor)
    (found : test cursor = true → edge.CompletesAt fits post yes yes' cursor)
    (absent : test cursor = false → edge.CompletesAt fits post no no' cursor) :
    edge.CompletesAt fits post (get >>= fun cursor => if test cursor then yes else no)
      (get >>= fun cursor => if test cursor then yes' else no') cursor := by
  have looked (cursor : Cursor) : (get : Parser Cursor).run cursor = .ok (cursor, cursor) := rfl
  cases holds : test cursor with
  | true =>
      refine .congr ?_ (fun beyond joins => ?_) (found holds)
      · rw [run_bind_of_ok (looked cursor), if_pos holds]
      · rw [run_bind_of_ok (looked _), if_pos ((same beyond joins).trans holds)]
  | false =>
      refine .congr ?_ (fun beyond joins => ?_) (absent holds)
      · rw [run_bind_of_ok (looked cursor), if_neg (ne_true_of_eq_false holds)]
      · rw [run_bind_of_ok (looked _), 
          if_neg (ne_true_of_eq_false ((same beyond joins).trans holds))]

theorem CompletesAt.advance {token : Token} {rest : List Token} {next next' : Token → Parser β}
    (tokens : cursor.rest = token :: rest)
    (later : edge.CompletesAt fits post' (next token) (next' token)
      { cursor with previous := some token, rest }) :
    edge.CompletesAt fits post' (advance >>= next) (advance >>= next') cursor :=
  .of_step (advance_run_cons tokens) (last_take tokens)
    (fun beyond _ => advance_run_cons (onward_rest tokens beyond)) later

theorem CompletesAt.accept {kind : Token.Kind} {next next' : Bool → Parser β}
    (inside : cursor.rest ≠ [])
    (found : ∀ token rest, cursor.rest = token :: rest → token.kind = kind →
      edge.CompletesAt fits post' (next true) (next' true)
        { cursor with previous := some token, rest })
    (absent : edge.CompletesAt fits post' (next false) (next' false) cursor) :
    edge.CompletesAt fits post' (accept kind >>= next) (accept kind >>= next') cursor := by
  obtain ⟨token, rest, tokens⟩ := List.exists_cons_of_ne_nil inside
  by_cases same : token.kind = kind
  · exact .of_step (accept_run_of_eq tokens same) (last_take tokens)
      (fun beyond _ => accept_run_of_eq (onward_rest tokens beyond) same)
      (found token rest tokens same)
  · have other : cursor.peek.kind ≠ kind := by rwa [Cursor.peek_of_rest_eq_cons tokens]
    refine .of_step (accept_run_of_ne other) rfl (fun beyond _ => accept_run_of_ne ?_) absent
    rwa [peek_onward inside]

theorem CompletesAt.expect {kind : Token.Kind} {wanted : Wanted} {next next' : Token → Parser β}
    (holds : edge.Holds cursor) (inside : cursor.rest ≠ [])
    (later : ∀ token rest, cursor.rest = token :: rest → token.kind = kind →
      edge.CompletesAt fits post' (next token) (next' token)
        { cursor with previous := some token, rest }) :
    edge.CompletesAt fits post' (expect kind wanted >>= next) (expect kind wanted >>= next')
      cursor := by
  obtain ⟨token, rest, tokens⟩ := List.exists_cons_of_ne_nil inside
  by_cases same : token.kind = kind
  · exact .of_step (expect_run_of_eq wanted tokens same) (last_take tokens)
      (fun beyond _ => expect_run_of_eq wanted (onward_rest tokens beyond) same)
      (later token rest tokens same)
  · have other : cursor.peek.kind ≠ kind := by rwa [Cursor.peek_of_rest_eq_cons tokens]
    refine .of_error (run_bind_of_error (expect_run_of_ne wanted other) next)
      (holds.inside token (by simp [tokens])) ?_
    rw [Cursor.peek_of_rest_eq_cons tokens]

theorem atEnd_onward (inside : cursor.rest ≠ []) (beyond : Beyond) :
    (cursor.onward beyond).atEnd = cursor.atEnd := by
  obtain ⟨token, rest, tokens⟩ := List.exists_cons_of_ne_nil inside
  rw [Cursor.atEnd, Cursor.atEnd, tokens, onward_rest tokens beyond]
  rfl

/-- Before the edge the end is not reached. -/
theorem CompletesAt.beforeEnd {yes yes' no no' : Parser α} (inside : cursor.rest ≠ [])
    (here : edge.CompletesAt fits post no no' cursor) :
    edge.CompletesAt fits post (get >>= fun cursor => if cursor.atEnd then yes else no)
      (get >>= fun cursor => if cursor.atEnd then yes' else no') cursor := by
  refine .test (fun beyond _ => atEnd_onward inside beyond) (fun ended => ?_) fun _ => here
  exact absurd (List.isEmpty_iff.1 ended) inside

/-! ## Before the edge and at it -/

/-- Fillers may come after a token of this kind, whatever comes after them if that is fit. -/
def Follow (fits : Token.Kind → Bool) (fillers : List Filler) (kind : Token.Kind) : Prop :=
  ∀ head, fits head = true → kind.joins (Filler.lead fillers head) = true

theorem Follow.nil {kind : Token.Kind} (encloses : ∀ head, fits head = true → head.encloses = true)
    (written : kind ≠ .unterminatedString) : Follow fits [] kind :=
  fun head fit => Token.Kind.joins_of_encloses written (encloses head fit)

theorem ne_of_fits {kind : Token.Kind} (other : fits kind = false) (head : Token.Kind)
    (fit : fits head = true) : head ≠ kind := by
  rintro rfl
  rw [fit] at other
  cases other

theorem Completes.at (completes : edge.Completes fits post fillers parser parser')
    (holds : edge.Holds cursor)
    (joins : cursor.rest = [] → ∀ head, fits head = true →
      cursor.JoinsTo (Filler.lead fillers head)) :
    edge.CompletesAt fits post parser parser' cursor := by
  by_cases at_edge : cursor.rest = []
  · exact completes.supplies.completesAt at_edge (joins at_edge)
  · exact completes.inside cursor holds at_edge

/-- The parser comes right after a token. -/
theorem Completes.after {token : Token} {rest : List Token}
    (completes : edge.Completes fits post fillers parser parser') (holds : edge.Holds cursor)
    (tokens : cursor.rest = token :: rest) (follow : Follow fits fillers token.kind) :
    edge.CompletesAt fits post parser parser' { cursor with previous := some token, rest } :=
  completes.at (holds.take tokens) fun at_edge head fit =>
    joinsTo_of_previous at_edge rfl (follow head fit)

theorem Completes.pure {value : α} (holds : post value) :
    edge.Completes fits post [] (Pure.pure value) (Pure.pure value) where
  inside _ _ inside := .of_ok rfl inside
  supplies := .pure holds

theorem Completes.map {change : α → β} (completes : edge.Completes fits post fillers parser parser')
    (holds : ∀ value, post value → post' (change value)) :
    edge.Completes fits post' fillers (parser >>= fun value => Pure.pure (change value))
      (parser' >>= fun value => Pure.pure (change value)) where
  inside cursor cursor_holds inside := (completes.inside cursor cursor_holds inside).map holds
  supplies := completes.supplies.map holds

theorem Completes.bind [Moves first] [Deepens first first'] (stable : edge.Stable first')
    (completes : edge.Completes fits post fillers first first')
    (later : ∀ value, edge.Completes fits' post' fillers' (next value) (next' value))
    (leads : ∀ kind, fits' kind = true → fits (Filler.lead fillers' kind) = true) :
    edge.Completes fits' post' (fillers ++ fillers') (first >>= next) (first' >>= next') where
  inside cursor holds inside :=
    (completes.inside cursor holds inside).bind stable holds
      (fun value after _ => (later value).inside after) (fun value _ => (later value).supplies) leads
  supplies := completes.supplies.bind (fun value _ => (later value).supplies) leads

/-- What comes after needs nothing more. -/
theorem Completes.bind_nil [Moves first] [Deepens first first'] (stable : edge.Stable first')
    (completes : edge.Completes fits post fillers first first')
    (later : ∀ value, edge.Completes fits' post' [] (next value) (next' value))
    (fewer : ∀ kind, fits' kind = true → fits kind = true) :
    edge.Completes fits' post' fillers (first >>= next) (first' >>= next') := by
  have whole := completes.bind stable later fewer
  rwa [List.append_nil] at whole

/-- What stands behind a token that is asked for. -/
theorem CompletesAt.behind {kind : Token.Kind} {wanted : Wanted} {next next' : Token → Parser β}
    (later : ∀ token, token.kind = kind →
      edge.Completes fits' post' fillers' (next token) (next' token))
    (follow : Follow fits' fillers' kind) (holds : edge.Holds cursor) (inside : cursor.rest ≠ []) :
    edge.CompletesAt fits' post' (Parser.expect kind wanted >>= next)
      (Parser.expect kind wanted >>= next') cursor := by
  refine .expect holds inside fun token rest tokens same => ?_
  exact (later token same).after holds tokens (same ▸ follow)

theorem Completes.expect (filler : Filler) {wanted : Wanted} {next next' : Token → Parser β}
    (later : ∀ token, token.kind = filler.kind →
      edge.Completes fits' post' fillers' (next token) (next' token))
    (follow : Follow fits' fillers' filler.kind) :
    edge.Completes fits' post' (filler :: fillers') (expect filler.kind wanted >>= next)
      (expect filler.kind wanted >>= next') where
  inside _ holds inside := .behind later follow holds inside
  supplies := .expect filler fun token kind _ => (later token kind).supplies

/-- A mark that may be left out is supplied. -/
theorem Completes.optional (filler : Filler)
    (completes : edge.Completes fits post fillers parser parser')
    (follow : Follow fits fillers filler.kind) :
    edge.Completes fits post (filler :: fillers) (accept filler.kind >>= fun _ => parser)
      (accept filler.kind >>= fun _ => parser') where
  inside cursor holds inside := by
    refine .accept inside (fun token rest tokens kind => ?_) (completes.inside cursor holds inside)
    exact completes.after holds tokens (kind ▸ follow)
  supplies := .optional filler completes.supplies

/-- What stands behind a mark that may be there. -/
theorem Completes.accept {kind : Token.Kind} {yes yes' no no' : Parser α}
    (found : edge.Completes fits post fillers' yes yes')
    (absent : edge.Completes fits post fillers no no') (follow : Follow fits fillers' kind)
    (other : ∀ head, fits head = true → Filler.lead fillers head ≠ kind) :
    edge.Completes fits post fillers (accept kind >>= fun found => if found then yes else no)
      (accept kind >>= fun found => if found then yes' else no') where
  inside cursor holds inside := by
    refine .accept inside (fun token rest tokens kind => ?_) (absent.inside cursor holds inside)
    exact found.after holds tokens (kind ▸ follow)
  supplies := .accept absent.supplies other

theorem Completes.spanFrom (start : Span) {next next' : Span → Parser β}
    (later : ∀ span, edge.Completes fits post' fillers (next span) (next' span)) :
    edge.Completes fits post' fillers (spanFrom start >>= next) (spanFrom start >>= next') where
  inside cursor holds inside :=
    .of_step (spanFrom_run start cursor) rfl (fun _ _ => spanFrom_run start _)
      ((later _).inside cursor holds inside)
  supplies previous more tail spell fit := by
    rw [run_bind_of_ok (spanFrom_run start _)]
    exact (later _).supplies previous more tail spell fit

end Edge
end DotScript
