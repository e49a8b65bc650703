import DotScript.Proofs.Parser.Levels
import DotScript.Proofs.Parser.Seam.Programs
import DotScript.Proofs.Source.Fillers

/-!
# Going on where a token list stops

A token list stops at its edge, and a parser runs out there: it comes to the end, or asks for more.
Then there are tokens it can be gone on with.  They are chosen by the parser that ran out, before it
is known what comes after them; so whatever follows has to be fit to follow.

`CompletesAt` says that some fillers let a parser come to a result, for one place of the cursor.
`Supplies` says the same for the place at the edge, with fillers that are known.  Both are matters
of the parts of a parser: what ran out is gone on with by its own fillers, and what comes after it
has to be supplied from the start.  There is one exception.  What stands in front of `of` is looked
at only after what stands behind it is there, so the result may be the complaint about that word.

The parser that goes on has one more level than the one that ran out, as a body that is missing
needs a statement.
-/

namespace DotScript

namespace Token.Kind

/-- Whether a token of this kind closes what an expression stands in. -/
def encloses : Token.Kind → Bool
  | .finish | .semicolon | .colon | .parenClose | .bracketClose | .braceClose => true
  | .keyword .to => true
  | _ => false

/-- Whether a token list may go on with a token of this kind. -/
def goesOn : Token.Kind → Bool
  | .int | .identifier | .parenOpen | .dot | .at => true
  | .keyword .be | .keyword .inWord | .keyword .pass => true
  | kind => kind.encloses

/-- Whether a token list may go on with a token of some kind after its last token.  A string without
an end takes all that comes after it.  No method is called across the edge. -/
def joins (last next : Token.Kind) : Bool :=
  next.goesOn && last ≠ .unterminatedString && !(last = .dot && next = .identifier) &&
    !(last = .identifier && next = .parenOpen)

theorem joins_of_encloses {last next : Token.Kind} (written : last ≠ .unterminatedString)
    (encloses : next.encloses = true) : last.joins next = true := by
  have goes_on : next.goesOn = true := by
    unfold goesOn
    split <;> first | rfl | exact encloses
  have no_name : next ≠ .identifier := by
    rintro rfl
    cases encloses
  have no_paren : next ≠ .parenOpen := by
    rintro rfl
    cases encloses
  simp [joins, goes_on, written, no_name, no_paren]

end Token.Kind

/-- The kind of token that comes first when fillers are followed by a token of some kind. -/
def Filler.lead (fillers : List Filler) (next : Token.Kind) : Token.Kind :=
  match fillers with
  | [] => next
  | filler :: _ => filler.kind

theorem Filler.lead_append (first second : List Filler) (next : Token.Kind) :
    lead (first ++ second) next = lead first (lead second next) := by
  cases first <;> rfl

/-- What stands behind the edge of a token list, and the token that ends it. -/
structure Beyond where
  /-- The tokens behind the edge. -/
  tokens : List Token
  /-- The token that ends them. -/
  finish : Token
  inner : ∀ token ∈ tokens, token.kind ≠ .finish
  finish_kind : finish.kind = .finish

namespace Beyond

variable (beyond : Beyond) {fillers fillers' : List Filler} {more front back : List Token}

/-- The kind of the first token. -/
def headKind : Token.Kind :=
  (beyond.tokens.headD beyond.finish).kind

theorem headKind_of_cons {token : Token} {rest : List Token}
    (tokens : beyond.tokens = token :: rest) : beyond.headKind = token.kind := by
  rw [headKind, tokens, List.headD_cons]

/-- The cursor at the edge, after a token. -/
def after (previous : Option Token) : Cursor where
  previous
  rest := beyond.tokens
  finish := beyond.finish

/-- Fillers stand in front. -/
def prepend (spell : Filler.Spell fillers more) : Beyond where
  tokens := more ++ beyond.tokens
  finish := beyond.finish
  inner token member := (List.mem_append.1 member).elim (spell.kind_ne_finish token)
    (beyond.inner token)
  finish_kind := beyond.finish_kind

theorem prepend_nil (spell : Filler.Spell [] more) : beyond.prepend spell = beyond := by
  cases Filler.spell_nil.1 spell
  rfl

theorem prepend_append (spell : Filler.Spell (fillers ++ fillers') (front ++ back))
    (front_spell : Filler.Spell fillers front) (back_spell : Filler.Spell fillers' back) :
    beyond.prepend spell = (beyond.prepend back_spell).prepend front_spell := by
  simp only [prepend, List.append_assoc]

theorem headKind_prepend (spell : Filler.Spell fillers more) :
    (beyond.prepend spell).headKind = Filler.lead fillers beyond.headKind := by
  cases fillers with
  | nil => rw [prepend_nil, Filler.lead]
  | cons filler fillers =>
      obtain ⟨token, rest, rfl, kind, _, _⟩ := spell.exists_cons
      exact kind

end Beyond

/-- The cursor with further tokens behind the edge. -/
def Cursor.onward (cursor : Cursor) (beyond : Beyond) : Cursor :=
  { cursor with rest := cursor.rest ++ beyond.tokens, finish := beyond.finish }

/-- The last token before the edge may be followed by a token of this kind. -/
def Cursor.JoinsTo (cursor : Cursor) (next : Token.Kind) : Prop :=
  ∀ token ∈ cursor.last, token.kind.joins next = true

/-- A token list and the token that ends it. -/
structure Edge where
  /-- The tokens up to the edge. -/
  tokens : List Token
  /-- The token that ends the list. -/
  finish : Token
  before : ∀ token ∈ tokens, token.span.start < finish.span.start
  finish_kind : finish.kind = .finish

namespace Edge

open DotScript.Parser

variable (edge : Edge) {α β : Type}

/-- The cursor is among the tokens up to the edge. -/
structure Holds (cursor : Cursor) : Prop where
  inside : ∀ token ∈ cursor.rest, token ∈ edge.tokens
  finish : cursor.finish = edge.finish

/-- A run comes to the edge, or asks for more there. -/
inductive RunsOut : Except Diagnostic (α × Cursor) → Prop
  | ended {value : α} {cursor : Cursor} (at_edge : cursor.rest = []) : RunsOut (.ok (value, cursor))
  | asked {diagnostic : Diagnostic} (place : edge.finish.span.start ≤ diagnostic.span.start)
      (shallow : diagnostic.fault ≠ .malformed .tooDeep) : RunsOut (.error diagnostic)

/-- A run comes to a result where some tokens are left, or complains about a word `of` up to the
edge. -/
inductive Lands (post : α → Prop) (tail : Beyond) : Except Diagnostic (α × Cursor) → Prop
  | reaches {value : α} {previous : Option Token} (holds : post value) :
      Lands post tail (.ok (value, tail.after previous))
  | misplaced {word : Token} (inside : word ∈ edge.tokens) (is_of : word.kind = .keyword .of) :
      Lands post tail (.error ⟨.malformed .misplacedOf, word.span⟩)

/-- Where the first parser runs out, the second one goes on with some fillers, whatever comes after
them if that is fit. -/
def CompletesAt (fits : Token.Kind → Bool) (post : α → Prop) (parser parser' : Parser α)
    (cursor : Cursor) : Prop :=
  edge.RunsOut (parser.run cursor) → ∃ fillers : List Filler,
    (∀ next, fits next = true → cursor.JoinsTo (Filler.lead fillers next)) ∧
      ∀ more tail (spell : Filler.Spell fillers more), fits tail.headKind = true →
        edge.Lands post tail (parser'.run (cursor.onward (tail.prepend spell)))

/-- At the edge the parser goes on with some fillers, whatever comes after them if that is fit. -/
def Supplies (fits : Token.Kind → Bool) (post : α → Prop) (fillers : List Filler)
    (parser : Parser α) : Prop :=
  ∀ previous more tail (spell : Filler.Spell fillers more), fits tail.headKind = true →
    edge.Lands post tail (parser.run ((tail.prepend spell).after previous))

/-- The second parser goes on where the first one runs out, and with known fillers at the edge. -/
structure Completes (fits : Token.Kind → Bool) (post : α → Prop) (fillers : List Filler)
    (parser parser' : Parser α) : Prop where
  inside : ∀ cursor, edge.Holds cursor → cursor.rest ≠ [] →
    edge.CompletesAt fits post parser parser' cursor
  supplies : edge.Supplies fits post fillers parser'

/-- A result before the edge stays when the tokens go on. -/
def Stable (parser : Parser α) : Prop :=
  ∀ cursor value next beyond, edge.Holds cursor → parser.run cursor = .ok (value, next) →
    next.rest ≠ [] → cursor.JoinsTo beyond.headKind →
      parser.run (cursor.onward beyond) = .ok (value, next.onward beyond)

variable {edge} {cursor : Cursor} {fits fits' : Token.Kind → Bool} {post : α → Prop}
  {post' : β → Prop} {fillers fillers' : List Filler} {parser parser' first first' : Parser α}
  {next next' : α → Parser β}

/-! ## Cursors -/

theorem Holds.of_passes {after : Cursor} {taken : List Token} (holds : edge.Holds cursor)
    (passes : cursor.Passes taken after) : edge.Holds after where
  inside token member := holds.inside token (passes.rest ▸ List.mem_append_right _ member)
  finish := passes.finish.trans holds.finish

theorem Holds.of_run [Moves parser] {value : α} {after : Cursor} (holds : edge.Holds cursor)
    (run : parser.run cursor = .ok (value, after)) : edge.Holds after := by
  obtain ⟨_, passes⟩ := Moves.passes run
  exact holds.of_passes passes

theorem Holds.finish_kind (holds : edge.Holds cursor) : cursor.finish.kind = .finish := by
  rw [holds.finish, edge.finish_kind]

theorem Holds.take {token : Token} {rest : List Token} (holds : edge.Holds cursor)
    (tokens : cursor.rest = token :: rest) :
    edge.Holds { cursor with previous := some token, rest } where
  inside other member := holds.inside other (tokens ▸ List.mem_cons_of_mem _ member)
  finish := holds.finish

theorem joinsTo_of_last {after : Cursor} {kind : Token.Kind} (last : after.last = cursor.last)
    (joins : cursor.JoinsTo kind) : after.JoinsTo kind := by
  intro token found
  exact joins token (last ▸ found)

theorem last_take {token : Token} {rest : List Token} (tokens : cursor.rest = token :: rest) :
    ({ cursor with previous := some token, rest } : Cursor).last = cursor.last := by
  rw [Cursor.last, Cursor.last, tokens]
  cases rest with
  | nil => rfl
  | cons next rest =>
      rw [List.getLast?_cons_cons]
      cases found : (next :: rest).getLast? with
      | none => cases List.getLast?_eq_none_iff.1 found
      | some last => rfl

/-- The last token before the edge is the one that was taken last. -/
theorem joinsTo_of_previous {token : Token} {kind : Token.Kind} (at_edge : cursor.rest = [])
    (previous : cursor.previous = some token) (joins : token.kind.joins kind = true) :
    cursor.JoinsTo kind := by
  intro last found
  rw [Cursor.last, at_edge, previous] at found
  cases found
  exact joins

/-! ## Results -/

theorem RunsOut.rest_eq_nil {value : α} {after : Cursor}
    (out : edge.RunsOut (.ok (value, after) : Except Diagnostic (α × Cursor))) :
    after.rest = [] := by
  cases out with
  | ended at_edge => exact at_edge

theorem RunsOut.not_of_mem {diagnostic : Diagnostic} {token : Token} (inside : token ∈ edge.tokens)
    (place : diagnostic.span = token.span) :
    ¬ edge.RunsOut (.error diagnostic : Except Diagnostic (α × Cursor)) := by
  rintro (_ | ⟨behind, _⟩)
  rw [place] at behind
  exact Nat.not_le_of_lt (edge.before token inside) behind

theorem Lands.bind {tail tail' : Beyond}
    (lands : edge.Lands post tail (first.run cursor))
    (later : ∀ value previous, post value →
      edge.Lands post' tail' ((next value).run (tail.after previous))) :
    edge.Lands post' tail' ((first >>= next).run cursor) := by
  generalize run : first.run cursor = outcome at lands
  cases lands with
  | reaches holds =>
      rw [run_bind_of_ok run]
      exact later _ _ holds
  | misplaced inside is_of =>
      rw [run_bind_of_error run]
      exact .misplaced inside is_of

theorem Lands.mono {tail : Beyond} {weaker : α → Prop}
    {outcome : Except Diagnostic (α × Cursor)} (lands : edge.Lands post tail outcome)
    (weakens : ∀ value, post value → weaker value) : edge.Lands weaker tail outcome := by
  cases lands with
  | reaches holds => exact .reaches (weakens _ holds)
  | misplaced inside is_of => exact .misplaced inside is_of

/-! ## At the edge -/

theorem Supplies.pure {value : α} (holds : post value) :
    edge.Supplies fits post [] (pure value) := by
  intro previous more tail spell _
  rw [Beyond.prepend_nil]
  exact .reaches holds

theorem Supplies.bind (supplies : edge.Supplies fits post fillers first)
    (later : ∀ value, post value → edge.Supplies fits' post' fillers' (next value))
    (leads : ∀ kind, fits' kind = true → fits (Filler.lead fillers' kind) = true) :
    edge.Supplies fits' post' (fillers ++ fillers') (first >>= next) := by
  intro previous more tail spell fit
  obtain ⟨front, back, rfl, first_spell, next_spell⟩ := spell.exists_append
  rw [Beyond.prepend_append _ spell first_spell next_spell]
  refine (supplies previous front (tail.prepend next_spell) first_spell ?_).bind
    fun value previous holds => ?_
  · rw [Beyond.headKind_prepend]
    exact leads _ fit
  · exact later value holds previous back tail next_spell fit

/-- What comes after needs nothing more. -/
theorem Supplies.bind_nil (supplies : edge.Supplies fits post fillers first)
    (later : ∀ value, post value → edge.Supplies fits' post' [] (next value))
    (fewer : ∀ kind, fits' kind = true → fits kind = true) :
    edge.Supplies fits' post' fillers (first >>= next) := by
  have whole := supplies.bind later fewer
  rwa [List.append_nil] at whole

theorem Supplies.map {change : α → β} (supplies : edge.Supplies fits post fillers parser)
    (holds : ∀ value, post value → post' (change value)) :
    edge.Supplies fits post' fillers (parser >>= fun value => Pure.pure (change value)) :=
  fun previous more tail spell fit =>
    (supplies previous more tail spell fit).bind fun value _ value_holds =>
      .reaches (holds value value_holds)

theorem Supplies.mono (supplies : edge.Supplies fits post fillers parser)
    (fewer : ∀ kind, fits' kind = true → fits kind = true) :
    edge.Supplies fits' post fillers parser :=
  fun previous more tail spell fit => supplies previous more tail spell (fewer _ fit)

theorem Supplies.expect (filler : Filler) {wanted : Wanted} {next : Token → Parser β}
    (later : ∀ token, token.kind = filler.kind → token.text = filler.text →
      edge.Supplies fits post' fillers (next token)) :
    edge.Supplies fits post' (filler :: fillers) (expect filler.kind wanted >>= next) := by
  intro previous more tail spell fit
  obtain ⟨token, rest, rfl, kind, text, later_spell⟩ := spell.exists_cons
  rw [run_bind_of_ok (expect_run_of_eq wanted rfl kind)]
  exact later token kind text _ rest tail later_spell fit

/-- A mark that may be left out is supplied. -/
theorem Supplies.optional (filler : Filler) (supplies : edge.Supplies fits post fillers parser) :
    edge.Supplies fits post (filler :: fillers) (accept filler.kind >>= fun _ => parser) := by
  intro previous more tail spell fit
  obtain ⟨token, rest, rfl, kind, _, later⟩ := spell.exists_cons
  rw [run_bind_of_ok (accept_run_of_eq rfl kind)]
  exact supplies _ rest tail later fit

/-- A mark that may be there is not supplied. -/
theorem Supplies.accept {kind : Token.Kind} {next : Bool → Parser β}
    (later : edge.Supplies fits post' fillers (next false))
    (other : ∀ head, fits head = true → Filler.lead fillers head ≠ kind) :
    edge.Supplies fits post' fillers (accept kind >>= next) := by
  intro previous more tail spell fit
  have absent : ((tail.prepend spell).after previous).peek.kind ≠ kind := by
    have head :
        ((tail.prepend spell).after previous).peek.kind = (tail.prepend spell).headKind := rfl
    rw [head, Beyond.headKind_prepend]
    exact other _ fit
  rw [run_bind_of_ok (accept_run_of_ne absent)]
  exact later previous more tail spell fit

theorem Supplies.peek {next : Token → Parser β}
    (later : ∀ token, edge.Supplies fits post' fillers (next token)) :
    edge.Supplies fits post' fillers (peek >>= next) :=
  fun previous more tail spell fit => later _ previous more tail spell fit

theorem Supplies.peekKind {next : Token.Kind → Parser β}
    (later : ∀ kind, fits kind = true →
      edge.Supplies (fun head => head = kind) post' fillers (next (Filler.lead fillers kind))) :
    edge.Supplies fits post' fillers (peekKind >>= next) := by
  intro previous more tail spell fit
  have looked : Parser.peekKind.run ((tail.prepend spell).after previous) =
      .ok (Filler.lead fillers tail.headKind, (tail.prepend spell).after previous) := by
    rw [← Beyond.headKind_prepend _ spell]
    rfl
  rw [run_bind_of_ok looked]
  exact later _ fit previous more tail spell (by simp)

/-- With a token supplied the end is not reached. -/
theorem Supplies.beforeEnd {filler : Filler} {yes no : Parser α}
    (supplies : edge.Supplies fits post (filler :: fillers) no) :
    edge.Supplies fits post (filler :: fillers)
      (get >>= fun cursor => if cursor.atEnd then yes else no) := by
  intro previous more tail spell fit
  have here := supplies previous more tail spell fit
  obtain ⟨token, rest, rfl, _⟩ := spell.exists_cons
  exact here

/-- At the edge a parser goes on as it is supplied. -/
theorem Supplies.completesAt (supplies : edge.Supplies fits post fillers parser')
    (at_edge : cursor.rest = [])
    (joins : ∀ head, fits head = true → cursor.JoinsTo (Filler.lead fillers head)) :
    edge.CompletesAt fits post parser parser' cursor := by
  refine fun _ => ⟨fillers, joins, fun more tail spell fit => ?_⟩
  have here : cursor.onward (tail.prepend spell) = (tail.prepend spell).after cursor.previous := by
    rw [Cursor.onward, at_edge]
    rfl
  rw [here]
  exact supplies _ more tail spell fit

end Edge
end DotScript
