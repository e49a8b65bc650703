import DotScript.Parser.Cursor
import DotScript.Proofs.Tree.Rendering
import Mathlib.Logic.Relation

/-!
# Parsers on written marks

A parser reads one list of marks down to a shorter one if, from every cursor at tokens that are
written for the first list, it succeeds and leaves a cursor at tokens for the second list.  What it
reads is known up to a property of the result.  Sequences of parsers follow `Reads.bind`, and loops
are put together turn by turn with `Loops`.
-/

namespace DotScript

/-- The kind of the first mark, or that of the end of a token list. -/
def headKind : List Mark → Token.Kind
  | [] => .finish
  | mark :: _ => mark.kind

theorem headKind_append_of_ne_nil {marks : List Mark} (more : List Mark) (written : marks ≠ []) :
    headKind (marks ++ more) = headKind marks := by
  cases marks with
  | nil => exact (written rfl).elim
  | cons mark marks => rfl

namespace Cursor

/-- The tokens after the cursor are written for the marks. -/
structure At (cursor : Cursor) (marks : List Mark) : Prop where
  spells : Spells cursor.rest marks
  finish : cursor.finish.kind = .finish

theorem length_eq_of_spells {tokens : List Token} {marks : List Mark}
    (spells : Spells tokens marks) : tokens.length = marks.length := by
  induction tokens generalizing marks with
  | nil => cases marks with
    | nil => rfl
    | cons mark marks => exact spells.elim
  | cons token tokens ih => cases marks with
    | nil => exact spells.elim
    | cons mark marks => simp [ih spells.2.2]

/-- The first of some marks is written as the first of the tokens. -/
theorem At.exists_cons {cursor : Cursor} {mark : Mark} {marks : List Mark}
    (at_marks : cursor.At (mark :: marks)) :
    ∃ token rest, cursor.rest = token :: rest ∧ mark.Fits token ∧ Spells rest marks := by
  obtain ⟨spells, finish⟩ := at_marks
  cases tokens : cursor.rest with
  | nil => exact (tokens ▸ spells).elim
  | cons token rest =>
      rw [tokens] at spells
      exact ⟨token, rest, rfl, spells.1, spells.2.2⟩

theorem At.rest_eq_nil {cursor : Cursor} (atEnd : cursor.At []) : cursor.rest = [] :=
  List.eq_nil_of_length_eq_zero (length_eq_of_spells atEnd.spells)

theorem At.peek_kind {cursor : Cursor} {marks : List Mark} (at_marks : cursor.At marks) :
    cursor.peek.kind = headKind marks := by
  cases marks with
  | nil => simp [peek, at_marks.rest_eq_nil, headKind, at_marks.finish]
  | cons mark marks =>
      obtain ⟨token, rest, tokens, fits, _⟩ := at_marks.exists_cons
      simpa [peek, tokens, headKind] using fits.1

theorem At.peekNext_kind {cursor : Cursor} {marks : List Mark} (at_marks : cursor.At marks) :
    cursor.peekNext.kind = headKind marks.tail := by
  cases marks with
  | nil => simp [peekNext, at_marks.rest_eq_nil, headKind, at_marks.finish]
  | cons mark marks =>
      obtain ⟨token, rest, tokens, _, spells⟩ := at_marks.exists_cons
      have next : ({ cursor with rest } : Cursor).At marks := ⟨spells, at_marks.finish⟩
      simpa [peekNext, tokens, peek] using next.peek_kind

theorem At.atEnd_eq {cursor : Cursor} {marks : List Mark} (at_marks : cursor.At marks) :
    cursor.atEnd = marks.isEmpty := by
  cases marks with
  | nil => simp [atEnd, at_marks.rest_eq_nil]
  | cons mark marks =>
      obtain ⟨token, rest, tokens, _, _⟩ := at_marks.exists_cons
      simp [atEnd, tokens]

end Cursor

namespace Parser

variable {α β : Type}

/-- The parser succeeds wherever the marks `before` are written and stops where the marks `after`
are left. -/
def Reads (parser : Parser α) (before after : List Mark) (result : α → Prop) : Prop :=
  ∀ cursor : Cursor, cursor.At before →
    ∃ value next, parser.run cursor = .ok (value, next) ∧ result value ∧ next.At after

namespace Reads

variable {before middle after marks : List Mark} {mark : Mark} {kind : Token.Kind}

theorem pure {result : α → Prop} {value : α} (holds : result value) :
    Reads (pure value) marks marks result :=
  fun cursor at_marks => ⟨value, cursor, rfl, holds, at_marks⟩

theorem bind {first : Parser α} {next : α → Parser β} {property : α → Prop} {result : β → Prop}
    (reads : first.Reads before middle property)
    (later : ∀ value, property value → (next value).Reads middle after result) :
    (first >>= next).Reads before after result := by
  intro cursor at_before
  obtain ⟨value, between, first_run, holds, at_middle⟩ := reads cursor at_before
  obtain ⟨last, final, next_run, done, at_after⟩ := later value holds between at_middle
  refine ⟨last, final, ?_, done, at_after⟩
  rw [StateT.run_bind, first_run]
  exact next_run

/-- A parser whose result is known goes on with this result. -/
theorem bind_eq {first : Parser α} {next : α → Parser β} {value : α} {result : β → Prop}
    (reads : first.Reads before middle (· = value))
    (later : (next value).Reads middle after result) :
    (first >>= next).Reads before after result := by
  refine .bind reads ?_
  rintro _ rfl
  exact later

/-- A parser that looks at the cursor goes on from a cursor at the same marks. -/
theorem get : Reads get marks marks (·.At marks) :=
  fun cursor at_marks => ⟨cursor, cursor, rfl, at_marks, at_marks⟩

theorem mono {parser : Parser α} {property result : α → Prop}
    (reads : parser.Reads before after property) (weaker : ∀ value, property value → result value) :
    parser.Reads before after result := by
  intro cursor at_before
  obtain ⟨value, next, run, holds, at_after⟩ := reads cursor at_before
  exact ⟨value, next, run, weaker value holds, at_after⟩

theorem peekKind : Reads peekKind marks marks (· = headKind marks) :=
  .bind .get fun _ at_marks => .pure at_marks.peek_kind

theorem peekNextKind : Reads peekNextKind marks marks (· = headKind marks.tail) :=
  .bind .get fun _ at_marks => .pure at_marks.peekNext_kind

theorem peek : Reads peek (mark :: marks) (mark :: marks) mark.Fits := by
  refine .bind .get fun cursor at_marks => .pure ?_
  obtain ⟨token, rest, tokens, fits, _⟩ := at_marks.exists_cons
  simpa [Cursor.peek, tokens] using fits

/-- The next token may be looked at wherever its kind does not matter. -/
theorem peek_any : Reads Parser.peek marks marks (fun _ => True) :=
  .bind .get fun _ _ => .pure trivial

theorem advance : Reads advance (mark :: marks) marks mark.Fits := by
  intro cursor at_marks
  obtain ⟨token, rest, tokens, fits, spells⟩ := at_marks.exists_cons
  refine ⟨token, { cursor with previous := some token, rest }, ?_, fits, spells, at_marks.finish⟩
  simp only [Parser.advance, StateT.run_bind, StateT.run_get, pure_bind, tokens]
  rfl

theorem accept (same : mark.kind = kind) :
    Reads (accept kind) (mark :: marks) marks (· = true) := by
  refine .bind_eq .peekKind ?_
  rw [headKind, if_pos same]
  exact .bind .advance fun _ _ => .pure rfl

theorem accept_other (other : headKind marks ≠ kind) :
    Reads (Parser.accept kind) marks marks (· = false) := by
  refine .bind_eq .peekKind ?_
  rw [if_neg other]
  exact .pure rfl

theorem expect (same : mark.kind = kind) (wanted : Wanted) :
    Reads (expect kind wanted) (mark :: marks) marks mark.Fits := by
  refine .bind_eq .peekKind ?_
  rw [headKind, if_pos same]
  exact .advance

end Reads

/-! ## Loops -/

/-- A turn of a loop that goes on and takes a token at least. -/
def Turn (step : α → Parser (Option α)) (before after : α × Cursor) : Prop :=
  (step before.1).run before.2 = .ok (some after.1, after.2) ∧
    after.2.rest.length < before.2.rest.length

/-- A loop stops where its turns lead, if there is a token for each of them. -/
theorem repeatAlong_run {step : α → Parser (Option α)} {start last : α × Cursor} {final : Cursor}
    {tokens : List Token} (turns : Relation.ReflTransGen (Turn step) start last)
    (stopped : (step last.1).run last.2 = .ok (none, final))
    (enough : start.2.rest.length ≤ tokens.length) :
    (repeatAlong step tokens start.1).run start.2 = .ok (last.1, final) := by
  induction turns using Relation.ReflTransGen.head_induction_on generalizing tokens with
  | refl =>
      cases tokens <;>
      · simp only [repeatAlong, turn, StateT.run_bind, stopped]
        rfl
  | head first _ ih =>
      obtain ⟨run, shorter⟩ := first
      cases tokens with
      | nil =>
          simp only [List.length_nil] at enough
          omega
      | cons token tokens =>
          simp only [List.length_cons] at enough
          simp only [repeatAlong, turn, StateT.run_bind, run]
          exact ih (by omega)

/-- The loop with this step gets from a state at the marks `before` to one at the marks `after`. -/
def Loops (step : α → Parser (Option α)) (state : α) (before after : List Mark)
    (result : α → Prop) : Prop :=
  ∀ cursor : Cursor, cursor.At before →
    ∃ last, Relation.ReflTransGen (Turn step) (state, cursor) last ∧ result last.1 ∧
      last.2.At after

namespace Loops

variable {step : α → Parser (Option α)} {state : α} {before middle after : List Mark}
  {property result : α → Prop}

theorem refl (holds : result state) : Loops step state before before result :=
  fun cursor at_before => ⟨(state, cursor), .refl, holds, at_before⟩

/-- A step that answers with something and shortens the marks is a turn. -/
theorem turn_of_reads {cursor : Cursor}
    (reads : (step state).Reads before after fun answer =>
      ∃ value, answer = some value ∧ result value)
    (shorter : after.length < before.length) (at_before : cursor.At before) :
    ∃ value next, Turn step (state, cursor) (value, next) ∧ result value ∧ next.At after := by
  obtain ⟨_, next, run, ⟨value, rfl, holds⟩, at_after⟩ := reads cursor at_before
  refine ⟨value, next, ⟨run, ?_⟩, holds, at_after⟩
  simpa [Cursor.length_eq_of_spells at_before.spells, Cursor.length_eq_of_spells at_after.spells]
    using shorter

theorem head
    (first : (step state).Reads before middle fun answer =>
      ∃ value, answer = some value ∧ property value)
    (shorter : middle.length < before.length)
    (later : ∀ value, property value → Loops step value middle after result) :
    Loops step state before after result := by
  intro cursor at_before
  obtain ⟨value, between, turned, holds, at_middle⟩ := turn_of_reads first shorter at_before
  obtain ⟨last, turns, done, at_after⟩ := later value holds between at_middle
  exact ⟨last, .head turned turns, done, at_after⟩

theorem tail (earlier : Loops step state before middle property)
    (last : ∀ value, property value →
      (step value).Reads middle after fun answer => ∃ next, answer = some next ∧ result next)
    (shorter : after.length < middle.length) : Loops step state before after result := by
  intro cursor at_before
  obtain ⟨⟨value, between⟩, turns, holds, at_middle⟩ := earlier cursor at_before
  obtain ⟨next, final, turned, done, at_after⟩ := turn_of_reads (last value holds) shorter at_middle
  exact ⟨(next, final), turns.tail turned, done, at_after⟩

/-- A loop whose last state has no more turn reads what its turns read. -/
theorem whileSome (loops : Loops step state before after result)
    (stops : ∀ value, result value → (step value).Reads after after (· = none)) :
    (whileSome step state).Reads before after result := by
  intro cursor at_before
  obtain ⟨⟨last, between⟩, turns, holds, at_middle⟩ := loops cursor at_before
  obtain ⟨_, final, run, rfl, at_after⟩ := stops last holds between at_middle
  refine ⟨last, final, ?_, holds, at_after⟩
  exact repeatAlong_run turns run (Nat.le_refl _)

/-- A loop that collects the things `rest` in reverse.  They are known by their views only. -/
theorem collect {γ : Type} {step : List α → Parser (Option (List α))} {render : α → List Mark}
    {view : α → γ} {targets : List α}
    (reads : ∀ done next rest earlier, targets = done ++ next :: rest →
      earlier.reverse.map view = done.map view →
      (step earlier).Reads (render next ++ (rest.flatMap render ++ after))
        (rest.flatMap render ++ after)
        fun answer => ∃ items, answer = some items ∧
          ∃ value, items = value :: earlier ∧ view value = view next)
    (written : ∀ target ∈ targets, render target ≠ []) (rest done earlier : List α)
    (split : targets = done ++ rest) (same : earlier.reverse.map view = done.map view) :
    Loops step earlier (rest.flatMap render ++ after) after
      fun items => items.reverse.map view = targets.map view := by
  induction rest generalizing done earlier with
  | nil =>
      refine .refl ?_
      simpa [split] using same
  | cons next rest ih =>
      have nonempty := List.length_pos_iff.2 (written next (by simp [split]))
      simp only [List.flatMap_cons, List.append_assoc]
      refine .head (reads done next rest earlier split same) ?_ ?_
      · simp only [List.length_append]
        omega
      · rintro _ ⟨value, rfl, viewed⟩
        exact ih (done ++ [next]) (value :: earlier) (by simp [split]) (by simp [same, viewed])

end Loops

/-- Pieces with commas between them are read one by one.  A piece is followed by a comma or by what
comes after all of them. -/
theorem separated_reads {γ : Type} {item : List α → Parser α} {render : α → List Mark}
    {view : α → γ} {targets : List α} {after : List Mark}
    (reads : ∀ done next rest earlier, targets = done ++ next :: rest →
      earlier.reverse.map view = done.map view →
      ∀ more, more = after ∨ headKind more = .comma →
        (item earlier).Reads (render next ++ more) more (view · = view next))
    (nonempty : targets ≠ []) (ended : headKind after ≠ .comma) :
    (separated item).Reads (joined (targets.map render) ++ after) after
      fun values => values.map view = targets.map view := by
  obtain ⟨first, later, rfl⟩ := List.exists_cons_of_ne_nil nonempty
  have following (rest : List α) :
      (rest.flatMap (.fixed .comma :: render ·)) ++ after = after ∨
        headKind ((rest.flatMap (.fixed .comma :: render ·)) ++ after) = .comma := by
    cases rest with
    | nil => exact .inl rfl
    | cons next rest => exact .inr rfl
  simp only [List.map_cons, joined, List.flatMap_map, List.append_assoc]
  refine .bind (reads [] first later [] rfl rfl _ (following later)) fun value viewed => ?_
  refine .bind (Loops.whileSome
    (Loops.collect ?_ (by simp) later [first] [value] rfl (by simp [viewed])) ?_)
    fun items same => .pure same
  · intro done next rest earlier split same
    refine .bind_eq (.accept rfl) ?_
    refine .bind (reads done next rest earlier split same _ (following rest)) fun value viewed => ?_
    exact .pure ⟨_, rfl, value, rfl, viewed⟩
  · intro items _
    refine .bind_eq (.accept_other ended) ?_
    exact .pure rfl

end Parser
end DotScript
