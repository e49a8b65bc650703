import DotScript.Proofs.Parser.Completion.Steps

/-!
# Loops up to the edge

What a loop has read before the edge has to stay when the tokens go on: its turns are `Stable`.
Then the loop goes on where one of its turns does, and ends where the tokens behind the edge do.
-/

namespace DotScript
namespace Edge

open DotScript.Parser

variable {edge : Edge} {α β : Type} {cursor : Cursor} {fits : Token.Kind → Bool} {post : α → Prop}
  {fillers : List Filler} {parser first : Parser α} {next : α → Parser β}

/-! ## Stable results -/

theorem Stable.pure (value : α) : edge.Stable (Pure.pure value) := by
  intro cursor _ next beyond _ run _ _
  cases run
  rfl

theorem Stable.bind [Moves first] [∀ value, Moves (next value)] (stable : edge.Stable first)
    (later : ∀ value, edge.Stable (next value)) : edge.Stable (first >>= next) := by
  intro cursor last final beyond holds run before joins
  obtain ⟨value, middle, first_run, next_run⟩ := run_bind_eq_ok run
  obtain ⟨_, passes⟩ := Moves.passes first_run
  obtain ⟨_, next_passes⟩ := Moves.passes next_run
  have inside : middle.rest ≠ [] := by
    intro at_edge
    rw [next_passes.eq_of_atEnd at_edge] at before
    exact before at_edge
  rw [run_bind_of_ok (stable _ _ _ _ holds first_run inside joins)]
  exact later _ _ _ _ _ (holds.of_passes passes) next_run before (joinsTo_of_last passes.last joins)

/-- A run that comes to a result before the edge starts before it. -/
theorem Stable.of_inside [Moves parser]
    (stable : ∀ cursor value next beyond, edge.Holds cursor → cursor.rest ≠ [] →
      parser.run cursor = .ok (value, next) → next.rest ≠ [] → cursor.JoinsTo beyond.headKind →
        parser.run (cursor.onward beyond) = .ok (value, next.onward beyond)) :
    edge.Stable parser := by
  intro cursor value next beyond holds run before joins
  refine stable cursor value next beyond holds ?_ run before joins
  intro at_edge
  obtain ⟨_, passes⟩ := Moves.passes run
  rw [passes.eq_of_atEnd at_edge] at before
  exact before at_edge

theorem Stable.accept (kind : Token.Kind) : edge.Stable (accept kind) := by
  refine .of_inside fun cursor found next beyond holds inside run _ _ => ?_
  obtain ⟨token, rest, tokens⟩ := List.exists_cons_of_ne_nil inside
  by_cases same : token.kind = kind
  · rw [accept_run_of_eq tokens same] at run
    cases run
    exact accept_run_of_eq (onward_rest tokens beyond) same
  · rw [← Cursor.peek_of_rest_eq_cons tokens] at same
    rw [accept_run_of_ne same] at run
    cases run
    rw [← peek_onward inside beyond] at same
    exact accept_run_of_ne same

theorem Stable.expect (kind : Token.Kind) (wanted : Wanted) : edge.Stable (expect kind wanted) := by
  refine .of_inside fun cursor found next beyond holds inside run _ _ => ?_
  obtain ⟨token, rest, tokens⟩ := List.exists_cons_of_ne_nil inside
  by_cases same : token.kind = kind
  · rw [expect_run_of_eq wanted tokens same] at run
    cases run
    exact expect_run_of_eq wanted (onward_rest tokens beyond) same
  · rw [← Cursor.peek_of_rest_eq_cons tokens] at same
    rw [expect_run_of_ne wanted same] at run
    cases run

theorem Stable.advance : edge.Stable advance := by
  refine .of_inside fun cursor token next beyond holds inside run _ _ => ?_
  obtain ⟨token, rest, tokens⟩ := List.exists_cons_of_ne_nil inside
  rw [advance_run_cons tokens] at run
  cases run
  exact advance_run_cons (onward_rest tokens beyond)

theorem Stable.complain (token : Token) (fault : SyntaxFault) :
    edge.Stable (complain token fault : Parser α) := by
  intro cursor _ _ _ _ run
  cases run

theorem Stable.peekKind : edge.Stable peekKind := by
  refine .of_inside fun cursor kind next beyond holds inside run _ _ => ?_
  cases run
  rw [← peek_onward inside beyond]
  rfl

theorem Stable.beforeEnd {yes no : Parser α} [Moves yes] [Moves no] (stable : edge.Stable no) :
    edge.Stable (get >>= fun cursor => if cursor.atEnd then yes else no) := by
  refine .of_inside fun cursor value next beyond holds inside run before joins => ?_
  have looked (cursor : Cursor) : (get : Parser Cursor).run cursor = .ok (cursor, cursor) := rfl
  have not_end : ¬ cursor.atEnd = true := fun ended => inside (List.isEmpty_iff.1 ended)
  rw [run_bind_of_ok (looked cursor), if_neg not_end] at run
  rw [run_bind_of_ok (looked _), atEnd_onward inside beyond, if_neg not_end]
  exact stable cursor value next beyond holds run before joins

theorem Stable.ite {condition : Prop} [Decidable condition] {yes no : Parser α}
    (stable_yes : edge.Stable yes) (stable_no : edge.Stable no) :
    edge.Stable (if condition then yes else no) := by
  split
  · exact stable_yes
  · exact stable_no

variable (edge) in
/-- The seam between the tokens up to the edge and further tokens. -/
def seam (beyond : Beyond) : Seam where
  left := id
  right := id
  more := beyond.tokens
  finish := edge.finish
  finish' := beyond.finish
  joins := by
    rintro _ _ _ _ rfl rfl
    rfl
  finish_kind := edge.finish_kind
  finish_kind' := beyond.finish_kind

theorem startsMethodCall_eq_false {point : Token} {beyond : Beyond}
    (joins : point.kind.joins beyond.headKind = true) :
    startsMethodCall (point :: beyond.tokens) = false := by
  apply eq_false_of_ne_true
  intro calls
  match tokens : beyond.tokens, calls with
  | name :: rest, calls =>
      obtain ⟨point_kind, name_kind, _⟩ := name_of_startsMethodCall calls
      rw [beyond.headKind_of_cons tokens, point_kind, name_kind] at joins
      cases joins

theorem startsMethodCall_eq_false_of_name {point name : Token} {beyond : Beyond}
    (joins : name.kind.joins beyond.headKind = true) :
    startsMethodCall (point :: name :: beyond.tokens) = false := by
  apply eq_false_of_ne_true
  intro calls
  match tokens : beyond.tokens, calls with
  | mark :: rest, calls =>
      have name_kind := (name_of_startsMethodCall calls).2.1
      simp only [startsMethodCall, Bool.and_eq_true, decide_eq_true_eq] at calls
      rw [beyond.headKind_of_cons tokens, name_kind, calls.1.2] at joins
      cases joins

theorem startsPoints_eq_false {last : Token.Kind} {beyond : Beyond}
    (joins : last.joins beyond.headKind = true) : startsPoints beyond.tokens = false := by
  cases tokens : beyond.tokens with
  | nil => rfl
  | cons word rest =>
      apply eq_false_of_ne_true
      intro starts
      rw [startsPoints, decide_eq_true_eq] at starts
      rw [beyond.headKind_of_cons tokens, starts] at joins
      cases joins

theorem Holds.follows {beyond : Beyond} (holds : edge.Holds cursor)
    (joins : cursor.JoinsTo beyond.headKind) :
    (edge.seam beyond).Follows cursor (cursor.onward beyond) where
  rest := by
    have last (tokens : List Token) {token : Token} (ends : tokens ++ [token] <:+ cursor.rest) :
        token.kind.joins beyond.headKind = true := by
      obtain ⟨front, whole⟩ := ends
      apply joins
      rw [Cursor.last, ← whole, ← List.append_assoc, List.getLast?_concat]
      rfl
    change (edge.seam beyond).Tracked cursor.rest (cursor.rest ++ (edge.seam beyond).more)
    refine Seam.tracked_append (fun _ => ⟨rfl, rfl, rfl⟩) ?_ ?_ ?_
    · exact fun word ends _ => startsPoints_eq_false (last [] ends)
    · exact fun point ends => startsMethodCall_eq_false (last [] ends)
    · exact fun point name ends => startsMethodCall_eq_false_of_name (last [point] ends)
  previous := by
    change (edge.seam beyond).Before cursor.previous cursor.previous
    cases cursor.previous with
    | none => exact .start fun token found => absurd found (Option.not_mem_none token)
    | some token => exact .after ⟨rfl, rfl, rfl⟩
  finish := holds.finish
  finish' := rfl

theorem eq_append_of_tracked {beyond : Beyond} {tokens tokens' : List Token}
    (tracked : (edge.seam beyond).Tracked tokens tokens') : tokens' = tokens ++ beyond.tokens := by
  induction tracked with
  | stop => rfl
  | @step token token' _ _ alike _ _ _ ih =>
      obtain ⟨kind, text, span⟩ := token
      obtain ⟨kind', text', span'⟩ := token'
      obtain rfl : kind = kind' := alike.kind
      obtain rfl : text = text' := alike.text
      obtain rfl : span = span' := alike.span
      rw [ih, List.cons_append]

/-- Where two runs agree along the seam, a result before it stays. -/
theorem run_eq_of_agree [Moves parser] {halt : Cursor → Prop} {related : α → α → Prop}
    {beyond : Beyond} {value : α} {after : Cursor}
    (agree : (edge.seam beyond).Agree halt related (parser.run cursor)
      (parser.run (cursor.onward beyond)))
    (same : ∀ value value', related value value' → value = value')
    (run : parser.run cursor = .ok (value, after)) (before : after.rest ≠ []) :
    parser.run (cursor.onward beyond) = .ok (value, after.onward beyond) := by
  generalize run' : parser.run (cursor.onward beyond) = outcome at agree
  rw [run] at agree
  cases agree with
  | @same _ value' _ after' results follows =>
      obtain rfl := same _ _ results
      obtain ⟨taken, passes⟩ := Moves.passes run
      obtain ⟨taken', passes'⟩ := Moves.passes run'
      have rest : after'.rest = after.rest ++ beyond.tokens := eq_append_of_tracked follows.rest
      have finish : after'.finish = beyond.finish := follows.finish'
      obtain rfl : taken' = taken := by
        have whole : cursor.rest ++ beyond.tokens = taken' ++ after'.rest := passes'.rest
        rw [rest, passes.rest, List.append_assoc] at whole
        exact (List.append_cancel_right whole).symm
      have previous : after'.previous = after.previous :=
        passes'.previous.trans passes.previous.symm
      obtain ⟨previous', rest', finish'⟩ := after'
      obtain rfl : previous' = after.previous := previous
      obtain rfl : rest' = after.rest ++ beyond.tokens := rest
      obtain rfl : finish' = beyond.finish := finish
      rfl
  | stopped _ at_end _ _ => exact absurd at_end before

theorem Stable.of_tracks [Moves parser] {halt : Seam → Cursor → Prop}
    {related : Seam → α → α → Prop}
    (tracks : ∀ seam : Seam, seam.Tracks (halt seam) (related seam) parser parser)
    (same : ∀ beyond value value', related (edge.seam beyond) value value' → value = value') :
    edge.Stable parser := by
  intro cursor value next beyond holds run before joins
  exact run_eq_of_agree (tracks _ _ _ (holds.follows joins)) (same beyond) run before

/-! ## Loops -/

section Loops

variable {step step' : α → Parser (Option α)} {state : α}

theorem turn_run_eq {next next' : α → Parser α}
    (same : ∀ value after, (step state).run cursor = .ok (some value, after) →
      (next value).run after = (next' value).run after) :
    (turn step next state).run cursor = (turn step next' state).run cursor := by
  cases run : (step state).run cursor with
  | error diagnostic => rw [turn, turn, run_bind_of_error run, run_bind_of_error run]
  | ok result =>
      obtain ⟨answer, after⟩ := result
      rw [turn, turn, run_bind_of_ok run, run_bind_of_ok run]
      cases answer with
      | none => rfl
      | some value => exact same value after run

/-- Every turn of a loop takes a token. -/
def Shrinks (step : α → Parser (Option α)) : Prop :=
  ∀ state value cursor next, (step state).run cursor = .ok (some value, next) →
    cursor.finish.kind = .finish → next.rest.length < cursor.rest.length

variable [∀ state, Moves (step state)]

theorem repeatAlong_run_eq (shrinks : Shrinks step) {tokens tokens' : List Token}
    (finish : cursor.finish.kind = .finish) (enough : cursor.rest.length ≤ tokens.length)
    (enough' : cursor.rest.length ≤ tokens'.length) :
    (repeatAlong step tokens state).run cursor = (repeatAlong step tokens' state).run cursor := by
  induction tokens generalizing tokens' state cursor with
  | nil =>
      have last (next next' : α → Parser α) :
          (turn step next state).run cursor = (turn step next' state).run cursor := by
        refine turn_run_eq fun value after run => ?_
        have shorter := shrinks _ _ _ _ run finish
        rw [List.length_nil] at enough
        omega
      cases tokens' with
      | nil => rfl
      | cons => exact last _ _
  | cons token tokens ih =>
      cases tokens' with
      | nil =>
          refine turn_run_eq fun value after run => ?_
          have shorter := shrinks _ _ _ _ run finish
          rw [List.length_nil] at enough'
          omega
      | cons token' tokens' =>
          refine turn_run_eq fun value after run => ?_
          have shorter := shrinks _ _ _ _ run finish
          obtain ⟨_, passes⟩ := Moves.passes run
          rw [List.length_cons] at enough enough'
          exact ih (passes.finish ▸ finish) (by omega) (by omega)

/-- A loop is one turn and the loop again. -/
theorem whileSome_run_eq (shrinks : Shrinks step) (finish : cursor.finish.kind = .finish) :
    (whileSome step state).run cursor = (turn step (whileSome step) state).run cursor := by
  have whole (state : α) (cursor : Cursor) :
      (whileSome step state).run cursor = (repeatAlong step cursor.rest state).run cursor := rfl
  rw [whole]
  cases tokens : cursor.rest with
  | nil =>
      refine turn_run_eq fun value after run => ?_
      have shorter := shrinks _ _ _ _ run finish
      rw [tokens, List.length_nil] at shorter
      omega
  | cons token rest =>
      refine turn_run_eq fun value after run => ?_
      have shorter := shrinks _ _ _ _ run finish
      obtain ⟨_, passes⟩ := Moves.passes run
      rw [tokens, List.length_cons] at shorter
      rw [whole]
      exact repeatAlong_run_eq shrinks (passes.finish ▸ finish) (by omega) (Nat.le_refl _)

theorem Stable.whileSome (shrinks : Shrinks step) (stable : ∀ state, edge.Stable (step state))
    (state : α) : edge.Stable (whileSome step state) := by
  intro cursor final last beyond holds run before joins
  induction length : cursor.rest.length using Nat.strongRecOn generalizing state cursor with
  | ind length ih =>
      have finish : cursor.finish.kind = .finish := holds.finish_kind
      have finish' : (cursor.onward beyond).finish.kind = .finish := beyond.finish_kind
      rw [whileSome_run_eq shrinks finish] at run
      rw [whileSome_run_eq shrinks finish']
      obtain ⟨answer, middle, step_run, next_run⟩ := run_bind_eq_ok run
      obtain ⟨_, passes⟩ := Moves.passes step_run
      have inside : middle.rest ≠ [] := by
        intro at_edge
        cases answer with
        | none =>
            cases next_run
            exact before at_edge
        | some value =>
            obtain ⟨_, next_passes⟩ := Moves.passes next_run
            rw [next_passes.eq_of_atEnd at_edge] at before
            exact before at_edge
      rw [turn, run_bind_of_ok (stable state _ _ _ _ holds step_run inside joins)]
      cases answer with
      | none =>
          cases next_run
          rfl
      | some value =>
          exact ih _ (length ▸ shrinks _ _ _ _ step_run finish) value middle
            (holds.of_passes passes) next_run (joinsTo_of_last passes.last joins) rfl

variable [∀ state, Moves (step' state)]

omit [∀ state, Moves (step state)] in
theorem Supplies.whileSome (shrinks' : Shrinks step')
    (ends : edge.Supplies fits (· = none) [] (step' state)) (holds : post state) :
    edge.Supplies fits post [] (whileSome step' state) := by
  intro previous more tail spell fit
  rw [whileSome_run_eq shrinks' (Beyond.finish_kind _)]
  refine (ends previous more tail spell fit).bind fun answer previous nothing => ?_
  subst nothing
  exact .reaches holds

omit [∀ state, Moves (step state)] in
/-- One turn of a loop is supplied. -/
theorem Supplies.turn (shrinks' : Shrinks step')
    (turns : edge.Supplies fits (fun answer => ∃ value, answer = some value ∧ post value) fillers
      (step' state))
    (ends : ∀ state, edge.Supplies fits (· = none) [] (step' state)) :
    edge.Supplies fits post fillers (Parser.whileSome step' state) := by
  intro previous more tail spell fit
  rw [whileSome_run_eq shrinks' (Beyond.finish_kind _)]
  refine (turns previous more tail spell fit).bind fun answer previous found => ?_
  obtain ⟨value, rfl, holds⟩ := found
  exact Supplies.whileSome shrinks' (ends value) holds previous [] tail rfl fit

/-- A loop goes on where its turns do, if it ends where the tokens behind the edge do. -/
theorem CompletesAt.whileSome [∀ state, Deepens (step state) (step' state)]
    (shrinks : Shrinks step) (shrinks' : Shrinks step')
    (stable : ∀ state, edge.Stable (step' state))
    (steps : ∀ state cursor, edge.Holds cursor → cursor.rest ≠ [] →
      edge.CompletesAt fits (fun answer => post (answer.getD state)) (step state) (step' state)
        cursor)
    (ends : ∀ state, edge.Supplies fits (· = none) [] (step' state))
    (holds : edge.Holds cursor) (inside : cursor.rest ≠ []) :
    edge.CompletesAt fits post (whileSome step state) (whileSome step' state) cursor := by
  induction length : cursor.rest.length using Nat.strongRecOn generalizing state cursor with
  | ind length ih =>
      refine .congr (whileSome_run_eq shrinks holds.finish_kind)
        (fun beyond _ => whileSome_run_eq shrinks' (Beyond.finish_kind _)) ?_
      refine .bind_nil (stable state) holds (steps state cursor holds inside) ?_ ?_ fun _ => id
      · intro answer after run after_holds before
        cases answer with
        | none => exact .of_ok rfl before
        | some value =>
            exact ih _ (length ▸ shrinks _ _ _ _ run holds.finish_kind) after_holds before rfl
      · intro answer answer_holds
        cases answer with
        | none => exact .pure answer_holds
        | some value => exact .whileSome shrinks' (ends value) answer_holds

theorem Completes.whileSome [∀ state, Deepens (step state) (step' state)]
    (shrinks : Shrinks step) (shrinks' : Shrinks step')
    (stable : ∀ state, edge.Stable (step' state))
    (steps : ∀ state cursor, edge.Holds cursor → cursor.rest ≠ [] →
      edge.CompletesAt fits (fun _ => True) (step state) (step' state) cursor)
    (ends : ∀ state, edge.Supplies fits (· = none) [] (step' state)) (state : α) :
    edge.Completes fits (fun _ => True) [] (whileSome step state) (whileSome step' state) where
  inside _ holds inside :=
    .whileSome shrinks shrinks' stable steps ends holds inside
  supplies := .whileSome shrinks' (ends state) trivial

end Loops

theorem Stable.separated {item : List α → Parser α} [operand : ∀ earlier, Operand (item earlier)]
    (stable : ∀ earlier, edge.Stable (item earlier)) : edge.Stable (separated item) := by
  refine .bind (stable []) fun first => .bind (.whileSome ?_ (fun earlier => ?_) [first])
    fun _ => .pure _
  · exact fun _ _ _ _ run finish => ((separatedStep_extends operand).closes run finish).shorter
  · exact .bind (.accept _) fun _ => .ite (.bind (stable earlier) fun _ => .pure _) (.pure _)

/-- Items with commas between them. -/
theorem Completes.separated {item item' : List α → Parser α} (fillers : List α → List Filler)
    [operand : ∀ earlier, Operand (item earlier)] [operand' : ∀ earlier, Operand (item' earlier)]
    [∀ earlier, Deepens (item earlier) (item' earlier)]
    (stable : ∀ earlier, edge.Stable (item' earlier))
    (items : ∀ earlier, edge.Completes fits (fun _ => True) (fillers earlier) (item earlier)
      (item' earlier))
    (follow : ∀ earlier, Follow fits (fillers earlier) .comma)
    (no_comma : ∀ head, fits head = true → head ≠ .comma) :
    edge.Completes fits (fun _ => True) (fillers []) (separated item) (separated item') := by
  have added (earlier : List α) : edge.Completes fits (fun _ => True) (fillers earlier)
      (do return some ((← item earlier) :: earlier))
      (do return some ((← item' earlier) :: earlier)) :=
    (items earlier).map fun _ => id
  have steps (earlier : List α) : edge.Completes fits (fun _ => True) []
      (do if ← Parser.accept .comma then return some ((← item earlier) :: earlier) else return none)
      (do if ← Parser.accept .comma then return some ((← item' earlier) :: earlier)
          else return none) :=
    .accept (added earlier) (.pure trivial) (follow earlier) no_comma
  have loop (first : α) := Completes.whileSome
    (fun _ _ _ _ run finish => ((separatedStep_extends operand).closes run finish).shorter)
    (fun _ _ _ _ run finish => ((separatedStep_extends operand').closes run finish).shorter)
    (fun earlier => .bind (.accept _) fun found => .ite (.bind (stable earlier) fun _ => .pure _)
      (.pure _))
    (fun earlier => (steps earlier).inside) (fun _ => .accept (.pure rfl) no_comma) [first]
  exact .bind_nil (stable []) (items []) (fun first => (loop first).map fun _ => id) fun _ => id

end Edge
end DotScript
