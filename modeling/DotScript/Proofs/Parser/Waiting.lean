import DotScript.Proofs.Parser.Seam.Programs
import DotScript.Proofs.Source.Joining

/-!
# Texts that wait for more

The prompt takes a program line by line.  `valid_input_is_never_cut_short`: lines that are the start
of a program are a program already, or they wait for more lines, or they are nested too deeply.
-/

namespace DotScript

/-! ## Cuts -/

/-- The word `not` before the cut belongs to the word `points` after it. -/
def SeparatesPoints (front back : List Token) : Prop :=
  ∃ word ∈ front.getLast?, word.kind = .not ∧ startsPoints back = true

/-- A program without places. -/
def Program.shape (outcome : Except Diagnostic Program) : Option Program :=
  outcome.toOption.map (Stmt.mapSpans Span.forget)

/-- The name of a method call stands before the cut and its parenthesis after it.  A point and a name
that touches it call a method unless the point ends a statement.  Then a gap after the point makes no
difference. -/
def SeparatesCall (front back : List Token) : Prop :=
  ∃ before point name, front = before ++ [point, name] ∧
    startsMethodCall (point :: name :: back) = true ∧
    Program.shape (Program.ofTokens (front ++ back)) ≠
      Program.shape (Program.ofTokens (before ++ point :: (name :: back).map (Token.shift 1 0)))

theorem Program.isSome_shape (outcome : Except Diagnostic Program) :
    (Program.shape outcome).isSome = outcome.isOk := by
  cases outcome <;> rfl

theorem startsPoints_append {tokens : List Token} {finish : Token} (ends : finish.kind = .finish) :
    startsPoints (tokens ++ [finish]) = startsPoints tokens := by
  cases tokens with
  | nil => simp [startsPoints, ends]
  | cons => rfl

theorem startsMethodCall_append {tokens : List Token} {finish : Token}
    (ends : finish.kind = .finish) :
    startsMethodCall (tokens ++ [finish]) = startsMethodCall tokens := by
  match tokens with
  | [] => rfl
  | [point] => rfl
  | [point, name] => simp [startsMethodCall, ends]
  | point :: name :: mark :: rest => rfl

namespace Seam

/-- The seam between a token list and further tokens, places apart. -/
def ofMore (more : List Token) (place place' : Place) : Seam where
  left := Span.forget
  right := Span.forget
  more
  finish := .finishAt place
  finish' := .finishAt place'
  joins := fun _ _ => rfl
  finish_kind := rfl
  finish_kind' := rfl

variable {more : List Token} {place place' : Place}

theorem ofMore_alike_shift (bytes lines : Nat) (token : Token) :
    (ofMore more place place').Alike token (token.shift bytes lines) :=
  ⟨rfl, rfl, rfl⟩

/-- Tokens before a point do not matter to what comes after it. -/
theorem Tracked.prepend {seam : Seam} (same : ∀ token, seam.Alike token token) {point : Token}
    (kind : point.kind = .dot) {rest rest' : List Token}
    (tracked : seam.Tracked (point :: rest) (point :: rest')) (before : List Token) :
    seam.Tracked (before ++ point :: rest) (before ++ point :: rest') := by
  induction before with
  | nil => exact tracked
  | cons token before ih =>
      refine .step (same token) ?_ (fun _ => ?_) ih
      · match before with
        | [] => cases rest <;> cases rest' <;> simp [startsMethodCall, kind]
        | [name] => simp [startsMethodCall, kind]
        | name :: mark :: before => rfl
      · cases before <;> rfl

end Seam

/-! ## Lines of a program -/

section Lines

variable {source lines : String} {more : List Token} {place place' : Place}

theorem exists_more_of_scan_eq_append {back : List Token}
    (kept : Token.inner source ++ back = Token.scan (source ++ "\n" ++ lines)) :
    ∃ more place', back = more ++ [.finishAt place'] ∧ ∀ token ∈ more, token.kind ≠ .finish := by
  rw [Token.scan_eq_append] at kept
  rcases List.eq_nil_or_concat back with rfl | ⟨more, last, rfl⟩
  · -- the mark of the end would be among the tokens of the first lines
    rw [List.append_nil] at kept
    have member : Token.finishAt (Place.start.after (source ++ "\n" ++ lines).toList) ∈
        Token.inner source := by
      rw [kept]
      exact List.mem_append_right _ (List.mem_singleton_self _)
    exact absurd rfl (Token.kind_ne_finish_of_mem_inner member)
  · rw [List.concat_eq_append, ← List.append_assoc] at kept
    obtain ⟨inside, last_eq⟩ := List.append_inj' kept rfl
    refine ⟨more, _, by rw [List.concat_eq_append, last_eq], fun token member => ?_⟩
    apply Token.kind_ne_finish_of_mem_inner
    rw [← inside]
    exact List.mem_append_right _ member

/-- Nothing is separated, so the first lines are alike on their own. -/
theorem tracked_inner
    (kept : Token.inner source ++ (more ++ [.finishAt place']) =
      Token.scan (source ++ "\n" ++ lines))
    (points : ¬ SeparatesPoints (Token.inner source) (more ++ [.finishAt place']))
    (calls : ∀ before point name, Token.inner source = before ++ [point, name] →
      startsMethodCall (point :: name :: more) = false) :
    (Seam.ofMore more place place').Tracked (Token.inner source) (Token.inner source ++ more) := by
  apply Seam.tracked_append fun _ => ⟨rfl, rfl, rfl⟩
  · rintro word ⟨before, inner⟩ negates
    apply eq_false_of_ne_true
    intro starts
    refine points ⟨word, ?_, negates, ?_⟩
    · rw [← inner, List.getLast?_concat]
      exact rfl
    · rw [startsPoints_append rfl]
      exact starts
  · intro point last
    apply startsMethodCall_of_apart
    intro token member
    have stop : point.span.stop ≤ source.utf8ByteSize :=
      Token.stop_le_of_mem_inner (last.subset (List.mem_singleton_self point))
    have start : source.utf8ByteSize < token.span.start :=
      Token.size_lt_start_of_scan_eq_append kept (List.mem_append_left _ member)
    exact Nat.lt_of_le_of_lt stop start
  · rintro point name ⟨before, inner⟩
    exact calls before point name inner.symm

/-- A name that touches a point is alike with a gap between them if no parenthesis follows. -/
theorem tracked_gap {before : List Token} {point name : Token}
    (calls : startsMethodCall (point :: name :: more) = true) :
    (Seam.ofMore (more.map (Token.shift 1 0)) place place').Tracked (before ++ [point, name])
      (before ++ point :: (name :: more).map (Token.shift 1 0)) := by
  obtain ⟨point_kind, name_kind, touches⟩ := name_of_startsMethodCall calls
  refine Seam.Tracked.prepend (fun _ => ⟨rfl, rfl, rfl⟩) point_kind ?_ before
  refine .step ⟨rfl, rfl, rfl⟩ ?_ ?_ (.step (Seam.ofMore_alike_shift 1 0 name) ?_ ?_ .stop)
  · apply Eq.symm
    apply eq_false_of_ne_true
    intro still_calls
    have stop : point.span.stop = name.span.start + 1 := (name_of_startsMethodCall still_calls).2.2
    omega
  · rw [point_kind]
    rintro ⟨⟩
  · exact (startsMethodCall_of_ne (by rw [Token.shift, name_kind]; decide)).symm
  · rw [name_kind]
    rintro ⟨⟩

/-- The first lines of a program on their own. -/
theorem parse_outcome_of_kept {back : List Token}
    (valid : (Program.parse (source ++ "\n" ++ lines)).isOk = true)
    (kept : Token.inner source ++ back = Token.scan (source ++ "\n" ++ lines))
    (points : ¬ SeparatesPoints (Token.inner source) back)
    (call : ¬ SeparatesCall (Token.inner source) back) :
    (Program.parse source).isOk = true ∨
      ∃ diagnostic, Program.parse source = .error diagnostic ∧
        (diagnostic.span = (Token.finishAt (Place.start.after source.toList)).span ∨
          diagnostic.fault = .malformed .tooDeep) := by
  obtain ⟨more, place', rfl, inside'⟩ := exists_more_of_scan_eq_append kept
  have inside : ∀ token ∈ Token.inner source, token.kind ≠ .finish :=
    fun _ => Token.kind_ne_finish_of_mem_inner
  rw [Program.parse, Token.scan_eq_append]
  rw [Program.parse, ← kept] at valid
  by_cases calls : ∃ before point name, Token.inner source = before ++ [point, name] ∧
      startsMethodCall (point :: name :: more) = true
  · obtain ⟨before, point, name, inner, starts⟩ := calls
    have tracked : (Seam.ofMore (more.map (Token.shift 1 0)) (Place.start.after source.toList)
        (place'.shift 1 0)).Tracked (Token.inner source)
        (before ++ point :: (name :: more).map (Token.shift 1 0)) := by
      rw [inner]
      exact tracked_gap starts
    have same : Program.shape (Program.ofTokens (Token.inner source ++ (more ++ [.finishAt place']))) =
        Program.shape (Program.ofTokens (before ++
          point :: (name :: (more ++ [.finishAt place'])).map (Token.shift 1 0))) := by
      refine Classical.not_not.1 fun different => call ⟨before, point, name, inner, ?_, different⟩
      have known : startsMethodCall (point :: name :: more ++ [.finishAt place']) =
          startsMethodCall (point :: name :: more) := startsMethodCall_append rfl
      exact known.trans starts
    refine tracked.ofTokens_outcome inside ?_ ?_
    · intro token member
      obtain ⟨original, found, rfl⟩ := List.mem_map.1 member
      exact inside' original found
    · rw [← Program.isSome_shape, same, Program.isSome_shape] at valid
      rw [List.map_cons, List.map_append] at valid
      rw [List.append_assoc]
      exact valid
  · have apart : ∀ before point name, Token.inner source = before ++ [point, name] →
        startsMethodCall (point :: name :: more) = false := by
      intro before point name inner
      apply eq_false_of_ne_true
      intro starts
      exact calls ⟨before, point, name, inner, starts⟩
    have tracked : (Seam.ofMore more (Place.start.after source.toList) place').Tracked
        (Token.inner source) (Token.inner source ++ more) := tracked_inner kept points apart
    apply tracked.ofTokens_outcome inside inside'
    rw [List.append_assoc]
    exact valid

end Lines

/-- If some lines and more lines after them are a program, and the tokens of the first lines stay the
same with no word and no call separated from what belongs to it, then the first lines are a program
already, or wait for more, or are nested too deeply. -/
theorem valid_input_is_never_cut_short {source lines : String} {back : List Token}
    (valid : (Program.parse (source ++ "\n" ++ lines)).isOk = true)
    (kept : Token.inner source ++ back = Token.scan (source ++ "\n" ++ lines))
    (points : ¬ SeparatesPoints (Token.inner source) back)
    (call : ¬ SeparatesCall (Token.inner source) back) :
    (Program.parse source).isOk = true ∨ Program.awaitsMore source = true ∨
      ∃ diagnostic, Program.parse source = .error diagnostic ∧
        diagnostic.fault = .malformed .tooDeep := by
  rcases parse_outcome_of_kept valid kept points call with
    succeeds | ⟨diagnostic, failed, at_end | deep⟩
  · exact .inl succeeds
  · refine .inr (.inl ?_)
    rw [Program.awaitsMore, failed, decide_eq_true_eq, at_end, ← Place.offset_start_after]
    exact Nat.le_refl _
  · exact .inr (.inr ⟨diagnostic, failed, deep⟩)

theorem half_conditional_is_not_cut_short :
    let source := "if a.size() > 1:\n  b += 1"
    let lines := "else:\n  pass.\n;"
    let back := (Token.scan (source ++ "\n" ++ lines)).drop 12
    (Program.parse (source ++ "\n" ++ lines)).isOk = true ∧
      Token.inner source ++ back = Token.scan (source ++ "\n" ++ lines) ∧
      ¬ SeparatesPoints (Token.inner source) back ∧ ¬ SeparatesCall (Token.inner source) back ∧
      ((Program.parse source).isOk = true ∨ Program.awaitsMore source = true ∨
        ∃ diagnostic, Program.parse source = .error diagnostic ∧
          diagnostic.fault = .malformed .tooDeep) := by
  intro source lines back
  have valid : (Program.parse (source ++ "\n" ++ lines)).isOk = true := by decide +kernel
  have kept : Token.inner source ++ back = Token.scan (source ++ "\n" ++ lines) := by decide +kernel
  have last : (Token.inner source).getLast?.map (·.kind) = some .int := by decide +kernel
  have points : ¬ SeparatesPoints (Token.inner source) back := by
    rintro ⟨word, found, negates, -⟩
    rw [Option.mem_def.1 found, Option.map_some, negates] at last
    cases last
  have call : ¬ SeparatesCall (Token.inner source) back := by
    rintro ⟨before, point, name, inner, calls, -⟩
    rw [inner, List.append_cons, List.getLast?_concat, Option.map_some] at last
    rw [(name_of_startsMethodCall calls).2.1] at last
    cases last
  exact ⟨valid, kept, points, call, valid_input_is_never_cut_short valid kept points call⟩

end DotScript
