import DotScript.Proofs.Source.Joining

/-!
# Places in a source text

While a text is scanned, the place is always the one after a front part of the text.  So the span of
every token lies in the text: its ends are between characters, and its line is one more than the
number of line feeds before it.  Spans that reach from one token to another lie in the text as well.
-/

namespace DotScript

/-- The span lies in a source text. -/
structure Span.LiesIn (source : String) (span : Span) : Prop where
  ordered : span.start ≤ span.stop
  inside : span.stop ≤ source.utf8ByteSize
  /-- No character reaches over the first end. -/
  start : String.Pos.Raw.IsValid source ⟨span.start⟩
  /-- No character reaches over the last end. -/
  stop : String.Pos.Raw.IsValid source ⟨span.stop⟩
  /-- The line counts the line feeds in the text before the first end. -/
  line : ∃ before after, source = before ++ after ∧ before.utf8ByteSize = span.start ∧
    span.line = 1 + before.toList.count '\n'

/-- The span from one span in a text to another one lies in the text, in whatever order they
stand. -/
theorem Span.LiesIn.to {source : String} {first last : Span} (lies : first.LiesIn source)
    (last_lies : last.LiesIn source) : (first.to last).LiesIn source where
  ordered := Nat.le_trans lies.ordered (Nat.le_max_right _ _)
  inside := Nat.max_le.2 ⟨last_lies.inside, lies.inside⟩
  start := lies.start
  stop := by
    rw [Span.to]
    rcases Nat.le_total first.stop last.stop with further | further
    · rw [Nat.max_eq_left further]
      exact last_lies.stop
    · rw [Nat.max_eq_right further]
      exact lies.stop
  line := lies.line

namespace Place

theorem offset_start_after_chars (text : List Char) :
    (start.after text).offset = (String.ofList text).utf8ByteSize := by
  rw [← offset_start_after, String.toList_ofList]

/-- The place after a front part of a text is between two characters. -/
theorem isValid_start_after (front back : List Char) :
    String.Pos.Raw.IsValid (String.ofList (front ++ back)) ⟨(start.after front).offset⟩ := by
  rw [String.Pos.Raw.isValid_iff_exists_append]
  refine ⟨String.ofList front, String.ofList back, String.ofList_append, ?_⟩
  rw [offset_start_after_chars]
  rfl

/-- The span of a part of a text lies in the text. -/
theorem span_liesIn (front part back : List Char) :
    ((start.after front).span ((start.after front).after part)).LiesIn
      (String.ofList (front ++ (part ++ back))) where
  ordered := offset_le_after _ _
  inside := by
    have stop : (start.after (front ++ part)).offset ≤
        (start.after ((front ++ part) ++ back)).offset := by
      rw [after_append start (front ++ part)]
      exact offset_le_after _ _
    rw [after_append, offset_start_after_chars, List.append_assoc] at stop
    exact stop
  start := isValid_start_after front (part ++ back)
  stop := by
    have stop := isValid_start_after (front ++ part) back
    rw [after_append, List.append_assoc] at stop
    exact stop
  line := by
    refine ⟨String.ofList front, String.ofList (part ++ back), String.ofList_append, ?_, ?_⟩
    · exact (offset_start_after_chars front).symm
    · rw [String.toList_ofList]
      exact line_after start front

end Place

namespace Token

/-- The tokens of the rest of a text lie in the whole text. -/
theorem liesIn_of_mem_scanRest {operand : Bool} {front text : List Char} {token : Token}
    (member : token ∈ scanRest operand (Place.start.after front) text) :
    token.span.LiesIn (String.ofList (front ++ text)) := by
  induction operand, text using chunk_induction generalizing front with
  | nil operand =>
      obtain rfl := List.mem_singleton.1 member
      exact Place.span_liesIn front [] []
  | gap operand c rest meaning ih =>
      rw [scanRest_gap rfl meaning, ← Place.after_append] at member
      have later := ih member
      rwa [List.append_assoc, (firstChunk_cutsFrom operand c rest).2] at later
  | token operand c rest kind text meaning ih =>
      have cut := (firstChunk_cutsFrom operand c rest).2
      rw [scanRest_token rfl meaning] at member
      rcases List.mem_cons.1 member with rfl | member
      · rw [← cut]
        exact Place.span_liesIn front _ _
      · rw [← Place.after_append] at member
        have later := ih member
        rwa [List.append_assoc, cut] at later

/-- The tokens of a source text lie in it, the one that marks its end included. -/
theorem liesIn_of_mem_scan {source : String} {token : Token} (member : token ∈ scan source) :
    token.span.LiesIn source := by
  have lies : token.span.LiesIn (String.ofList ([] ++ source.toList)) :=
    liesIn_of_mem_scanRest member
  rwa [List.nil_append, String.ofList_toList] at lies

end Token
end DotScript
