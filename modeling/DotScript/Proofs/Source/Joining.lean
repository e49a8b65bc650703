import DotScript.Proofs.Source.Scanning
import DotScript.Proofs.Tree.Spans

/-!
# Two texts with a line feed between them

A text may end with a whole chunk, inside a string or inside a block comment.  If it ends with a
whole chunk, the tokens of two texts with a line feed between them are those of the first text
followed by those of the second one, which stand further down.
-/

namespace DotScript

namespace Place

/-- The place further down in a text. -/
def shift (bytes lines : Nat) (place : Place) : Place where
  offset := place.offset + bytes
  line := place.line + lines

theorem after_nil (place : Place) : place.after [] = place := rfl

theorem after_append (place : Place) (text more : List Char) :
    place.after (text ++ more) = (place.after text).after more :=
  List.foldl_append

theorem after_shift (bytes lines : Nat) (place : Place) (text : List Char) :
    (place.shift bytes lines).after text = (place.after text).shift bytes lines := by
  induction text generalizing place with
  | nil => rfl
  | cons c text ih =>
      have next : (place.shift bytes lines).next c = (place.next c).shift bytes lines := by
        simp only [next, shift, Place.mk.injEq]
        split <;> omega
      change ((place.shift bytes lines).next c).after text = _
      rw [next, ih]
      rfl

theorem offset_le_after (place : Place) (text : List Char) :
    place.offset ≤ (place.after text).offset := by
  induction text generalizing place with
  | nil => exact Nat.le_refl _
  | cons c text ih => exact Nat.le_trans (Nat.le_add_right _ _) (ih (place.next c))

theorem offset_lt_after (place : Place) {text : List Char} (some_text : text ≠ []) :
    place.offset < (place.after text).offset := by
  cases text with
  | nil => exact absurd rfl some_text
  | cons c text =>
      have step : place.offset < (place.next c).offset := Nat.lt_add_of_pos_right c.utf8Size_pos
      exact Nat.lt_of_lt_of_le step (offset_le_after _ _)

theorem line_after (place : Place) (text : List Char) :
    (place.after text).line = place.line + text.count '\n' := by
  induction text generalizing place with
  | nil => rfl
  | cons c text ih =>
      have step : (place.after (c :: text)).line = ((place.next c).after text).line := rfl
      rw [step, ih, List.count_cons, next]
      by_cases feed : c = '\n'
      · simp only [feed, if_pos, beq_self_eq_true]
        omega
      · simp [feed]

/-- The place after a whole text. -/
theorem offset_start_after (text : String) : (start.after text.toList).offset = text.utf8ByteSize := by
  have sizes (chars : List Char) (place : Place) :
      (place.after chars).offset = place.offset + (String.ofList chars).utf8ByteSize := by
    induction chars generalizing place with
    | nil => simp [after_nil]
    | cons c chars ih =>
        change ((place.next c).after chars).offset = _
        rw [ih, ← List.singleton_append, String.ofList_append, String.utf8ByteSize_append,
          ← String.singleton_eq_ofList, String.utf8ByteSize_singleton]
        simp only [next]
        omega
  rw [sizes, String.ofList_toList]
  exact Nat.zero_add _

end Place

namespace Token

/-! ## Chunk by chunk -/

/-- What holds for the empty text and is passed on from what a chunk leaves holds for all texts. -/
theorem chunk_induction {motive : Bool → List Char → Prop} (nil : ∀ operand, motive operand [])
    (gap : ∀ operand c rest, (firstChunk operand c rest).meaning = .gap →
      motive operand (firstChunk operand c rest).rest → motive operand (c :: rest))
    (token : ∀ operand c rest kind text, (firstChunk operand c rest).meaning = .token kind text →
      motive kind.endsOperand (firstChunk operand c rest).rest → motive operand (c :: rest))
    (operand : Bool) (text : List Char) : motive operand text := by
  induction size : text.length using Nat.strongRecOn generalizing operand text with
  | ind size ih =>
      subst size
      cases text with
      | nil => exact nil operand
      | cons c rest =>
          have shorter := (firstChunk_cutsFrom operand c rest).rest_length_lt
          cases meaning : (firstChunk operand c rest).meaning with
          | gap => exact gap operand c rest meaning (ih _ shorter _ _ rfl)
          | token kind text => exact token operand c rest kind text meaning (ih _ shorter _ _ rfl)

/-- The same token further down in a text. -/
def shift (bytes lines : Nat) (token : Token) : Token :=
  { token with span := token.span.shift bytes lines }

theorem scanRest_shift (bytes lines : Nat) (operand : Bool) (place : Place) (text : List Char) :
    scanRest operand (place.shift bytes lines) text =
      (scanRest operand place text).map (shift bytes lines) := by
  induction operand, text using chunk_induction generalizing place with
  | nil operand => rfl
  | gap operand c rest meaning ih =>
      rw [scanRest_gap rfl meaning, scanRest_gap rfl meaning, Place.after_shift, ih]
  | token operand c rest kind text meaning ih =>
      rw [scanRest_token rfl meaning, scanRest_token rfl meaning, Place.after_shift, ih]
      rfl

theorem after_firstChunk (place : Place) (operand : Bool) (c : Char) (rest : List Char) :
    (place.after (firstChunk operand c rest).source).after (firstChunk operand c rest).rest =
      place.after (c :: rest) := by
  rw [← Place.after_append, (firstChunk_cutsFrom operand c rest).2]

/-- The tokens of a text end with the mark of its end. -/
theorem scanRest_eq_append (operand : Bool) (place : Place) (text : List Char) :
    scanRest operand place text =
      (scanRest operand place text).dropLast ++ [finishAt (place.after text)] := by
  induction operand, text using chunk_induction generalizing place with
  | nil operand => rfl
  | gap operand c rest meaning ih =>
      rw [scanRest_gap rfl meaning, ← after_firstChunk place operand]
      exact ih _
  | token operand c rest kind text meaning ih =>
      rw [scanRest_token rfl meaning, ← after_firstChunk place operand]
      have later := ih (place.after (firstChunk operand c rest).source)
      rw [later, List.dropLast_cons_of_ne_nil (by simp)]
      simp

/-- The tokens of a text lie between its ends. -/
theorem scanRest_bounds {operand : Bool} {place : Place} {text : List Char} {token : Token}
    (member : token ∈ scanRest operand place text) :
    place.offset ≤ token.span.start ∧ token.span.stop ≤ (place.after text).offset := by
  induction operand, text using chunk_induction generalizing place with
  | nil operand =>
      obtain rfl := List.mem_singleton.1 member
      exact ⟨Nat.le_refl _, Nat.le_refl _⟩
  | gap operand c rest meaning ih =>
      rw [scanRest_gap rfl meaning] at member
      have later := ih member
      have before := place.offset_le_after (firstChunk operand c rest).source
      rw [after_firstChunk] at later
      exact ⟨Nat.le_trans before later.1, later.2⟩
  | token operand c rest kind text meaning ih =>
      rw [scanRest_token rfl meaning] at member
      have before := place.offset_le_after (firstChunk operand c rest).source
      rcases List.mem_cons.1 member with rfl | member
      · refine ⟨Nat.le_refl _, ?_⟩
        rw [← after_firstChunk place operand]
        exact Place.offset_le_after _ _
      · have later := ih member
        rw [after_firstChunk] at later
        exact ⟨Nat.le_trans before later.1, later.2⟩

/-! ## Kinds -/

/-- The kinds that words have: logical operators, keywords and names. -/
def Kind.isWord : Kind → Bool
  | .identifier | .keyword _ | .and | .or | .not => true
  | _ => false

theorem Kind.ofWord_ne (word : String) {kind : Kind} (other : kind.isWord = false) :
    Kind.ofWord word ≠ kind := by
  have is_word : (Kind.ofWord word).isWord = true := by
    unfold Kind.ofWord
    split
    · rfl
    split
    · rfl
    split
    · rfl
    split <;> rfl
  rintro rfl
  rw [is_word] at other
  cases other

theorem kind_ne_finish_of_meaning {operand : Bool} {c : Char} {rest : List Char} {kind : Kind}
    {text : String} (meaning : (firstChunk operand c rest).meaning = .token kind text) :
    kind ≠ .finish := by
  revert meaning
  unfold firstChunk
  split
  · rintro ⟨⟩
  split
  · rintro ⟨⟩
  split
  · rintro ⟨⟩
  unfold tokenChunk
  split
  · rintro ⟨⟩
    exact Kind.ofWord_ne _ rfl
  split
  · unfold numeralChunk
    split
    · split <;> rintro ⟨⟩ ⟨⟩
    · rintro ⟨⟩ ⟨⟩
  split
  · rintro ⟨⟩ ⟨⟩
  split
  · unfold stringChunk
    split <;> rintro ⟨⟩ ⟨⟩
  · unfold markChunk
    split <;> rintro ⟨⟩ ⟨⟩

/-- Only the last token of a text marks its end. -/
theorem kind_ne_finish_of_mem {operand : Bool} {place : Place} {text : List Char} {token : Token}
    (member : token ∈ (scanRest operand place text).dropLast) : token.kind ≠ .finish := by
  induction operand, text using chunk_induction generalizing place with
  | nil operand => cases member
  | gap operand c rest meaning ih =>
      rw [scanRest_gap rfl meaning] at member
      exact ih member
  | token operand c rest kind text meaning ih =>
      rw [scanRest_token rfl meaning, scanRest_eq_append, List.dropLast_cons_of_ne_nil (by simp),
        List.mem_cons] at member
      rcases member with rfl | member
      · exact kind_ne_finish_of_meaning meaning
      · rw [List.dropLast_concat] at member
        exact ih member

/-! ## How a text ends -/

/-- Whether a block comment that was opened before is closed. -/
def closesComment : List Char → Bool
  | [] => false
  | '<' :: '-' :: '-' :: _ => true
  | _ :: rest => closesComment rest

/-- Whether a text starts with a block comment that is not closed. -/
def startsOpenComment : List Char → Bool
  | '-' :: '-' :: '>' :: more => !closesComment more
  | _ => false

/-- How a text ends. -/
inductive Ending
  /-- With a token, a blank or a comment that is closed. -/
  | whole
  /-- Inside a string. -/
  | inString
  /-- Inside a block comment. -/
  | inComment
deriving DecidableEq, Repr

/-- How a text ends, looking at as many chunks as `limit` says. -/
def endingFrom : Nat → Bool → List Char → Ending
  | _, _, [] => .whole
  | 0, _, _ :: _ => .whole
  | limit + 1, operand, c :: rest =>
    let chunk := firstChunk operand c rest
    if startsOpenComment (c :: rest) then .inComment
    else
      match chunk.meaning with
      | .gap => endingFrom limit operand chunk.rest
      | .token kind _ =>
        if kind = .unterminatedString then .inString
        else endingFrom limit kind.endsOperand chunk.rest

/-- How a source text ends. -/
def ending (source : String) : Ending :=
  endingFrom source.toList.length false source.toList

theorem takeWhile_append_stop (continues : Char → Bool) {stop : Char} (stops : continues stop = false)
    (text more : List Char) :
    (text ++ stop :: more).takeWhile continues = text.takeWhile continues ∧
      (text ++ stop :: more).dropWhile continues = text.dropWhile continues ++ stop :: more := by
  induction text with
  | nil => simp [stops]
  | cons c text ih =>
      by_cases inside : continues c = true
      · simp [inside, ih]
      · simp [inside]

theorem closeString_append_of_some {quote : Char} {text contents source after : List Char}
    (closed : closeString quote text = some (contents, source, after)) (more : List Char) :
    closeString quote (text ++ more) = some (contents, source, after ++ more) := by
  fun_induction closeString quote text generalizing contents source after with
  | case1 => cases closed
  | case2 =>
      cases closed
      rw [List.cons_append, closeString.eq_def]
      simp only [if_pos]
  | case3 => cases closed
  | case4 e rest other ih =>
      obtain ⟨⟨_, _, _⟩, inner, same⟩ := Option.map_eq_some_iff.1 closed
      cases same
      rw [List.cons_append, List.cons_append, closeString.eq_def]
      simp only [if_neg other, if_pos, ih inner]
      rfl
  | case5 c rest other plain ih =>
      obtain ⟨⟨_, _, _⟩, inner, same⟩ := Option.map_eq_some_iff.1 closed
      cases same
      rw [List.cons_append, closeString.eq_def]
      simp only [if_neg other, if_neg plain, ih inner]
      rfl

theorem closeComment_cons {c : Char} {rest : List Char}
    (other : ∀ after, c :: rest ≠ '<' :: '-' :: '-' :: after) :
    closeComment (c :: rest) = (c :: (closeComment rest).1, (closeComment rest).2) := by
  rw [closeComment.eq_def]
  split
  · rename_i impossible
    cases impossible
  · rename_i same
    exact absurd same (other _)
  · rename_i same
    cases same
    rfl

theorem exists_of_closesComment {text : List Char} (closes : closesComment text = true) :
    ∃ a b rest, text = a :: b :: rest := by
  match text with
  | [] => cases closes
  | [a] => simp [closesComment] at closes
  | a :: b :: rest => exact ⟨a, b, rest, rfl⟩

/-- What follows a comment that is closed does not matter to it. -/
theorem closeComment_append_of_closes {text : List Char} (closes : closesComment text = true)
    (more : List Char) :
    closeComment (text ++ more) = ((closeComment text).1, (closeComment text).2 ++ more) := by
  fun_induction closesComment text with
  | case1 => cases closes
  | case2 => rfl
  | case3 c rest other ih =>
      obtain ⟨a, b, after, rfl⟩ := exists_of_closesComment closes
      have plain (after' : List Char) :
          c :: (a :: b :: after ++ more) ≠ '<' :: '-' :: '-' :: after' := by
        intro same
        cases same
        exact other _ rfl rfl
      have plain' (after' : List Char) : c :: a :: b :: after ≠ '<' :: '-' :: '-' :: after' := by
        intro same
        cases same
        exact other _ rfl rfl
      rw [List.cons_append, closeComment_cons plain, closeComment_cons plain', ih closes]

/-- A comment that is not closed takes all there is. -/
theorem closeComment_of_open {text : List Char} (stays : closesComment text = false) :
    closeComment text = (text, []) := by
  fun_induction closesComment text with
  | case1 => rfl
  | case2 => cases stays
  | case3 c rest other ih =>
      rw [closeComment_cons, ih stays]
      intro after same
      cases same
      exact other _ rfl rfl

/-- A comment that is not closed takes the line feed and what comes up to its closing mark. -/
theorem closeComment_append_of_open {text : List Char} (stays : closesComment text = false)
    (more : List Char) :
    closeComment (text ++ '\n' :: more) =
      (text ++ '\n' :: (closeComment more).1, (closeComment more).2) := by
  fun_induction closesComment text with
  | case1 =>
      rw [List.nil_append, closeComment_cons]
      · rfl
      · intro after same
        cases same
  | case2 => cases stays
  | case3 c rest other ih =>
      rw [List.cons_append, closeComment_cons, ih stays]
      · rfl
      · intro after same
        match rest, same with
        | [], same => cases same
        | [a], same => cases same
        | a :: b :: after, same =>
            cases same
            exact other _ rfl rfl

/-! ## A line feed after a chunk -/

theorem continuesName_newline : continuesName '\n' = false := by decide

theorem continuesDigits_newline : continuesDigits '\n' = false := by decide

theorem wordChunk_append (c : Char) (rest more : List Char) :
    wordChunk c (rest ++ '\n' :: more) =
      { wordChunk c rest with rest := (wordChunk c rest).rest ++ '\n' :: more } := by
  obtain ⟨taken, dropped⟩ := takeWhile_append_stop _ continuesName_newline rest more
  simp only [wordChunk, taken, dropped]

theorem pointChunk_append (rest more : List Char) :
    pointChunk (rest ++ '\n' :: more) =
      { pointChunk rest with rest := (pointChunk rest).rest ++ '\n' :: more } := by
  obtain ⟨taken, dropped⟩ := takeWhile_append_stop _ continuesDigits_newline rest more
  simp only [pointChunk, numberChunk, taken, dropped]

/-- Digits without a point and a digit after them are a number of their own. -/
theorem numeralChunk_eq {c : Char} {rest : List Char}
    (plain : ∀ d more, rest.dropWhile continuesDigits = '.' :: d :: more → d.isDigit = false) :
    numeralChunk c rest =
      numberChunk .int (c :: rest.takeWhile continuesDigits) (rest.dropWhile continuesDigits) := by
  unfold numeralChunk
  split
  next d more found => rw [if_neg (by simp [plain d more found]), found]
  next => rfl

/-- Digits, a point and a digit are a number with a fraction. -/
theorem numeralChunk_fraction {c d : Char} {rest more : List Char}
    (found : rest.dropWhile continuesDigits = '.' :: d :: more) (digit : d.isDigit = true) :
    numeralChunk c rest =
      numberChunk .float
        (c :: rest.takeWhile continuesDigits ++ '.' :: (d :: more).takeWhile continuesDigits)
        ((d :: more).dropWhile continuesDigits) := by
  rw [numeralChunk, found]
  simp only [digit, if_true]

/-- After the digits of a number come a point and a digit, or not. -/
theorem fraction_or_plain (text : List Char) :
    (∃ d more, text = '.' :: d :: more ∧ d.isDigit = true) ∨
      ∀ d more, text = '.' :: d :: more → d.isDigit = false := by
  by_cases fraction : ∃ d more, text = '.' :: d :: more ∧ d.isDigit = true
  · exact .inl fraction
  · exact .inr fun d more found => by simpa using fun digit => fraction ⟨d, more, found, digit⟩

theorem numeralChunk_append (c : Char) (rest more : List Char) :
    numeralChunk c (rest ++ '\n' :: more) =
      { numeralChunk c rest with rest := (numeralChunk c rest).rest ++ '\n' :: more } := by
  obtain ⟨taken, dropped⟩ := takeWhile_append_stop _ continuesDigits_newline rest more
  rcases fraction_or_plain (rest.dropWhile continuesDigits) with ⟨d, after, found, digit⟩ | plain
  · rw [found, List.cons_append, List.cons_append] at dropped
    obtain ⟨taken', dropped'⟩ := takeWhile_append_stop _ continuesDigits_newline (d :: after) more
    rw [List.cons_append] at taken' dropped'
    rw [numeralChunk_fraction found digit, numeralChunk_fraction dropped digit, taken, taken',
      dropped']
    rfl
  · have plain' : ∀ d after, rest.dropWhile continuesDigits ++ '\n' :: more = '.' :: d :: after →
        d.isDigit = false := by
      intro d after found
      cases left : rest.dropWhile continuesDigits with
      | nil =>
          rw [left] at found
          cases found
      | cons x rest =>
          rw [left] at found
          cases rest with
          | nil =>
              cases found
              rfl
          | cons y rest =>
              cases found
              exact plain _ _ left
    rw [numeralChunk_eq plain, numeralChunk_eq (by rwa [dropped]), taken, dropped]
    rfl

/-- The characters that a mark may take besides its first one. -/
def secondMarks : List Char := ['=', '+', '-', '&', '|']

/-- A mark takes one more character, whatever comes after that, or stands as it would alone. -/
theorem markChunk_cases (c : Char) (rest : List Char) :
    (∃ d ∈ secondMarks, ∃ kind more, rest = d :: more ∧
      ∀ more, markChunk c (d :: more) = .plain kind [c, d] more) ∨
    markChunk c rest = { markChunk c [] with rest } := by
  fun_cases markChunk c rest
  case case35 => exact .inr (by simp [markChunk, Chunk.plain, *])
  all_goals first
    | exact .inr rfl
    | exact .inl ⟨_, by decide, _, _, rfl, fun _ => rfl⟩

theorem markChunk_nil (c : Char) : (markChunk c []).source = [c] ∧ (markChunk c []).rest = [] := by
  obtain ⟨some_source, parts⟩ := markChunk_cutsFrom c []
  rcases List.append_eq_singleton_iff.1 parts with ⟨nothing, _⟩ | found
  · exact absurd nothing some_source
  · exact found

/-- A mark that stands alone before one text does so before another one, unless that starts with a
character that a mark may take and the first text does not. -/
theorem markChunk_alone {c : Char} {rest rest' : List Char}
    (alone : markChunk c rest = { markChunk c [] with rest })
    (next : ∀ d ∈ secondMarks, ∀ more', rest' = d :: more' → ∃ more, rest = d :: more) :
    markChunk c rest' = { markChunk c [] with rest := rest' } := by
  rcases markChunk_cases c rest' with ⟨d, mark, kind, more', rfl, double⟩ | alone'
  · obtain ⟨more, rfl⟩ := next d mark more' rfl
    have two : [c, d] = (markChunk c []).source :=
      congrArg Chunk.source ((double more).symm.trans alone)
    rw [(markChunk_nil c).1] at two
    cases two
  · exact alone'

theorem markChunk_append (c : Char) (rest more : List Char) :
    markChunk c (rest ++ '\n' :: more) =
      { markChunk c rest with rest := (markChunk c rest).rest ++ '\n' :: more } := by
  rcases markChunk_cases c rest with ⟨d, _, kind, after, rfl, double⟩ | alone
  · rw [List.cons_append, double, double]
    rfl
  · rw [alone]
    refine markChunk_alone alone fun d mark more' text => ?_
    cases rest with
    | nil =>
        cases text
        exact absurd mark (by decide)
    | cons e rest =>
        cases text
        exact ⟨rest, rfl⟩

/-- The chunk with more text behind it. -/
def Chunk.before (more : List Char) (chunk : Chunk) : Chunk :=
  { chunk with rest := chunk.rest ++ more }

theorem startsDigits_append (rest more : List Char) :
    startsDigits (rest ++ '\n' :: more) = startsDigits rest := by
  cases rest <;> rfl

theorem tokenChunk_append {operand : Bool} {c : Char} {rest : List Char} (more : List Char)
    (terminated : ∀ text, (tokenChunk operand c rest).meaning ≠ .token .unterminatedString text) :
    tokenChunk operand c (rest ++ '\n' :: more) =
      (tokenChunk operand c rest).before ('\n' :: more) := by
  unfold tokenChunk at terminated ⊢
  rw [startsDigits_append]
  split
  · exact wordChunk_append c rest more
  split
  · exact numeralChunk_append c rest more
  split
  · exact pointChunk_append rest more
  split
  · rename_i word digit point quoted
    rw [if_neg word, if_neg digit, if_neg point, if_pos quoted, stringChunk] at terminated
    rw [stringChunk, stringChunk]
    cases closed : closeString c rest with
    | none =>
        rw [closed] at terminated
        exact absurd rfl (terminated _)
    | some found =>
        obtain ⟨contents, source, after⟩ := found
        rw [closeString_append_of_some closed]
        rfl
  · exact markChunk_append c rest more

theorem firstChunk_eq_tokenChunk {operand : Bool} {c : Char} {rest : List Char}
    (not_blank : ¬ Text.isBlank c = true) (not_hash : c ≠ '#')
    (plain : ∀ text, c :: rest ≠ '-' :: '-' :: '>' :: text) :
    firstChunk operand c rest = tokenChunk operand c rest := by
  rw [firstChunk.eq_def, if_neg not_blank, if_neg not_hash]
  split
  · exact absurd rfl (plain _)
  · rfl

/-- A block comment is cut off at its closing mark. -/
theorem firstChunk_comment (operand : Bool) (text : List Char) :
    firstChunk operand '-' ('-' :: '>' :: text) =
      .skip ('-' :: '-' :: '>' :: (closeComment text).1) (closeComment text).2 :=
  rfl

/-- A line feed does not change the chunk before it, unless that is a string or a block comment that
reaches the end. -/
theorem firstChunk_append {operand : Bool} {c : Char} {rest : List Char} (more : List Char)
    (closed : startsOpenComment (c :: rest) = false)
    (terminated : ∀ text, (firstChunk operand c rest).meaning ≠ .token .unterminatedString text) :
    firstChunk operand c (rest ++ '\n' :: more) =
      (firstChunk operand c rest).before ('\n' :: more) := by
  by_cases blank : Text.isBlank c = true
  · rw [firstChunk.eq_def, firstChunk.eq_def, if_pos blank, if_pos blank]
    rfl
  by_cases hash : c = '#'
  · have stops : ('\n' != '\n') = false := rfl
    obtain ⟨taken, dropped⟩ := takeWhile_append_stop (fun c : Char => c != '\n') stops rest more
    rw [firstChunk.eq_def, firstChunk.eq_def, if_neg blank, if_neg blank, if_pos hash, if_pos hash, taken, dropped]
    rfl
  by_cases comment : ∃ text, c :: rest = '-' :: '-' :: '>' :: text
  · obtain ⟨text, same⟩ := comment
    cases same
    have closes : closesComment text = true := by simpa [startsOpenComment] using closed
    rw [List.cons_append, List.cons_append, firstChunk_comment, firstChunk_comment,
      closeComment_append_of_closes closes]
    rfl
  · have plain (text : List Char) : c :: rest ≠ '-' :: '-' :: '>' :: text :=
      fun same => comment ⟨text, same⟩
    have plain' (text : List Char) : c :: (rest ++ '\n' :: more) ≠ '-' :: '-' :: '>' :: text := by
      intro same
      cases rest with
      | nil => cases same
      | cons d rest =>
          cases rest with
          | nil => cases same
          | cons e rest =>
              cases same
              exact plain _ rfl
    rw [firstChunk_eq_tokenChunk blank hash plain] at terminated ⊢
    rw [firstChunk_eq_tokenChunk blank hash plain']
    exact tokenChunk_append more terminated

/-! ## The seam between two texts -/

/-- A limit beyond the number of characters does not change how a text ends. -/
theorem endingFrom_of_length_le {text : List Char} {limit : Nat} (enough : text.length ≤ limit)
    (operand : Bool) : endingFrom limit operand text = endingFrom text.length operand text := by
  induction operand, text using chunk_induction generalizing limit with
  | nil operand => cases limit <;> rfl
  | gap operand c rest meaning ih =>
      have cut := (firstChunk_cutsFrom operand c rest).rest_length_lt
      cases limit with
      | zero => cases enough
      | succ limit =>
          rw [List.length_cons] at cut enough ⊢
          have here := ih (Nat.le_of_lt_succ cut)
          have there := ih (Nat.le_trans (Nat.le_of_lt_succ cut) (Nat.le_of_succ_le_succ enough))
          simp only [endingFrom, meaning, here, there]
  | token operand c rest kind text meaning ih =>
      have cut := (firstChunk_cutsFrom operand c rest).rest_length_lt
      cases limit with
      | zero => cases enough
      | succ limit =>
          rw [List.length_cons] at cut enough ⊢
          have here := ih (Nat.le_of_lt_succ cut)
          have there := ih (Nat.le_trans (Nat.le_of_lt_succ cut) (Nat.le_of_succ_le_succ enough))
          simp only [endingFrom, meaning, here, there]

theorem endingFrom_cons (operand : Bool) (c : Char) (rest : List Char) :
    endingFrom (c :: rest).length operand (c :: rest) =
      if startsOpenComment (c :: rest) then .inComment
      else
        match (firstChunk operand c rest).meaning with
        | .gap => endingFrom (firstChunk operand c rest).rest.length operand
            (firstChunk operand c rest).rest
        | .token kind _ =>
          if kind = .unterminatedString then .inString
          else endingFrom (firstChunk operand c rest).rest.length kind.endsOperand
            (firstChunk operand c rest).rest := by
  have cut := Nat.le_of_lt_succ (firstChunk_cutsFrom operand c rest).rest_length_lt
  simp only [List.length_cons, endingFrom, endingFrom_of_length_le cut]

/-- Whether the next token comes after an operand. -/
def lastOperand (operand : Bool) (tokens : List Token) : Bool :=
  (tokens.getLast?.map (·.kind.endsOperand)).getD operand

theorem lastOperand_cons (operand : Bool) (token : Token) (tokens : List Token) :
    lastOperand operand (token :: tokens) = lastOperand token.kind.endsOperand tokens := by
  cases tokens with
  | nil => rfl
  | cons next tokens =>
      rw [lastOperand, lastOperand, List.getLast?_cons_cons]
      cases found : (next :: tokens).getLast? with
      | none => cases (List.getLast?_eq_none_iff.1 found)
      | some last => rfl

theorem dropLast_scanRest_cons (token : Token) (operand : Bool) (place : Place) (text : List Char) :
    (token :: scanRest operand place text).dropLast =
      token :: (scanRest operand place text).dropLast := by
  rw [scanRest_eq_append, List.dropLast_cons_of_ne_nil (by simp), List.dropLast_concat]

/-- What is left of a text before its last chunk, if that is not a whole one. -/
def Ending.Leaves (ending : Ending) (operand : Bool) (last : List Char) : Prop :=
  match ending with
  | .whole => last = []
  | .inString => ∃ c rest text, last = c :: rest ∧
      (firstChunk operand c rest).meaning = .token .unterminatedString text
  | .inComment => startsOpenComment last = true

/-- Up to a string or a block comment that reaches the end, a text has the same tokens whether it
stands alone or before a line feed. -/
theorem exists_scanRest_append (operand : Bool) (place : Place) (text : List Char) :
    ∃ tokens front last, text = front ++ last ∧
      (endingFrom text.length operand text).Leaves (lastOperand operand tokens) last ∧
      scanRest operand place text =
        tokens ++ scanRest (lastOperand operand tokens) (place.after front) last ∧
      ∀ more, scanRest operand place (text ++ '\n' :: more) =
        tokens ++ scanRest (lastOperand operand tokens) (place.after front) (last ++ '\n' :: more) := by
  induction operand, text using chunk_induction generalizing place with
  | nil operand => exact ⟨[], [], [], rfl, rfl, rfl, fun _ => rfl⟩
  | gap operand c rest meaning ih =>
      by_cases closed : startsOpenComment (c :: rest) = false
      · obtain ⟨tokens, front, last, parts, leaves, alone, joined⟩ :=
          ih (place.after (firstChunk operand c rest).source)
        refine ⟨tokens, (firstChunk operand c rest).source ++ front, last, ?_, ?_, ?_, ?_⟩
        · rw [List.append_assoc, ← parts, (firstChunk_cutsFrom operand c rest).2]
        · rw [endingFrom_cons, closed, meaning]
          exact leaves
        · rw [scanRest_gap rfl meaning, alone, Place.after_append]
        · intro more
          have chunk := firstChunk_append more closed (by rw [meaning]; nofun)
          rw [List.cons_append, scanRest_gap chunk meaning, Place.after_append]
          exact joined more
      · rw [Bool.not_eq_false] at closed
        refine ⟨[], [], c :: rest, rfl, ?_, rfl, fun _ => rfl⟩
        rw [endingFrom_cons, closed]
        exact closed
  | token operand c rest kind text meaning ih =>
      by_cases closed : startsOpenComment (c :: rest) = false
      · by_cases terminated : kind = .unterminatedString
        · subst terminated
          refine ⟨[], [], c :: rest, rfl, ?_, rfl, fun _ => rfl⟩
          rw [endingFrom_cons, closed, meaning]
          exact ⟨c, rest, text, rfl, meaning⟩
        · obtain ⟨tokens, front, last, parts, leaves, alone, joined⟩ :=
            ih (place.after (firstChunk operand c rest).source)
          refine ⟨{ kind, text, span := place.span (place.after (firstChunk operand c rest).source) } ::
            tokens, (firstChunk operand c rest).source ++ front, last, ?_, ?_, ?_, ?_⟩
          · rw [List.append_assoc, ← parts, (firstChunk_cutsFrom operand c rest).2]
          · rw [endingFrom_cons, closed, meaning, lastOperand_cons, if_neg Bool.false_ne_true]
            simp only [if_neg terminated]
            exact leaves
          · rw [scanRest_token rfl meaning, alone, lastOperand_cons, Place.after_append,
              List.cons_append]
          · intro more
            have chunk := firstChunk_append more closed
              (by rw [meaning]; rintro _ ⟨⟩; exact terminated rfl)
            rw [List.cons_append, scanRest_token chunk meaning, lastOperand_cons,
              Place.after_append, List.cons_append]
            exact congrArg _ (joined more)
      · rw [Bool.not_eq_false] at closed
        refine ⟨[], [], c :: rest, rfl, ?_, rfl, fun _ => rfl⟩
        rw [endingFrom_cons, closed]
        exact closed

/-- A text that ends with a whole chunk, a line feed and another text. -/
theorem scanRest_join {operand : Bool} {text : List Char}
    (whole : endingFrom text.length operand text = .whole) (place : Place) (more : List Char) :
    scanRest operand place (text ++ '\n' :: more) =
      (scanRest operand place text).dropLast ++
        scanRest (lastOperand operand (scanRest operand place text).dropLast)
          (place.after (text ++ ['\n'])) more := by
  obtain ⟨tokens, front, last, parts, leaves, alone, joined⟩ :=
    exists_scanRest_append operand place text
  rw [whole] at leaves
  obtain rfl : last = [] := leaves
  rw [List.append_nil] at parts
  subst parts
  have inner : (scanRest operand place text).dropLast = tokens := by
    rw [alone]
    exact List.dropLast_concat
  have newline : firstChunk (lastOperand operand tokens) '\n' more = .skip ['\n'] more := rfl
  rw [joined, inner, List.nil_append, scanRest_gap newline rfl, Place.after_append]
  rfl

theorem firstChunk_of_startsOpenComment (operand : Bool) {c : Char} {rest : List Char}
    (stays : startsOpenComment (c :: rest) = true) (more : List Char) :
    firstChunk operand c rest = .skip (c :: rest) [] ∧
      firstChunk operand c (rest ++ '\n' :: more) =
        .skip (c :: rest ++ '\n' :: (closeComment more).1) (closeComment more).2 := by
  unfold startsOpenComment at stays
  split at stays
  · rename_i text same
    cases same
    rw [Bool.not_eq_true'] at stays
    have comment (text : List Char) : firstChunk operand '-' ('-' :: '>' :: text) =
        .skip ('-' :: '-' :: '>' :: (closeComment text).1) (closeComment text).2 := rfl
    rw [List.cons_append, List.cons_append, comment, comment, closeComment_of_open stays,
      closeComment_append_of_open stays]
    exact ⟨rfl, rfl⟩
  · cases stays

/-- A text that ends inside a block comment: the comment goes on behind the line feed. -/
theorem scanRest_join_of_inComment {operand : Bool} {text : List Char}
    (open_comment : endingFrom text.length operand text = .inComment) (place : Place)
    (more : List Char) :
    scanRest operand place (text ++ '\n' :: more) =
      (scanRest operand place text).dropLast ++
        scanRest (lastOperand operand (scanRest operand place text).dropLast)
          (place.after (text ++ '\n' :: (closeComment more).1)) (closeComment more).2 := by
  obtain ⟨tokens, front, last, parts, leaves, alone, joined⟩ :=
    exists_scanRest_append operand place text
  rw [open_comment] at leaves
  cases last with
  | nil => cases leaves
  | cons c rest =>
      obtain ⟨chunk, chunk'⟩ :=
        firstChunk_of_startsOpenComment (lastOperand operand tokens) leaves more
      have inner : (scanRest operand place text).dropLast = tokens := by
        rw [alone, scanRest_gap chunk rfl]
        exact List.dropLast_concat
      rw [joined, inner, List.cons_append, scanRest_gap chunk' rfl, ← Place.after_append, parts]
      simp only [Chunk.skip, List.append_assoc]

/-- Only a quote starts a string. -/
theorem quote_of_unterminated {operand : Bool} {c : Char} {rest : List Char} {text : String}
    (meaning : (firstChunk operand c rest).meaning = .token .unterminatedString text) :
    c = '"' ∨ c = '\'' := by
  revert meaning
  unfold firstChunk
  split
  · nofun
  split
  · nofun
  split
  · nofun
  unfold tokenChunk
  split
  · intro meaning
    exact absurd (Meaning.token.inj meaning).1 (Kind.ofWord_ne _ rfl)
  split
  · unfold numeralChunk
    split
    · split <;> nofun
    · nofun
  split
  · nofun
  split
  · rename_i quoted
    intro _
    simpa using quoted
  · unfold markChunk
    split <;> nofun

theorem firstChunk_of_quote {c : Char} (quote : c = '"' ∨ c = '\'') (operand : Bool)
    (rest : List Char) : firstChunk operand c rest = stringChunk c rest := by
  rcases quote with rfl | rfl <;> rfl

theorem firstChunk_of_unterminated {operand : Bool} {c : Char} {rest : List Char} {text : String}
    (meaning : (firstChunk operand c rest).meaning = .token .unterminatedString text)
    (more : List Char) :
    (firstChunk operand c rest).rest = [] ∧ ∃ kind' text',
      (firstChunk operand c (rest ++ '\n' :: more)).meaning = .token kind' text' ∧
        (kind' = .unterminatedString → text' ≠ text) := by
  have quote := quote_of_unterminated meaning
  rw [firstChunk_of_quote quote, stringChunk] at meaning ⊢
  rw [firstChunk_of_quote quote, stringChunk]
  cases closed : closeString c rest with
  | some found =>
      rw [closed] at meaning
      cases meaning
  | none =>
      rw [closed] at meaning
      cases meaning
      refine ⟨rfl, ?_⟩
      cases closeString c (rest ++ '\n' :: more) with
      | some found => exact ⟨_, _, rfl, nofun⟩
      | none =>
          refine ⟨_, _, rfl, fun _ same => ?_⟩
          have lengths := congrArg (fun text : String => text.toList.length) same
          simp at lengths

/-- A text that ends inside a string: the string goes on behind the line feed. -/
theorem scanRest_join_of_inString {operand : Bool} {text : List Char}
    (open_string : endingFrom text.length operand text = .inString) (place : Place)
    (more : List Char) :
    ∃ front token token' later, (scanRest operand place text).dropLast = front ++ [token] ∧
      token.kind = .unterminatedString ∧
      scanRest operand place (text ++ '\n' :: more) = front ++ token' :: later ∧ token ≠ token' := by
  obtain ⟨tokens, front, last, parts, leaves, alone, joined⟩ :=
    exists_scanRest_append operand place text
  rw [open_string] at leaves
  obtain ⟨c, rest, content, rfl, meaning⟩ := leaves
  obtain ⟨nothing, kind', text', meaning', other⟩ := firstChunk_of_unterminated meaning more
  have joined := joined more
  rw [scanRest_token rfl meaning, nothing, List.append_cons] at alone
  rw [List.cons_append, scanRest_token rfl meaning'] at joined
  have inner := congrArg List.dropLast alone
  rw [show scanRest _ _ [] = [_] from rfl, List.dropLast_concat] at inner
  refine ⟨tokens, _, _, _, inner, rfl, joined, fun same => ?_⟩
  exact other (congrArg Token.kind same).symm (congrArg Token.text same).symm

/-! ## Source texts -/

/-- The tokens of a source text without the one that marks its end. -/
def inner (source : String) : List Token :=
  (scan source).dropLast

theorem scan_eq_append (source : String) :
    scan source = inner source ++ [finishAt (Place.start.after source.toList)] :=
  scanRest_eq_append false .start source.toList

theorem finishAt_mem_scan (source : String) :
    finishAt (Place.start.after source.toList) ∈ scan source := by
  rw [scan_eq_append]
  exact List.mem_append_right _ (List.mem_singleton_self _)

theorem kind_ne_finish_of_mem_inner {source : String} {token : Token}
    (member : token ∈ inner source) : token.kind ≠ .finish :=
  kind_ne_finish_of_mem member

theorem stop_le_of_mem_inner {source : String} {token : Token} (member : token ∈ inner source) :
    token.span.stop ≤ source.utf8ByteSize := by
  have scanned : token ∈ scan source := by
    rw [scan_eq_append]
    exact List.mem_append_left _ member
  rw [← Place.offset_start_after]
  exact (scanRest_bounds scanned).2

theorem toList_append_line (first second : String) :
    (first ++ "\n" ++ second).toList = first.toList ++ '\n' :: second.toList := by
  rw [String.toList_append, String.toList_append, List.append_assoc]
  rfl

/-- The place after some lines and the line feed behind them. -/
theorem size_lt_after (source : String) (text : List Char) :
    source.utf8ByteSize < (Place.start.after (source.toList ++ '\n' :: text)).offset := by
  rw [← Place.offset_start_after source, Place.after_append]
  exact Place.offset_lt_after _ (List.cons_ne_nil _ _)

/-- If more lines leave the tokens of a text as they are, their own tokens do not touch it. -/
theorem size_lt_start_of_scan_eq_append {source lines : String} {back : List Token}
    (kept : inner source ++ back = scan (source ++ "\n" ++ lines)) {token : Token}
    (member : token ∈ back) : source.utf8ByteSize < token.span.start := by
  have scanned : scan (source ++ "\n" ++ lines) =
      scanRest false .start (source.toList ++ '\n' :: lines.toList) := by
    rw [← toList_append_line]
    rfl
  rw [scanned] at kept
  cases ends : ending source with
  | whole =>
      rw [scanRest_join ends .start lines.toList] at kept
      have same := List.append_cancel_left kept
      rw [same] at member
      exact Nat.lt_of_lt_of_le (size_lt_after source []) (scanRest_bounds member).1
  | inComment =>
      rw [scanRest_join_of_inComment ends .start lines.toList] at kept
      have same := List.append_cancel_left kept
      rw [same] at member
      exact Nat.lt_of_lt_of_le (size_lt_after source _) (scanRest_bounds member).1
  | inString =>
      obtain ⟨front, last, last', later, alone, _, joined, other⟩ :=
        scanRest_join_of_inString ends .start lines.toList
      have front_eq : inner source = front ++ [last] := alone
      rw [joined, front_eq, List.append_assoc] at kept
      have heads := List.append_cancel_left kept
      exact absurd (List.cons.inj heads).1 other

end Token
end DotScript
