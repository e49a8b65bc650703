import DotScript.Proofs.Source.Gaps
import DotScript.Proofs.Source.Places
import Mathlib.Data.List.TakeWhile
import Mathlib.Data.String.Basic

/-!
# Scanning loses nothing

A source text is made up of its tokens and of the gaps around them: `tiles_scanRest` reads every
text as gaps and tokens in turn, each token written as its kind and its text say.  As places go along
with the text, the offsets of the tokens find their characters and the gaps again in the source.
-/

namespace DotScript

/-- The characters between two offsets of a source text. -/
def charsBetween (source : String) (first last : Nat) : List Char :=
  (String.Pos.Raw.extract source ⟨first⟩ ⟨last⟩).toList

theorem charsBetween_after (front part back : List Char) :
    charsBetween (String.ofList (front ++ (part ++ back))) (Place.start.after front).offset
      ((Place.start.after front).after part).offset = part := by
  have sizes (text : List Char) : (Place.start.after text).offset = String.utf8Len text := by
    rw [Place.offset_start_after_chars, String.utf8ByteSize_ofList]
  rw [← Place.after_append, sizes, sizes, String.utf8Len_append, ← List.append_assoc, charsBetween,
    String.extract_of_valid, String.toList_ofList]

namespace Token

/-- The mark that opens a block comment. -/
def commentOpening : List Char := ['-', '-', '>']

/-- The mark that closes a block comment. -/
def commentClosing : List Char := ['<', '-', '-']

/-- White space and comments.  A line comment reaches up to a line feed and a block comment to its
first closing mark. -/
inductive IsGap : List Char → Prop
  | nothing : IsGap []
  | blank {c : Char} {rest : List Char} (blank : Text.isBlank c = true) (later : IsGap rest) :
      IsGap (c :: rest)
  | lineComment {comment rest : List Char} (one_line : '\n' ∉ comment) (later : IsGap rest) :
      IsGap ('#' :: comment ++ '\n' :: rest)
  | blockComment {comment rest : List Char} (inside : ¬ commentClosing <:+: comment)
      (later : IsGap rest) : IsGap (commentOpening ++ comment ++ commentClosing ++ rest)

/-- A comment that reaches to the end of the source. -/
inductive IsOpenComment : List Char → Prop
  | line {comment : List Char} (one_line : '\n' ∉ comment) : IsOpenComment ('#' :: comment)
  | block {comment : List Char} (inside : ¬ commentClosing <:+: comment) :
      IsOpenComment (commentOpening ++ comment)

/-- White space and comments before the end of the source, where the last comment may be open. -/
inductive IsLastGap : List Char → Prop
  | closed {gap : List Char} (closed : IsGap gap) : IsLastGap gap
  | ofOpen {gap comment : List Char} (closed : IsGap gap) (opened : IsOpenComment comment) :
      IsLastGap (gap ++ comment)

/-- What stands between two quotes, and the contents it is written for. -/
inductive Quotes (quote : Char) : List Char → List Char → Prop
  | nothing : Quotes quote [] []
  | escaped {c : Char} {body contents : List Char} (later : Quotes quote body contents) :
      Quotes quote ('\\' :: c :: body) (unescape c :: contents)
  | plain {c : Char} {body contents : List Char} (no_quote : c ≠ quote) (no_escape : c ≠ '\\')
      (later : Quotes quote body contents) : Quotes quote (c :: body) (c :: contents)

/-- How a token of some kind and text is written: a number may have underscores, a string has quotes
and escapes, and any other token is its own text. -/
inductive IsWritten : Kind → String → List Char → Prop
  | number {kind : Kind} {written : List Char} (number : kind = .int ∨ kind = .float) :
      IsWritten kind (String.ofList (written.filter (· != '_'))) written
  | string {quote : Char} {body contents : List Char} (quote_mark : quote = '"' ∨ quote = '\'')
      (quotes : Quotes quote body contents) :
      IsWritten .string (String.ofList contents) (quote :: (body ++ [quote]))
  | plain {kind : Kind} {written : List Char}
      (other : kind ≠ .int ∧ kind ≠ .float ∧ kind ≠ .string) :
      IsWritten kind (String.ofList written) written

/-! ## Tokens -/

/-- The chunk is a token that is written as it should be.  Only a string without an end takes the
whole text. -/
def Chunk.IsToken (chunk : Chunk) : Prop :=
  ∃ kind text, chunk.meaning = .token kind text ∧ IsWritten kind text chunk.source ∧
    (kind = .unterminatedString → chunk.rest = [])

theorem Chunk.isToken_plain {kind : Kind} (source rest : List Char)
    (other : kind ≠ .int ∧ kind ≠ .float ∧ kind ≠ .string) (closed : kind ≠ .unterminatedString) :
    (Chunk.plain kind source rest).IsToken :=
  ⟨kind, _, rfl, .plain other, fun open_string => absurd open_string closed⟩

theorem isToken_numberChunk {kind : Kind} (source rest : List Char)
    (number : kind = .int ∨ kind = .float) : (numberChunk kind source rest).IsToken := by
  refine ⟨kind, _, rfl, .number number, ?_⟩
  rintro rfl
  cases number <;> contradiction

theorem isToken_numeralChunk (c : Char) (rest : List Char) : (numeralChunk c rest).IsToken := by
  unfold numeralChunk
  split
  · split
    · exact isToken_numberChunk _ _ (.inr rfl)
    · exact isToken_numberChunk _ _ (.inl rfl)
  · exact isToken_numberChunk _ _ (.inl rfl)

theorem exists_quotes {quote : Char} {text contents source after : List Char}
    (closed : closeString quote text = some (contents, source, after)) :
    ∃ body, source = body ++ [quote] ∧ Quotes quote body contents := by
  fun_induction closeString quote text generalizing contents source after with
  | case1 => cases closed
  | case2 =>
      cases closed
      exact ⟨[], rfl, .nothing⟩
  | case3 => cases closed
  | case4 no_quote c rest ih =>
      obtain ⟨⟨_, _, _⟩, inner, same⟩ := Option.map_eq_some_iff.1 closed
      cases same
      obtain ⟨body, rfl, quotes⟩ := ih inner
      exact ⟨_, rfl, .escaped quotes⟩
  | case5 c rest no_quote no_escape ih =>
      obtain ⟨⟨_, _, _⟩, inner, same⟩ := Option.map_eq_some_iff.1 closed
      cases same
      obtain ⟨body, rfl, quotes⟩ := ih inner
      exact ⟨_, rfl, .plain no_quote no_escape quotes⟩

theorem isToken_stringChunk {quote : Char} (quote_mark : quote = '"' ∨ quote = '\'')
    (rest : List Char) : (stringChunk quote rest).IsToken := by
  unfold stringChunk
  split
  next contents source after closed =>
    obtain ⟨body, rfl, quotes⟩ := exists_quotes closed
    exact ⟨.string, _, rfl, .string quote_mark quotes, nofun⟩
  next =>
    exact ⟨.unterminatedString, _, rfl, .plain ⟨nofun, nofun, nofun⟩, fun _ => rfl⟩

theorem isToken_markChunk (c : Char) (rest : List Char) : (markChunk c rest).IsToken := by
  unfold markChunk
  split <;> exact Chunk.isToken_plain _ _ ⟨nofun, nofun, nofun⟩ nofun

theorem isToken_tokenChunk (operand : Bool) (c : Char) (rest : List Char) :
    (tokenChunk operand c rest).IsToken := by
  unfold tokenChunk
  split
  · have other {kind : Kind} (no_word : kind.isWord = false) := Kind.ofWord_ne
      (String.ofList (c :: rest.takeWhile continuesName)) no_word
    exact Chunk.isToken_plain _ _ ⟨other rfl, other rfl, other rfl⟩ (other rfl)
  split
  · exact isToken_numeralChunk c rest
  split
  · exact isToken_numberChunk _ _ (.inr rfl)
  split
  next quoted => exact isToken_stringChunk (by simpa using quoted) rest
  next => exact isToken_markChunk c rest

theorem isToken_firstChunk {operand : Bool} {c : Char} {rest : List Char} {kind : Kind}
    {text : String} (meaning : (firstChunk operand c rest).meaning = .token kind text) :
    (firstChunk operand c rest).IsToken := by
  revert meaning
  unfold firstChunk
  split
  · nofun
  split
  · nofun
  split
  · nofun
  · exact fun _ => isToken_tokenChunk operand c rest

/-! ## Gaps -/

/-- A comment goes up to its first closing mark, or takes the whole text if there is none. -/
theorem closeComment_cases (text : List Char) :
    (∃ comment, ¬ commentClosing <:+: comment ∧ (closeComment text).1 = comment ++ commentClosing) ∨
      ¬ commentClosing <:+: text ∧ closeComment text = (text, []) := by
  have none_in_nothing : ¬ commentClosing <:+: [] := by
    rw [List.infix_nil]
    exact List.cons_ne_nil _ _
  fun_induction closeComment text with
  | case1 => exact .inr ⟨none_in_nothing, rfl⟩
  | case2 rest => exact .inl ⟨[], none_in_nothing, rfl⟩
  | case3 c rest no_mark source after found ih =>
      have here {text : List Char} (part : text <+: rest) : ¬ commentClosing <+: c :: text := by
        rintro ⟨more, same⟩
        obtain ⟨tail, rfl⟩ := part
        cases same
        exact no_mark _ rfl rfl
      have parts := closeComment_append rest
      rw [found] at ih parts
      rcases ih with ⟨comment, inside, closed⟩ | ⟨inside, whole⟩
      · have front : comment <+: rest :=
          parts ▸ (closed ▸ List.prefix_append comment _).trans (List.prefix_append _ _)
        refine .inl ⟨c :: comment, ?_, congrArg (c :: ·) closed⟩
        rw [List.infix_cons_iff]
        exact not_or.2 ⟨here front, inside⟩
      · cases whole
        rw [List.infix_cons_iff]
        exact .inr ⟨not_or.2 ⟨here (List.prefix_refl _), inside⟩, rfl⟩

/-- A text that starts with a gap goes on after some white space or a closed comment, or is an open
comment. -/
theorem exists_skipped {operand : Bool} {c : Char} {rest : List Char}
    (gap : (firstChunk operand c rest).meaning = .gap) :
    (∃ skipped more, c :: rest = skipped ++ more ∧ more.length ≤ rest.length ∧
      (∀ later, IsGap later → IsGap (skipped ++ later)) ∧
      ∀ place, scanRest operand place (c :: rest) = scanRest operand (place.after skipped) more) ∨
    IsOpenComment (c :: rest) ∧
      ∀ place, scanRest operand place (c :: rest) = [finishAt (place.after (c :: rest))] := by
  by_cases blank : Text.isBlank c = true
  · refine .inl ⟨[c], rest, rfl, Nat.le_refl _, fun _ => .blank blank, fun place => ?_⟩
    rw [scanRest_gap (firstChunk_blank operand blank rest) rfl]
    rfl
  by_cases hash : c = '#'
  · subst hash
    have parts := List.takeWhile_append_dropWhile (p := (· != '\n')) (l := rest)
    have one_line : '\n' ∉ rest.takeWhile (· != '\n') := by
      intro member
      have kept := List.mem_takeWhile_imp member
      simp at kept
    have cut : firstChunk operand '#' rest =
        .skip ('#' :: rest.takeWhile (· != '\n')) (rest.dropWhile (· != '\n')) := rfl
    cases after : rest.dropWhile (· != '\n') with
    | nil =>
        rw [after, List.append_nil] at parts
        refine .inr ⟨.line (parts ▸ one_line), fun place => ?_⟩
        rw [scanRest_gap cut rfl]
        simp only [Chunk.skip, after, parts]
        rfl
    | cons feed more =>
        obtain rfl : feed = '\n' := by
          have stops := List.head?_dropWhile_not (· != '\n') rest
          rw [after] at stops
          simpa using stops
        rw [after] at parts
        refine .inl ⟨'#' :: rest.takeWhile (· != '\n') ++ ['\n'], more, ?_, ?_, ?_, fun place => ?_⟩
        · rw [List.append_assoc, List.singleton_append, List.cons_append, parts]
        · have sizes := congrArg List.length parts
          rw [List.length_append, List.length_cons] at sizes
          omega
        · intro later gap
          rw [List.append_assoc, List.singleton_append]
          exact .lineComment one_line gap
        · have feed_blank : Text.isBlank '\n' = true := rfl
          rw [scanRest_gap cut rfl, Place.after_append]
          simp only [Chunk.skip, after]
          rw [scanRest_gap (firstChunk_blank operand feed_blank more) rfl]
          rfl
  by_cases comment : ∃ text, c :: rest = '-' :: '-' :: '>' :: text
  · obtain ⟨text, same⟩ := comment
    cases same
    have cut := firstChunk_comment operand text
    have parts := closeComment_append text
    rcases closeComment_cases text with ⟨comment, inside, closed⟩ | ⟨inside, whole⟩
    · refine .inl ⟨commentOpening ++ comment ++ commentClosing, (closeComment text).2, ?_, ?_, ?_,
        fun place => ?_⟩
      · rw [List.append_assoc commentOpening, ← closed, List.append_assoc, parts]
        rfl
      · have sizes := congrArg List.length parts
        rw [List.length_append] at sizes
        simp only [List.length_cons]
        omega
      · intro later gap
        exact .blockComment inside gap
      · rw [scanRest_gap cut rfl, List.append_assoc, ← closed]
        rfl
    · refine .inr ⟨.block inside, fun place => ?_⟩
      rw [scanRest_gap cut rfl, whole]
      rfl
  · rw [firstChunk_eq_tokenChunk blank hash (not_exists.1 comment)] at gap
    obtain ⟨_, _, meaning, _⟩ := isToken_tokenChunk operand c rest
    rw [meaning] at gap
    cases gap

/-! ## Gaps and tokens in turn -/

/-- The text is made up of gaps and of the tokens between them; it starts at a place, and the last
token marks its end. -/
inductive Tiles : Place → List Char → List Token → Prop
  | finish {place : Place} {gap : List Char} (last : IsLastGap gap) :
      Tiles place gap [finishAt (place.after gap)]
  | token {place : Place} {gap source rest : List Char} {token : Token} {tokens : List Token}
      (closed : IsGap gap) (inner : token.kind ≠ .finish)
      (written : IsWritten token.kind token.text source)
      (span : token.span = (place.after gap).span ((place.after gap).after source))
      (whole : token.kind = .unterminatedString → rest = [])
      (later : Tiles ((place.after gap).after source) rest tokens) :
      Tiles place (gap ++ (source ++ rest)) (token :: tokens)

/-- What goes on with a gap may stand in front. -/
theorem Tiles.prepend {place : Place} {skipped text : List Char} {tokens : List Token}
    (goes_on : ∀ later, IsGap later → IsGap (skipped ++ later))
    (tiles : Tiles (place.after skipped) text tokens) : Tiles place (skipped ++ text) tokens := by
  cases tiles with
  | finish last =>
      rw [← Place.after_append]
      refine .finish ?_
      cases last with
      | closed closed => exact .closed (goes_on _ closed)
      | ofOpen closed opened =>
          rw [← List.append_assoc]
          exact .ofOpen (goes_on _ closed) opened
  | token closed inner written span whole later =>
      rw [← Place.after_append place skipped] at span later
      rw [← List.append_assoc]
      exact .token (goes_on _ closed) inner written span whole later

/-- Scanning cuts a text into gaps and tokens. -/
theorem tiles_scanRest (operand : Bool) (place : Place) (text : List Char) :
    Tiles place text (scanRest operand place text) := by
  induction size : text.length using Nat.strongRecOn generalizing operand place text with
  | ind size ih =>
      subst size
      cases text with
      | nil => exact .finish (.closed .nothing)
      | cons c rest =>
          cases meaning : (firstChunk operand c rest).meaning with
          | gap =>
              rcases exists_skipped meaning with ⟨skipped, more, parts, shorter, goes_on, scanned⟩ |
                ⟨opened, scanned⟩
              · rw [scanned, parts]
                exact .prepend goes_on (ih _ (Nat.lt_succ_of_le shorter) _ _ _ rfl)
              · rw [scanned]
                exact .finish (.ofOpen .nothing opened)
          | token kind text =>
              obtain ⟨kind', text', meaning', written, whole⟩ := isToken_firstChunk meaning
              obtain ⟨rfl, rfl⟩ := Meaning.token.inj (meaning.symm.trans meaning')
              have cut := firstChunk_cutsFrom operand c rest
              have tiles : Tiles (place.after (firstChunk operand c rest).source) _ _ :=
                ih _ cut.rest_length_lt kind.endsOperand _ _ rfl
              rw [scanRest_token rfl meaning, ← cut.2]
              exact @Tiles.token _ [] _ _ ⟨kind, text, _⟩ _ .nothing (kind_ne_finish_of_meaning meaning)
                written rfl whole tiles

/-! ## Offsets in the source -/

/-- From an offset on, and from the end of each token on, there is only a gap before the next token;
before the token that marks the end, the gap may be open. -/
def GapsBetween (source : String) : Nat → List Token → Prop
  | _, [] => True
  | offset, token :: tokens =>
    (if token.kind = .finish then IsLastGap else IsGap)
        (charsBetween source offset token.span.start) ∧
      GapsBetween source token.span.stop tokens

/-- The tokens of the rest of a text are written in the whole text where their spans say, and only
gaps are between them. -/
theorem Tiles.inSource {front text : List Char} {tokens : List Token}
    (tiles : Tiles (Place.start.after front) text tokens) :
    (∀ token ∈ tokens,
      IsWritten token.kind token.text
          (charsBetween (String.ofList (front ++ text)) token.span.start token.span.stop) ∧
        (token.kind = .unterminatedString →
          token.span.stop = (String.ofList (front ++ text)).utf8ByteSize)) ∧
      GapsBetween (String.ofList (front ++ text)) (Place.start.after front).offset tokens := by
  generalize start : Place.start.after front = place at tiles
  induction tiles generalizing front with
  | @finish place gap last =>
      subst start
      have gap_chars := charsBetween_after front gap []
      have no_chars := charsBetween_after (front ++ gap) [] []
      rw [List.append_nil] at gap_chars
      rw [Place.after_append, List.append_nil, List.append_nil, Place.after_nil] at no_chars
      refine ⟨fun token member => ?_, ?_, trivial⟩
      · obtain rfl := List.mem_singleton.1 member
        refine ⟨?_, fun unterminated => by cases unterminated⟩
        simp only [finishAt, Place.span, no_chars]
        exact .plain ⟨by decide, by decide, by decide⟩
      · simp only [finishAt, Place.span, gap_chars]
        exact last
  | @token place gap source rest token tokens closed inner written span whole later ih =>
      subst start
      have parts : front ++ (gap ++ (source ++ rest)) = (front ++ gap ++ source) ++ rest := by
        simp only [List.append_assoc]
      have gap_chars := charsBetween_after front gap (source ++ rest)
      have token_chars := charsBetween_after (front ++ gap) source rest
      rw [Place.after_append, List.append_assoc] at token_chars
      have next_place : Place.start.after (front ++ gap ++ source) =
          ((Place.start.after front).after gap).after source := by
        rw [Place.after_append, Place.after_append]
      obtain ⟨later_written, later_gaps⟩ := ih next_place
      rw [← parts] at later_written later_gaps
      have stop : token.span.stop = (((Place.start.after front).after gap).after source).offset := by
        rw [span]
        rfl
      refine ⟨List.forall_mem_cons.2 ⟨⟨?_, fun unterminated => ?_⟩, later_written⟩, ?_, ?_⟩
      · rw [span]
        simp only [Place.span, token_chars]
        exact written
      · rw [stop, whole unterminated, List.append_nil, ← Place.after_append, ← Place.after_append,
          Place.offset_start_after_chars]
      · rw [if_neg inner, span]
        simp only [Place.span, gap_chars]
        exact closed
      · rw [stop]
        exact later_gaps

/-- Scanning loses nothing.  A source text is cut into tokens that have a character at least, stand
in order between characters of the text, carry their lines and are written there as they say, and into
white space and comments around them; the mark of the end comes last.  A string without an end and a
comment that is not closed reach to the end. -/
theorem scanning_loses_nothing (source : String) :
    ∃ tokens finish, scan source = tokens ++ [finish] ∧
      finish.kind = .finish ∧ finish.span.start = source.utf8ByteSize ∧
      finish.span.stop = source.utf8ByteSize ∧
      (∀ token ∈ tokens, token.kind ≠ .finish ∧ token.span.start < token.span.stop) ∧
      (∀ token ∈ scan source, token.span.LiesIn source ∧
        IsWritten token.kind token.text
          (charsBetween source token.span.start token.span.stop) ∧
        (token.kind = .unterminatedString → token.span.stop = source.utf8ByteSize)) ∧
      (scan source).Pairwise (fun first second => first.span.stop ≤ second.span.start) ∧
      GapsBetween source 0 (scan source) := by
  have inner (token : Token) (member : token ∈ inner source) : token.kind ≠ .finish :=
    kind_ne_finish_of_mem_inner member
  have whole : String.ofList ([] ++ source.toList) = source := String.ofList_toList
  have tiles : Tiles (Place.start.after []) source.toList (scan source) :=
    tiles_scanRest false .start source.toList
  obtain ⟨written, gaps⟩ := tiles.inSource
  rw [whole] at written gaps
  refine ⟨_, _, scan_eq_append source, rfl, Place.offset_start_after source,
    Place.offset_start_after source, fun token member => ⟨inner token member, ?_⟩,
    fun token member => ⟨liesIn_of_mem_scan member, written token member⟩,
    pairwise_scanRest false .start source.toList, gaps⟩
  have scanned : token ∈ scan source := by
    rw [scan_eq_append]
    exact List.mem_append_left _ member
  exact (start_lt_stop_of_mem scanned).2 (inner token member)

-- the line comment ends at the line feed, and the string without an end has its quote in its text
example : scan "1_0#b\n'c" =
    [⟨.int, "10", ⟨0, 3, 1⟩⟩, ⟨.unterminatedString, "'c", ⟨6, 8, 2⟩⟩, ⟨.finish, "", ⟨8, 8, 2⟩⟩] := by
  decide +kernel

end Token
end DotScript
