import DotScript.Proofs.Source.Joining
import Mathlib.Data.List.Pairwise

/-!
# Blanks before a token

A chunk is known by its characters and by the character that comes after it.  A blank goes on with no
chunk, so a chunk stays the same if blanks are put behind it, and the tokens from there on are the
same tokens further down: `scan_insert`.
-/

namespace DotScript

namespace Text

/-- The code points of a range. -/
def CodeRange.codes (range : CodeRange) : List Nat :=
  List.range' range.first (range.last + 1 - range.first)

/-- The code points of white space. -/
def blankCodes : List Nat :=
  [9, 10, 11, 12, 13, 32] ++ blankRanges.flatMap CodeRange.codes

theorem mem_blankCodes {c : Char} (blank : isBlank c = true) : c.toNat ∈ blankCodes := by
  unfold isBlank at blank
  split at blank
  next =>
    simp only [Bool.or_eq_true, decide_eq_true_eq, Bool.and_eq_true] at blank
    refine List.mem_append_left _ ?_
    rcases blank with rfl | ⟨low, high⟩
    · decide
    · simp only [List.mem_cons, List.not_mem_nil, or_false]
      omega
  next =>
    obtain ⟨range, member, inside⟩ := List.any_eq_true.1 blank
    refine List.mem_append_right _ (List.mem_flatMap.2 ⟨range, member, ?_⟩)
    simp only [CodeRange.contains, Bool.and_eq_true, decide_eq_true_eq] at inside
    rw [CodeRange.codes, List.mem_range'_1]
    omega

/-- What holds for the code points of white space holds for white space. -/
theorem of_blankCodes (property : Char → Prop)
    (codes : ∀ code ∈ blankCodes, property (Char.ofNat code)) {c : Char}
    (blank : isBlank c = true) : property c := by
  have holds := codes c.toNat (mem_blankCodes blank)
  rwa [Char.ofNat_toNat] at holds

end Text

/-- Text moves a place down by its bytes and lines. -/
theorem Place.exists_after_eq_shift (text : List Char) :
    ∃ bytes lines, ∀ place : Place, place.after text = place.shift bytes lines := by
  induction text with
  | nil => exact ⟨0, 0, fun _ => rfl⟩
  | cons c text ih =>
      obtain ⟨bytes, lines, moved⟩ := ih
      refine ⟨c.utf8Size + bytes, (if c = '\n' then 1 else 0) + lines, fun place => ?_⟩
      have step : place.after (c :: text) = (place.next c).after text := rfl
      rw [step, moved]
      simp only [next, shift, Place.mk.injEq]
      split <;> omega

/-- The span in a text into which some bytes and lines were put at an offset.  A span that ends there
stays as it is, and one that begins there moves. -/
def Span.insert (offset bytes lines : Nat) (span : Span) : Span where
  start := if offset ≤ span.start then span.start + bytes else span.start
  stop := if offset < span.stop then span.stop + bytes else span.stop
  line := if offset ≤ span.start then span.line + lines else span.line

theorem Span.insert_to (offset bytes lines : Nat) (first last : Span) :
    (first.to last).insert offset bytes lines =
      (first.insert offset bytes lines).to (last.insert offset bytes lines) := by
  have stop : (if offset < max last.stop first.stop then max last.stop first.stop + bytes
      else max last.stop first.stop) =
      max (if offset < last.stop then last.stop + bytes else last.stop)
        (if offset < first.stop then first.stop + bytes else first.stop) := by
    split <;> split <;> split <;> omega
  exact congrArg (fun stop => Span.mk _ stop _) stop

/-- A span that ends before the offset stays as it is. -/
theorem Span.insert_of_stop_le {offset : Nat} {first last : Place}
    (some_span : first.offset < last.offset) (ends : last.offset ≤ offset) (bytes lines : Nat) :
    (first.span last).insert offset bytes lines = first.span last := by
  have starts : ¬ offset ≤ first.offset := by omega
  have stops : ¬ offset < last.offset := Nat.not_lt.2 ends
  simp [Place.span, Span.insert, starts, stops]

namespace Token

open Text

section Blanks

variable {b : Char} (blank : isBlank b = true)

include blank

theorem continuesName_blank : continuesName b = false :=
  of_blankCodes (fun b => continuesName b = false) (by decide +kernel) blank

theorem continuesDigits_blank : continuesDigits b = false :=
  of_blankCodes (fun b => continuesDigits b = false) (by decide +kernel) blank

theorem isDigit_blank : b.isDigit = false :=
  of_blankCodes (fun b => b.isDigit = false) (by decide +kernel) blank

/-- No mark goes on with a blank. -/
theorem not_mem_secondMarks_blank : b ∉ secondMarks :=
  of_blankCodes (· ∉ secondMarks) (by decide +kernel) blank

end Blanks

/-! ## A blank after a chunk -/

/-- The second text is the first one up to a character that is no blank; there it has a blank, and
anything after it. -/
inductive Interrupts : List Char → List Char → Prop
  | here {c b : Char} {rest more : List Char} :
      isBlank c = false → isBlank b = true → Interrupts (c :: rest) (b :: more)
  | later {c : Char} {rest rest' : List Char} :
      Interrupts rest rest' → Interrupts (c :: rest) (c :: rest')

namespace Interrupts

theorem append {text text' : List Char} (interrupts : Interrupts text text') (front : List Char) :
    Interrupts (front ++ text) (front ++ text') := by
  induction front with
  | nil => exact interrupts
  | cons c front ih => exact .later ih

variable {text text' : List Char}

/-- Characters other than blanks at the start of the second text are those of the first one. -/
theorem cons_eq {c : Char} {more : List Char} (interrupts : Interrupts text (c :: more))
    (not_blank : isBlank c = false) : ∃ rest, text = c :: rest ∧ Interrupts rest more := by
  cases interrupts with
  | here _ blank => simp [not_blank] at blank
  | later rest => exact ⟨_, rfl, rest⟩

/-- What does not go on in the first text does not go on in the second one. -/
theorem takeWhile_append {continues : Char → Bool}
    (stops : ∀ c b, continues c = false → isBlank c = false → isBlank b = true →
      continues b = false)
    (interrupts : Interrupts (text.dropWhile continues) text') :
    (text.takeWhile continues ++ text').takeWhile continues = text.takeWhile continues ∧
      (text.takeWhile continues ++ text').dropWhile continues = text' := by
  have inside : ∀ c ∈ text.takeWhile continues, continues c = true :=
    List.all_eq_true.1 List.all_takeWhile
  have outside : text'.takeWhile continues = [] ∧ text'.dropWhile continues = text' := by
    cases found : text.dropWhile continues with
    | nil =>
        rw [found] at interrupts
        cases interrupts
    | cons c rest =>
        have stopped : continues c = false := by
          have some_left : text.dropWhile continues ≠ [] := by
            rw [found]
            exact List.cons_ne_nil _ _
          simpa [found] using List.head_dropWhile_not continues some_left
        rw [found] at interrupts
        cases interrupts with
        | here plain blank => simp [stops _ _ stopped plain blank]
        | later _ => simp [stopped]
  rw [List.takeWhile_append_of_pos inside, List.dropWhile_append_of_pos inside, outside.1, outside.2,
    List.append_nil]
  exact ⟨rfl, rfl⟩

end Interrupts

/-- What a chunk leaves may be interrupted: the same characters in front of the other text are the
same chunk. -/
def Chunk.Stands (chunk : Chunk) (cut : List Char → Chunk) : Prop :=
  ∀ inner rest', chunk.source.tail = inner → Interrupts chunk.rest rest' →
    cut (inner ++ rest') = { chunk with rest := rest' }

theorem wordChunk_stands (c : Char) (rest : List Char) :
    (wordChunk c rest).Stands (wordChunk c) := by
  rintro _ rest' rfl interrupts
  obtain ⟨taken, dropped⟩ := interrupts.takeWhile_append fun _ _ _ _ => continuesName_blank
  simp only [wordChunk, List.tail_cons, taken, dropped]

theorem pointChunk_stands (rest : List Char) : (pointChunk rest).Stands pointChunk := by
  rintro _ rest' rfl interrupts
  obtain ⟨taken, dropped⟩ := interrupts.takeWhile_append fun _ _ _ _ => continuesDigits_blank
  simp only [pointChunk, numberChunk, List.tail_cons, taken, dropped]

/-- A point ends the digits before it. -/
theorem digits_point (rest tail : List Char) :
    (rest.takeWhile continuesDigits ++ '.' :: tail).takeWhile continuesDigits =
        rest.takeWhile continuesDigits ∧
      (rest.takeWhile continuesDigits ++ '.' :: tail).dropWhile continuesDigits = '.' :: tail := by
  have inside : ∀ c ∈ rest.takeWhile continuesDigits, continuesDigits c = true :=
    List.all_eq_true.1 List.all_takeWhile
  have stops : continuesDigits '.' = false := rfl
  rw [List.takeWhile_append_of_pos inside, List.dropWhile_append_of_pos inside]
  simp [stops]

theorem numeralChunk_stands (c : Char) (rest : List Char) :
    (numeralChunk c rest).Stands (numeralChunk c) := by
  rintro _ rest' rfl interrupts
  rcases fraction_or_plain (rest.dropWhile continuesDigits) with ⟨d, more, found, digit⟩ | plain
  · rw [numeralChunk_fraction found digit] at interrupts ⊢
    have first : continuesDigits d = true := by simp [continuesDigits, digit]
    obtain ⟨taken, dropped⟩ := interrupts.takeWhile_append fun _ _ _ _ => continuesDigits_blank
    rw [List.takeWhile_cons_of_pos first, List.cons_append] at taken dropped
    have parts : (numberChunk .float
        (c :: rest.takeWhile continuesDigits ++ '.' :: (d :: more).takeWhile continuesDigits)
        ((d :: more).dropWhile continuesDigits)).source.tail ++ rest' =
        rest.takeWhile continuesDigits ++ '.' :: d :: (more.takeWhile continuesDigits ++ rest') := by
      simp [numberChunk, first]
    obtain ⟨digits, left⟩ := digits_point rest (d :: (more.takeWhile continuesDigits ++ rest'))
    rw [parts, numeralChunk_fraction left digit, digits, taken, dropped,
      List.takeWhile_cons_of_pos first]
    rfl
  · rw [numeralChunk_eq plain] at interrupts ⊢
    obtain ⟨taken, dropped⟩ := interrupts.takeWhile_append fun _ _ _ _ => continuesDigits_blank
    have plain' : ∀ d more, rest' = '.' :: d :: more → d.isDigit = false := by
      rintro d more rfl
      obtain ⟨after, found, interrupts⟩ := interrupts.cons_eq rfl
      cases interrupts with
      | here _ blank => exact isDigit_blank blank
      | later _ => exact plain _ _ found
    have source_tail : (numberChunk .int (c :: rest.takeWhile continuesDigits)
        (rest.dropWhile continuesDigits)).source.tail = rest.takeWhile continuesDigits := rfl
    rw [source_tail, numeralChunk_eq (by rwa [dropped]), taken, dropped]
    rfl

/-- What follows a string does not matter to it. -/
theorem closeString_source {quote : Char} {text contents source after : List Char}
    (closed : closeString quote text = some (contents, source, after)) (after' : List Char) :
    closeString quote (source ++ after') = some (contents, source, after') := by
  fun_induction closeString quote text generalizing contents source after with
  | case1 => cases closed
  | case2 =>
      cases closed
      rw [List.cons_append, closeString.eq_def]
      simp only [if_pos, List.nil_append]
  | case3 => cases closed
  | case4 e rest other ih =>
      obtain ⟨⟨_, _, _⟩, inner, same⟩ := Option.map_eq_some_iff.1 closed
      cases same
      rw [List.cons_append, List.cons_append, closeString.eq_def]
      simp only [if_neg other, if_pos, ih inner]
      rfl
  | case5 c rest other plain ih =>
      obtain ⟨⟨_, _, _⟩, inner, same⟩ := Option.map_eq_some_iff.1 closed
      cases same
      rw [List.cons_append, closeString.eq_def]
      simp only [if_neg other, if_neg plain, ih inner]
      rfl

theorem stringChunk_stands (quote : Char) (rest : List Char) :
    (stringChunk quote rest).Stands (stringChunk quote) := by
  rintro _ rest' rfl interrupts
  unfold stringChunk at interrupts ⊢
  cases closed : closeString quote rest with
  | none =>
      rw [closed] at interrupts
      cases interrupts
  | some found =>
      obtain ⟨contents, source, after⟩ := found
      simp only [List.tail_cons, closeString_source closed]

/-- A comment that is closed has the characters of its closing mark at least. -/
theorem closeComment_source_eq {text : List Char} (closes : closesComment text = true) :
    ∃ a b more, (closeComment text).1 = a :: b :: more := by
  fun_induction closesComment text with
  | case1 => cases closes
  | case2 => exact ⟨'<', '-', ['-'], rfl⟩
  | case3 c rest other ih =>
      obtain ⟨a, b, more, source⟩ := ih closes
      rw [closeComment_cons, source]
      · exact ⟨c, a, b :: more, rfl⟩
      · intro after same
        cases same
        exact other _ rfl rfl

theorem closeComment_source {text : List Char} (closes : closesComment text = true)
    (after' : List Char) :
    closeComment ((closeComment text).1 ++ after') = ((closeComment text).1, after') := by
  fun_induction closesComment text with
  | case1 => cases closes
  | case2 => rfl
  | case3 c rest other ih =>
      obtain ⟨a, b, more, source⟩ := closeComment_source_eq closes
      have parts := closeComment_append rest
      have plain (after : List Char) : c :: rest ≠ '<' :: '-' :: '-' :: after := by
        intro same
        cases same
        exact other _ rfl rfl
      have plain' (after : List Char) :
          c :: ((closeComment rest).1 ++ after') ≠ '<' :: '-' :: '-' :: after := by
        rw [source] at parts ⊢
        intro same
        cases same
        exact plain _ (congrArg ('<' :: ·) parts.symm)
      rw [closeComment_cons plain, List.cons_append, closeComment_cons plain', ih closes]

theorem markChunk_stands (c : Char) (rest : List Char) :
    (markChunk c rest).Stands (markChunk c) := by
  rintro _ rest' rfl interrupts
  rcases markChunk_cases c rest with ⟨d, _, kind, more, rfl, double⟩ | alone
  · rw [double] at interrupts ⊢
    exact double rest'
  · rw [alone] at interrupts ⊢
    have inner : (markChunk c []).source.tail = [] := by rw [(markChunk_nil c).1, List.tail_cons]
    refine (congrArg (fun inner => markChunk c (inner ++ rest')) inner).trans ?_
    refine markChunk_alone alone fun d mark more' text => ?_
    subst text
    cases interrupts with
    | here _ blank => exact absurd mark (not_mem_secondMarks_blank blank)
    | later _ => exact ⟨_, rfl⟩

/-- Digits at the start of a text are not lost where it is interrupted later. -/
theorem startsDigits_of_interrupts {text text' : List Char} (interrupts : Interrupts text text')
    (starts : startsDigits text' = true) : startsDigits text = true := by
  cases interrupts with
  | here _ blank =>
      have digit := isDigit_blank blank
      exact absurd starts (by simp [startsDigits, digit])
  | later _ => exact starts

/-- A point that is no part of a number stays so, and one that is stays so as well. -/
theorem pointToken_stands (rest : List Char) :
    (tokenChunk false '.' rest).Stands (tokenChunk false '.') := by
  have cut (rest : List Char) : tokenChunk false '.' rest =
      if startsDigits rest then pointChunk rest else .plain .dot ['.'] rest := by
    rw [tokenChunk, if_neg (by decide), if_neg (by decide)]
    cases startsDigits rest <;> rfl
  rw [cut]
  split
  next starts =>
    rintro inner rest' same interrupts
    have starts' : startsDigits (inner ++ rest') = true := by
      subst same
      cases rest with
      | nil => cases starts
      | cons d rest =>
          have digit : d.isDigit = true := starts
          have first : continuesDigits d = true := by simp [continuesDigits, digit]
          simp [pointChunk, numberChunk, first, startsDigits, digit]
    rw [cut, if_pos starts']
    exact pointChunk_stands rest inner rest' same interrupts
  next starts =>
    rintro _ rest' rfl interrupts
    have starts' : startsDigits rest' ≠ true :=
      fun starts' => starts (startsDigits_of_interrupts interrupts starts')
    exact (cut rest').trans (if_neg starts')

theorem tokenChunk_stands (operand : Bool) (c : Char) (rest : List Char) :
    (tokenChunk operand c rest).Stands (tokenChunk operand c) := by
  by_cases word : (isAlphabetic c || c == '_') = true
  · have cut : tokenChunk operand c = wordChunk c := by
      funext rest
      rw [tokenChunk, if_pos word]
    rw [cut]
    exact wordChunk_stands c rest
  by_cases digit : c.isDigit = true
  · have cut : tokenChunk operand c = numeralChunk c := by
      funext rest
      rw [tokenChunk, if_neg word, if_pos digit]
    rw [cut]
    exact numeralChunk_stands c rest
  by_cases point : c = '.' ∧ operand = false
  · obtain ⟨rfl, rfl⟩ := point
    exact pointToken_stands rest
  have no_point (rest : List Char) : (c == '.' && startsDigits rest && !operand) = false := by
    cases operand <;> simp_all
  by_cases quote : (c == '"' || c == '\'') = true
  · have cut : tokenChunk operand c = stringChunk c := by
      funext rest
      rw [tokenChunk, if_neg word, if_neg digit, no_point, if_neg Bool.false_ne_true, if_pos quote]
    rw [cut]
    exact stringChunk_stands c rest
  · have cut : tokenChunk operand c = markChunk c := by
      funext rest
      rw [tokenChunk, if_neg word, if_neg digit, no_point, if_neg Bool.false_ne_true, if_neg quote]
    rw [cut]
    exact markChunk_stands c rest

/-- The mark of a comment at the start of a text is not made by an interruption. -/
theorem commentMark_of_interrupts {text more : List Char}
    (interrupts : Interrupts text ('-' :: '-' :: '>' :: more)) :
    ∃ rest, text = '-' :: '-' :: '>' :: rest := by
  obtain ⟨_, rfl, second⟩ := interrupts.cons_eq rfl
  obtain ⟨_, rfl, third⟩ := second.cons_eq rfl
  obtain ⟨rest, rfl, _⟩ := third.cons_eq rfl
  exact ⟨rest, rfl⟩

theorem Chunk.CutsFrom.source_eq {chunk : Chunk} {c : Char} {rest : List Char}
    (cuts : chunk.CutsFrom (c :: rest)) :
    chunk.source = c :: chunk.source.tail ∧ rest = chunk.source.tail ++ chunk.rest := by
  obtain ⟨some_source, parts⟩ := cuts
  cases source : chunk.source with
  | nil => exact absurd source some_source
  | cons d inner =>
      rw [source] at parts
      cases parts
      exact ⟨rfl, rfl⟩

/-- A chunk stays the same where the text after it is interrupted by a blank. -/
theorem firstChunk_stands (operand : Bool) (c : Char) (rest : List Char) :
    (firstChunk operand c rest).Stands (firstChunk operand c) := by
  by_cases blank : isBlank c = true
  · have cut : firstChunk operand c = .skip [c] := by
      funext rest
      rw [firstChunk.eq_def, if_pos blank]
    rw [cut]
    rintro _ rest' rfl _
    rfl
  by_cases hash : c = '#'
  · have cut : firstChunk operand c = fun rest =>
        .skip (c :: rest.takeWhile (· != '\n')) (rest.dropWhile (· != '\n')) := by
      funext rest
      rw [firstChunk.eq_def, if_neg blank, if_pos hash]
    rw [cut]
    rintro _ rest' rfl interrupts
    -- only a line feed ends the comment, and that is a blank itself
    have stops (c b : Char) (ends : (c != '\n') = false) (plain : isBlank c = false)
        (_ : isBlank b = true) : (b != '\n') = false := by
      obtain rfl : c = '\n' := by simpa using ends
      cases plain
    obtain ⟨taken, dropped⟩ := interrupts.takeWhile_append stops
    simp only [Chunk.skip, List.tail_cons, taken, dropped]
  by_cases comment : ∃ text, c :: rest = '-' :: '-' :: '>' :: text
  · obtain ⟨text, same⟩ := comment
    cases same
    rw [firstChunk_comment]
    rintro _ rest' rfl interrupts
    cases closes : closesComment text with
    | false =>
        rw [closeComment_of_open closes] at interrupts
        cases interrupts
    | true =>
        have same := closeComment_source closes rest'
        simp only [Chunk.skip, List.tail_cons, List.cons_append, firstChunk_comment, same]
  · have plain (text : List Char) : c :: rest ≠ '-' :: '-' :: '>' :: text :=
      fun same => comment ⟨text, same⟩
    rw [firstChunk_eq_tokenChunk blank hash plain]
    rintro inner rest' same interrupts
    have plain' (text : List Char) : c :: (inner ++ rest') ≠ '-' :: '-' :: '>' :: text := by
      intro marked
      have parts := (tokenChunk_cutsFrom operand c rest).source_eq.2
      have whole := interrupts.append (c :: inner)
      rw [List.cons_append, List.cons_append, marked, ← same, ← parts] at whole
      obtain ⟨_, start⟩ := commentMark_of_interrupts whole
      exact plain _ start
    rw [firstChunk_eq_tokenChunk blank hash plain']
    exact tokenChunk_stands operand c rest inner rest' same interrupts

/-! ## Blanks in front of a text -/

theorem firstChunk_blank (operand : Bool) {b : Char} (blank : isBlank b = true)
    (rest : List Char) : firstChunk operand b rest = .skip [b] rest := by
  rw [firstChunk.eq_def, if_pos blank]

/-- Blanks are passed over. -/
theorem scanRest_blanks (operand : Bool) (place : Place) {gap : List Char}
    (blanks : ∀ b ∈ gap, isBlank b = true) (text : List Char) :
    scanRest operand place (gap ++ text) = scanRest operand (place.after gap) text := by
  induction gap generalizing place with
  | nil => rfl
  | cons b gap ih =>
      obtain ⟨blank, later⟩ := List.forall_mem_cons.1 blanks
      rw [List.cons_append, scanRest_gap (firstChunk_blank operand blank _) rfl]
      exact ih _ later

/-- The token with its span changed. -/
def mapSpan (change : Span → Span) (token : Token) : Token :=
  { token with span := change token.span }

/-- A token has a character at least, unless it marks the end. -/
theorem start_lt_stop_of_mem {operand : Bool} {place : Place} {text : List Char} {token : Token}
    (member : token ∈ scanRest operand place text) :
    token.span.start ≤ token.span.stop ∧
      (token.kind ≠ .finish → token.span.start < token.span.stop) := by
  induction operand, text using chunk_induction generalizing place with
  | nil operand =>
      obtain rfl := List.mem_singleton.1 member
      exact ⟨Nat.le_refl _, fun inner => absurd rfl inner⟩
  | gap operand c rest meaning ih =>
      rw [scanRest_gap rfl meaning] at member
      exact ih member
  | token operand c rest kind text meaning ih =>
      rw [scanRest_token rfl meaning] at member
      rcases List.mem_cons.1 member with rfl | member
      · have some_text := place.offset_lt_after (firstChunk_cutsFrom operand c rest).1
        exact ⟨Nat.le_of_lt some_text, fun _ => some_text⟩
      · exact ih member

/-- Tokens come one after the other. -/
theorem pairwise_scanRest (operand : Bool) (place : Place) (text : List Char) :
    (scanRest operand place text).Pairwise fun first second =>
      first.span.stop ≤ second.span.start := by
  induction operand, text using chunk_induction generalizing place with
  | nil operand => exact List.pairwise_singleton _ _
  | gap operand c rest meaning ih =>
      rw [scanRest_gap rfl meaning]
      exact ih _
  | token operand c rest kind text meaning ih =>
      rw [scanRest_token rfl meaning]
      exact .cons (fun _ member => (scanRest_bounds member).1) (ih _)

/-- No other token begins where a token begins. -/
theorem eq_of_start_eq {operand : Bool} {place : Place} {text : List Char} {first second : Token}
    (member : first ∈ scanRest operand place text)
    (member' : second ∈ scanRest operand place text) (inner : first.kind ≠ .finish)
    (inner' : second.kind ≠ .finish) (same : first.span.start = second.span.start) :
    first = second := by
  let Apart (first second : Token) :=
    first.span.stop ≤ second.span.start ∨ second.span.stop ≤ first.span.start
  have symmetric : Std.Symm Apart := ⟨fun _ _ => Or.symm⟩
  have apart : (scanRest operand place text).Pairwise Apart :=
    (pairwise_scanRest operand place text).imp Or.inl
  by_contra other
  have some_text := (start_lt_stop_of_mem member).2 inner
  have some_text' := (start_lt_stop_of_mem member').2 inner'
  rcases apart.forall member member' other with ordered | ordered <;> omega

/-- A chunk that does not reach further than the front part of a text belongs to it, and stays the
same where the back part is interrupted. -/
theorem exists_firstChunk_eq {operand : Bool} {place : Place} {c : Char}
    {rest front back : List Char} (parts : c :: rest = front ++ back)
    (reach : (place.after (firstChunk operand c rest).source).offset ≤ (place.after front).offset) :
    ∃ tail, front = (firstChunk operand c rest).source ++ tail ∧
      (firstChunk operand c rest).rest = tail ++ back ∧
      ∀ back', Interrupts back back' → ∃ rest', front ++ back' = c :: rest' ∧
        firstChunk operand c rest' = { firstChunk operand c rest with rest := tail ++ back' } := by
  have cuts := firstChunk_cutsFrom operand c rest
  have front_eq : ∃ tail, front = (firstChunk operand c rest).source ++ tail ∧
      (firstChunk operand c rest).rest = tail ++ back := by
    rcases List.append_eq_append_iff.1 (cuts.2.trans parts) with found | ⟨tail, source, back_eq⟩
    · exact found
    · by_cases nothing : tail = []
      · subst nothing
        exact ⟨[], by simpa using source.symm, by simpa using back_eq.symm⟩
      · have further := (place.after front).offset_lt_after nothing
        rw [← Place.after_append, ← source] at further
        omega
  obtain ⟨tail, front_eq, left⟩ := front_eq
  refine ⟨tail, front_eq, left, fun back' interrupts => ?_⟩
  have interrupted := interrupts.append tail
  rw [← left] at interrupted
  refine ⟨_, ?_, firstChunk_stands operand c rest _ _ rfl interrupted⟩
  rw [front_eq, List.append_assoc, ← List.cons_append, ← cuts.source_eq.1]

/-- Blanks interrupt a text that starts with no blank. -/
theorem interrupts_gap {gap : List Char} (blanks : ∀ b ∈ gap, isBlank b = true)
    (some_gap : gap ≠ []) {c : Char} (plain : isBlank c = false) (rest : List Char) :
    Interrupts (c :: rest) (gap ++ c :: rest) := by
  cases gap with
  | nil => exact absurd rfl some_gap
  | cons b gap => exact .here plain (blanks b List.mem_cons_self)

section Insertion

variable {gap : List Char} (blanks : ∀ b ∈ gap, isBlank b = true) (some_gap : gap ≠ [])
  {bytes lines : Nat} (size : ∀ place : Place, place.after gap = place.shift bytes lines)

include blanks size

/-- Blanks in front of a token move it and what comes after it down. -/
theorem scanRest_insert_here {operand : Bool} {place : Place} {c : Char} {rest : List Char}
    {kind : Kind} {text : String}
    (meaning : (firstChunk operand c rest).meaning = .token kind text) :
    scanRest operand place (gap ++ c :: rest) =
      (scanRest operand place (c :: rest)).map
        (mapSpan (Span.insert place.offset bytes lines)) := by
  rw [scanRest_blanks operand place blanks, size, scanRest_shift]
  refine List.map_congr_left fun token member => ?_
  have start := (scanRest_bounds member).1
  have stop : place.offset < token.span.stop := by
    have beyond := place.offset_lt_after (firstChunk_cutsFrom operand c rest).1
    rw [scanRest_token rfl meaning] at member
    rcases List.mem_cons.1 member with rfl | member
    · exact beyond
    · have later := (scanRest_bounds member).1
      have ordered := (start_lt_stop_of_mem member).1
      omega
  simp only [shift, mapSpan, Span.shift, Span.insert, if_pos start, if_pos stop]

include some_gap

/-- Blanks before a token leave the tokens as they are, but for their places. -/
theorem scanRest_insert {operand : Bool} {place : Place} {text : List Char} {token : Token}
    (member : token ∈ scanRest operand place text) (inner : token.kind ≠ .finish)
    {front back : List Char} (parts : text = front ++ back)
    (here : token.span.start = (place.after front).offset) :
    (∃ c rest, back = c :: rest ∧ isBlank c = false) ∧
      scanRest operand place (front ++ (gap ++ back)) =
        (scanRest operand place text).map
          (mapSpan (Span.insert (place.after front).offset bytes lines)) := by
  induction operand, text using chunk_induction generalizing place front with
  | nil operand =>
      obtain rfl := List.mem_singleton.1 member
      exact absurd rfl inner
  | gap operand c rest meaning ih =>
      rw [scanRest_gap rfl meaning] at member ⊢
      have reach := (scanRest_bounds member).1
      rw [here] at reach
      obtain ⟨tail, rfl, left, stands⟩ := exists_firstChunk_eq parts reach
      rw [Place.after_append] at here ⊢
      obtain ⟨⟨d, more, rfl, plain⟩, inserted⟩ := ih member left here
      obtain ⟨rest', text', chunk⟩ := stands _ (interrupts_gap blanks some_gap plain more)
      rw [text', scanRest_gap chunk meaning]
      exact ⟨⟨d, more, rfl, plain⟩, inserted⟩
  | token operand c rest kind text meaning ih =>
      have beyond := place.offset_lt_after (firstChunk_cutsFrom operand c rest).1
      have scanned : scanRest operand place (c :: rest) = _ := scanRest_token rfl meaning
      rw [scanned] at member
      rcases List.mem_cons.1 member with rfl | member
      · -- the token is the first one, so that nothing comes before it
        obtain rfl : front = [] := by
          by_contra some_front
          exact absurd here (Nat.ne_of_lt (place.offset_lt_after some_front))
        subst parts
        refine ⟨⟨c, rest, rfl, ?_⟩, scanRest_insert_here blanks size meaning⟩
        by_contra blank
        rw [Bool.not_eq_false] at blank
        rw [firstChunk_blank operand blank] at meaning
        cases meaning
      · have reach := (scanRest_bounds member).1
        rw [here] at reach
        obtain ⟨tail, rfl, left, stands⟩ := exists_firstChunk_eq parts reach
        rw [Place.after_append] at here reach ⊢
        obtain ⟨⟨d, more, rfl, plain⟩, inserted⟩ := ih member left here
        obtain ⟨rest', text', chunk⟩ := stands _ (interrupts_gap blanks some_gap plain more)
        refine ⟨⟨d, more, rfl, plain⟩, ?_⟩
        rw [text', scanRest_token chunk meaning, scanned, List.map_cons, ← inserted, mapSpan,
          Span.insert_of_stop_le beyond reach]

end Insertion

/-- Blanks before a token of a source text leave the tokens as they are, but for their places. -/
theorem scan_insert {before after : String} {token : Token}
    (member : token ∈ scan (before ++ after)) (inner : token.kind ≠ .finish)
    (here : token.span.start = before.utf8ByteSize) {gap : String}
    (blanks : ∀ b ∈ gap.toList, isBlank b = true) (some_gap : gap ≠ "") :
    ∃ bytes lines, scan (before ++ gap ++ after) =
      (scan (before ++ after)).map
        (mapSpan (Span.insert before.utf8ByteSize bytes lines)) := by
  obtain ⟨bytes, lines, size⟩ := Place.exists_after_eq_shift gap.toList
  have some_chars : gap.toList ≠ [] := by simpa using some_gap
  have parts : (before ++ after).toList = before.toList ++ after.toList := String.toList_append
  rw [← Place.offset_start_after] at here ⊢
  have inserted := (scanRest_insert blanks some_chars size member inner parts here).2
  have text : (before ++ gap ++ after).toList =
      before.toList ++ (gap.toList ++ after.toList) := by
    rw [String.toList_append, String.toList_append, List.append_assoc]
  refine ⟨bytes, lines, ?_⟩
  rw [scan, text]
  exact inserted

end Token
end DotScript
