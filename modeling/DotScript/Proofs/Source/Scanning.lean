import DotScript.Proofs.Tree.Rendering
import DotScript.Source.Cut
import DotScript.Value.Text
import Mathlib.Data.List.Forall2

/-!
# Texts that are scanned to marks

`Scans text more marks` says that scanning gets from a text to its end part `more` by way of tokens
for the marks, wherever the text stands.  Longer texts are put together with `Scans.trans`.
-/

namespace DotScript
namespace Token

/-- The tokens of a text from some place on. -/
def scanRest (afterOperand : Bool) (place : Place) (text : List Char) : List Token :=
  scanFrom text.length afterOperand place text

section Steps

variable {afterOperand : Bool} {place : Place} {c : Char} {rest : List Char} {chunk : Chunk}

theorem scanFrom_rest (cut : firstChunk afterOperand c rest = chunk) (operand : Bool)
    (next : Place) : scanFrom rest.length operand next chunk.rest =
      scanRest operand next chunk.rest := by
  have shorter := (firstChunk_cutsFrom afterOperand c rest).rest_length_lt
  rw [cut, List.length_cons] at shorter
  exact scanFrom_of_length_le (by omega) operand next

/-- A gap is passed over. -/
theorem scanRest_gap (cut : firstChunk afterOperand c rest = chunk) (gap : chunk.meaning = .gap) :
    scanRest afterOperand place (c :: rest) =
      scanRest afterOperand (place.after chunk.source) chunk.rest := by
  rw [← scanFrom_rest cut]
  simp only [scanRest, List.length_cons, scanFrom, cut, gap]

/-- A token comes before the tokens of the rest. -/
theorem scanRest_token {kind : Kind} {text : String} (cut : firstChunk afterOperand c rest = chunk)
    (token : chunk.meaning = .token kind text) :
    scanRest afterOperand place (c :: rest) =
      { kind, text, span := place.span (place.after chunk.source) } ::
        scanRest kind.endsOperand (place.after chunk.source) chunk.rest := by
  rw [← scanFrom_rest cut]
  simp only [scanRest, List.length_cons, scanFrom, cut, token]

end Steps

/-- A token for a mark, which is neither a point nor the end. -/
def IsInner (mark : Mark) (token : Token) : Prop :=
  mark.Fits token ∧ mark.kind ≠ .dot ∧ mark.kind ≠ .finish

theorem isInner_fixed {kind : Kind} {text : String} {span : Span} (not_dot : kind ≠ .dot)
    (not_finish : kind ≠ .finish) : IsInner (.fixed kind) { kind, text, span } :=
  ⟨⟨rfl, trivial⟩, not_dot, not_finish⟩

/-- Scanning gets from a text to its end part `more` by way of tokens for the marks. -/
def Scans (text more : List Char) (marks : List Mark) : Prop :=
  ∀ afterOperand place, ∃ tokens operand next,
    scanRest afterOperand place text = tokens ++ scanRest operand next more ∧
      List.Forall₂ IsInner marks tokens

namespace Scans

variable {text middle more : List Char} {marks later : List Mark}

theorem refl : Scans text text [] :=
  fun afterOperand place => ⟨[], afterOperand, place, rfl, .nil⟩

theorem trans (first : Scans text middle marks) (second : Scans middle more later) :
    Scans text more (marks ++ later) := by
  intro afterOperand place
  obtain ⟨tokens, operand, next, scanned, fits⟩ := first afterOperand place
  obtain ⟨laterTokens, lastOperand, last, later_scanned, later_fits⟩ := second operand next
  refine ⟨tokens ++ laterTokens, lastOperand, last, ?_, List.rel_append fits later_fits⟩
  rw [scanned, later_scanned, List.append_assoc]

theorem of_gap {c : Char} {source : List Char}
    (cut : ∀ afterOperand, firstChunk afterOperand c text = .skip source more) :
    Scans (c :: text) more [] := by
  intro afterOperand place
  exact ⟨[], afterOperand, _, scanRest_gap (cut afterOperand) rfl, .nil⟩

theorem of_token {c : Char} {chunk : Chunk} {mark : Mark} {kind : Kind} {content : String}
    (cut : ∀ afterOperand, firstChunk afterOperand c text = chunk)
    (token : chunk.meaning = .token kind content) (left : chunk.rest = more)
    (fits : ∀ span, IsInner mark { kind, text := content, span }) :
    Scans (c :: text) more [mark] := by
  intro afterOperand place
  exact ⟨[_], _, _, left ▸ scanRest_token (cut afterOperand) token, .cons (fits _) .nil⟩

end Scans

/-- The tokens of a text that is scanned to its end. -/
theorem exists_scan_eq {text : String} {marks : List Mark} (scans : Scans text.toList [] marks) :
    ∃ tokens place, scan text = tokens ++ [finishAt place] ∧
      List.Forall₂ IsInner marks tokens := by
  obtain ⟨tokens, operand, place, scanned, fits⟩ := scans false .start
  exact ⟨tokens, place, scanned, fits⟩

/-- Inner tokens are written for their marks; there is no point that could touch a name. -/
theorem spells_of_inner {tokens : List Token} {marks : List Mark}
    (inner : List.Forall₂ IsInner marks tokens) : Spells tokens marks := by
  induction inner with
  | nil => exact trivial
  | cons fits _ ih => exact ⟨fits.1, fun dot => (fits.2.1 dot).elim, ih⟩

/-- The end of a token list comes after its inner tokens. -/
theorem takeWhile_of_inner {tokens : List Token} {marks : List Mark} (place : Place)
    (inner : List.Forall₂ IsInner marks tokens) :
    (tokens ++ [finishAt place]).takeWhile (·.kind ≠ .finish) = tokens := by
  induction inner with
  | nil => rfl
  | cons fits _ ih =>
      have not_finish := fits.1.1.symm ▸ fits.2.2
      rw [List.cons_append, List.takeWhile_cons_of_pos (by simpa using not_finish), ih]

/-! ## Single tokens -/

/-- What may follow a value: nothing, or a mark that goes on with no word and no number. -/
def Delimits : List Char → Prop
  | [] => True
  | c :: _ => c = ',' ∨ c = ']' ∨ c = '\x7d'

section Chunks

variable {c : Char} {more : List Char}

theorem scans_blank : Scans (' ' :: more) more [] :=
  .of_gap fun _ => rfl

theorem scans_mark (c : Char) (kind : Kind)
    (cut : ∀ afterOperand, firstChunk afterOperand c more = .plain kind [c] more)
    (not_dot : kind ≠ .dot) (not_finish : kind ≠ .finish) :
    Scans (c :: more) more [.fixed kind] :=
  .of_token cut rfl rfl fun _ => isInner_fixed not_dot not_finish

/-- Characters up to a delimiter. -/
theorem span_of_delimits {continues : Char → Bool} {word : List Char}
    (inside : ∀ c ∈ word, continues c = true) (delimits : Delimits more)
    (stops : continues ',' = false ∧ continues ']' = false ∧ continues '\x7d' = false) :
    (word ++ more).takeWhile continues = word ∧ (word ++ more).dropWhile continues = more := by
  have ends : more.takeWhile continues = [] ∧ more.dropWhile continues = more := by
    cases more with
    | nil => exact ⟨rfl, rfl⟩
    | cons c rest => rcases delimits with rfl | rfl | rfl <;> simp [stops]
  rw [List.takeWhile_append_of_pos inside, List.dropWhile_append_of_pos inside, ends.1, ends.2]
  exact ⟨List.append_nil word, rfl⟩

theorem scans_word (word : String) {rest : List Char} {keyword : Keyword}
    (chars : word.toList = c :: rest)
    (cut : ∀ afterOperand rest, firstChunk afterOperand c rest = wordChunk c rest)
    (inside : rest.all continuesName = true) (kind : Kind.ofWord word = .keyword keyword)
    (delimits : Delimits more) :
    Scans (word.toList ++ more) more [.fixed (.keyword keyword)] := by
  obtain ⟨taken, dropped⟩ := span_of_delimits (List.all_eq_true.1 inside) delimits (by decide)
  have token : (wordChunk c (rest ++ more)).meaning = .token (.keyword keyword) word := by
    simp only [wordChunk, taken, ← chars, String.ofList_toList, kind]
  rw [chars]
  exact .of_token (fun afterOperand => cut afterOperand _) token dropped fun _ =>
    isInner_fixed (fun same => Kind.noConfusion same) fun same => Kind.noConfusion same

theorem mem_digits_of_isDigit (digit : c.isDigit = true) :
    c ∈ ['0', '1', '2', '3', '4', '5', '6', '7', '8', '9'] := by
  have codes : 48 ≤ c.toNat ∧ c.toNat ≤ 57 := by
    simp only [Char.isDigit, Bool.and_eq_true, decide_eq_true_eq] at digit
    exact digit
  have code : c.toNat ∈ [48, 49, 50, 51, 52, 53, 54, 55, 56, 57] := by
    simp only [List.mem_cons, List.not_mem_nil, or_false]
    omega
  have member := List.mem_map_of_mem (f := Char.ofNat) code
  rwa [Char.ofNat_toNat] at member

theorem firstChunk_digit (digit : c.isDigit = true) (afterOperand : Bool) (rest : List Char) :
    firstChunk afterOperand c rest = numeralChunk c rest := by
  have member := mem_digits_of_isDigit digit
  simp only [List.mem_cons, List.not_mem_nil, or_false] at member
  rcases member with rfl | rfl | rfl | rfl | rfl | rfl | rfl | rfl | rfl | rfl <;> rfl

/-- Digits and underscores up to a delimiter are an integer. -/
theorem numeralChunk_of_continues {rest : List Char}
    (continues : ∀ d ∈ rest, continuesDigits d = true) (delimits : Delimits more) :
    numeralChunk c (rest ++ more) = numberChunk .int (c :: rest) more := by
  obtain ⟨taken, dropped⟩ := span_of_delimits continues delimits (by decide)
  rw [numeralChunk, taken, dropped]
  split
  · rcases delimits with impossible | impossible | impossible <;> cases impossible
  · rfl

theorem scans_numeral {rest : List Char} (digit : c.isDigit = true)
    (continues : ∀ d ∈ rest, continuesDigits d = true) (delimits : Delimits more) :
    Scans (c :: (rest ++ more)) more [.int (String.ofList ((c :: rest).filter (· != '_')))] := by
  have cut (afterOperand : Bool) :
      firstChunk afterOperand c (rest ++ more) = numberChunk .int (c :: rest) more := by
    rw [firstChunk_digit digit, numeralChunk_of_continues continues delimits]
  exact .of_token cut rfl rfl fun _ => ⟨⟨rfl, rfl⟩, nofun, nofun⟩

/-- Digits alone are kept as they are. -/
theorem scans_digits {rest : List Char} (digits : ∀ d ∈ c :: rest, d.isDigit = true)
    (delimits : Delimits more) :
    Scans (c :: (rest ++ more)) more [.int (String.ofList (c :: rest))] := by
  obtain ⟨digit, later⟩ := List.forall_mem_cons.1 digits
  have continues : ∀ d ∈ rest, continuesDigits d = true := by
    intro d member
    rw [continuesDigits, later d member, Bool.true_or]
  have kept : (c :: rest).filter (· != '_') = c :: rest := by
    refine List.filter_eq_self.2 fun d member => ?_
    have not_underscore : d ≠ '_' := by
      rintro rfl
      exact absurd (digits '_' member) (by decide)
    simpa using not_underscore
  have scans := scans_numeral digit continues delimits
  rwa [kept] at scans

/-- The minus sign of a number. -/
theorem scans_minus (digit : c.isDigit = true) :
    Scans ('-' :: c :: more) (c :: more) [.fixed .minus] := by
  have member := mem_digits_of_isDigit digit
  simp only [List.mem_cons, List.not_mem_nil, or_false] at member
  refine scans_mark '-' .minus (fun afterOperand => ?_) nofun nofun
  rcases member with rfl | rfl | rfl | rfl | rfl | rfl | rfl | rfl | rfl | rfl <;> rfl

/-- An escaped character is read as the character itself. -/
theorem closeString_escape_append (c : Char) (rest : List Char) :
    closeString '"' (Value.escape c ++ rest) =
      (closeString '"' rest).map fun (contents, source, after) =>
        (c :: contents, Value.escape c ++ source, after) := by
  have escaped (e : Char) : closeString '"' ('\\' :: e :: rest) =
      (closeString '"' rest).map fun (contents, source, after) =>
        (unescape e :: contents, '\\' :: e :: source, after) := by
    rw [closeString.eq_def]
    rfl
  unfold Value.escape
  split
  · subst c
    exact escaped '"'
  split
  · subst c
    exact escaped '\\'
  split
  · subst c
    exact escaped 'n'
  split
  · subst c
    exact escaped 't'
  · rename_i not_quote not_backslash _ _
    rw [List.singleton_append, closeString.eq_def]
    simp only [if_neg not_quote, if_neg not_backslash]
    rfl

theorem closeString_flatMap_escape (text : List Char) :
    closeString '"' (text.flatMap Value.escape ++ '"' :: more) =
      some (text, text.flatMap Value.escape ++ ['"'], more) := by
  induction text with
  | nil =>
      rw [List.flatMap_nil, List.nil_append, closeString.eq_def]
      rfl
  | cons c rest ih =>
      simp only [List.flatMap_cons, List.append_assoc]
      rw [closeString_escape_append, ih]
      rfl

theorem scans_quote (text : String) :
    Scans ((Value.quote text).toList ++ more) more [.string text] := by
  have source : (Value.quote text).toList ++ more =
      '"' :: (text.toList.flatMap Value.escape ++ '"' :: more) := by
    simp [Value.quote]
  rw [source]
  refine .of_token (fun _ => rfl) ?_ ?_ fun _ => ⟨⟨rfl, rfl⟩, nofun, nofun⟩
  · simp [closeString_flatMap_escape]
  · simp [closeString_flatMap_escape]

/-- A string in quotes is scanned to one token. -/
theorem scan_quote (text : String) :
    ∃ span place, scan (Value.quote text) = [{ kind := .string, text, span }, finishAt place] := by
  have scans : Scans ((Value.quote text).toList ++ []) [] [.string text] := scans_quote text
  rw [List.append_nil] at scans
  obtain ⟨tokens, place, scanned, inner⟩ := exists_scan_eq scans
  cases inner with
  | @cons _ token _ rest fits later =>
      obtain ⟨⟨same_kind, same_text⟩, _⟩ := fits
      cases later
      refine ⟨token.span, place, ?_⟩
      rw [scanned, ← same_text]
      simp only [List.cons_append, List.nil_append, List.cons.injEq, and_true]
      exact congrArg (fun kind => ({ token with kind } : Token)) same_kind

end Chunks

end Token
end DotScript
