import DotScript.Number.FloatText
import DotScript.Proofs.Number.Words
import DotScript.Proofs.Source.Joining
import Mathlib.Data.List.TakeWhile

/-!
# Numerals

An integer is written as digits and underscores, of any number, the first of them a digit, and may
have a sign in front.  These texts are all that can be read: `Integer.read_eq_ok_iff`.  The token of
an integer has the digits alone: `IsNumeral.read`.  A double has a point and a digit after it, and can
be read as well.
-/

namespace DotScript

/-! ## Written numbers -/

/-- Digits and underscores, the first of them a digit. -/
def IsNumeral (written : List Char) : Prop :=
  ∃ first rest, written = first :: rest ∧ first.isDigit = true ∧
    ∀ c ∈ rest, Token.continuesDigits c = true

/-- The digits of a numeral. -/
def digitsOf (written : List Char) : List Char :=
  written.filter (· != '_')

theorem isDigit_of_mem_digitsOf {written : List Char}
    (continues : ∀ c ∈ written, Token.continuesDigits c = true) :
    ∀ d ∈ digitsOf written, d.isDigit = true := by
  intro d member
  obtain ⟨inside, other⟩ := List.mem_filter.1 member
  have digit := continues d inside
  rw [Token.continuesDigits, Bool.or_eq_true, beq_iff_eq] at digit
  exact digit.resolve_right (by simpa using other)

theorem digitsOf_cons {first : Char} (digit : first.isDigit = true) (rest : List Char) :
    digitsOf (first :: rest) = first :: digitsOf rest := by
  have other : first ≠ '_' := by
    rintro rfl
    exact absurd digit (by decide)
  exact List.filter_cons_of_pos (by simpa using other)

theorem digitsOf_eq_self {digits : List Char} (are_digits : ∀ d ∈ digits, d.isDigit = true) :
    digitsOf digits = digits := by
  refine List.filter_eq_self.2 fun d member => ?_
  have other : d ≠ '_' := by
    rintro rfl
    exact absurd (are_digits '_' member) (by decide)
  simpa using other

namespace IsNumeral

/-- Digits alone are a numeral. -/
theorem of_digits {digits : List Char} (some_digits : digits ≠ [])
    (are_digits : ∀ d ∈ digits, d.isDigit = true) : IsNumeral digits := by
  obtain ⟨first, rest, rfl⟩ := List.exists_cons_of_ne_nil some_digits
  obtain ⟨digit, later⟩ := List.forall_mem_cons.1 are_digits
  refine ⟨first, rest, rfl, digit, fun d member => ?_⟩
  rw [Token.continuesDigits, later d member, Bool.true_or]

variable {written : List Char} (numeral : IsNumeral written)

include numeral

theorem continues : ∀ c ∈ written, Token.continuesDigits c = true := by
  obtain ⟨first, rest, rfl, digit, later⟩ := numeral
  refine List.forall_mem_cons.2 ⟨?_, later⟩
  rw [Token.continuesDigits, digit, Bool.true_or]

theorem digitsOf_ne_nil : digitsOf written ≠ [] := by
  obtain ⟨first, rest, rfl, digit, later⟩ := numeral
  rw [digitsOf_cons digit]
  exact List.cons_ne_nil _ _

end IsNumeral

/-! ## Reading integers -/

namespace IntegerText

/-- The number that a text denotes: a numeral with a sign in front or without one. -/
inductive Denotes : List Char → Int → Prop
  | plain {written : List Char} : IsNumeral written →
      Denotes written (Nat.ofDigitChars 10 (digitsOf written) 0)
  | plus {written : List Char} : IsNumeral written →
      Denotes ('+' :: written) (Nat.ofDigitChars 10 (digitsOf written) 0)
  | minus {written : List Char} : IsNumeral written →
      Denotes ('-' :: written) (-(Nat.ofDigitChars 10 (digitsOf written) 0 : Int))

theorem digitsFrom_eq_ok_iff {written : List Char} {value total : Nat} :
    digitsFrom value written = .ok total ↔
      (∀ c ∈ written, Token.continuesDigits c = true) ∧
        Nat.ofDigitChars 10 (digitsOf written) value = total := by
  induction written generalizing value with
  | nil => simp [digitsFrom, digitsOf]
  | cons c rest ih =>
      rw [List.forall_mem_cons, digitsFrom]
      by_cases digit : c.isDigit = true
      · rw [if_pos digit, ih, digitsOf_cons digit, Nat.ofDigitChars_cons, Token.continuesDigits,
          digit, Bool.true_or, eq_self, true_and]
        rfl
      · rw [if_neg digit]
        by_cases underscore : c = '_'
        · subst underscore
          rw [if_pos rfl, ih]
          constructor
          · rintro ⟨later, same⟩
            exact ⟨⟨rfl, later⟩, same⟩
          · rintro ⟨⟨-, later⟩, same⟩
            exact ⟨later, same⟩
        · rw [if_neg underscore]
          simp [Token.continuesDigits, digit, underscore]

theorem readMagnitude_eq_ok_iff {written : List Char} {total : Nat} :
    readMagnitude written = .ok total ↔
      IsNumeral written ∧ Nat.ofDigitChars 10 (digitsOf written) 0 = total := by
  cases written with
  | nil => simp [readMagnitude, IsNumeral]
  | cons first rest =>
      rw [readMagnitude]
      by_cases digit : first.isDigit = true
      · rw [if_pos digit, digitsFrom_eq_ok_iff, digitsOf_cons digit, Nat.ofDigitChars_cons,
          Nat.mul_zero, Nat.zero_add]
        refine and_congr_left fun _ => ⟨fun later => ⟨first, rest, rfl, digit, later⟩, ?_⟩
        rintro ⟨_, _, same, -, later⟩
        cases same
        exact later
      · rw [if_neg digit]
        constructor
        · intro read
          cases read
        · rintro ⟨⟨_, _, same, is_digit, -⟩, -⟩
          cases same
          exact absurd is_digit digit

/-- What a reading without a bound makes of a numeral. -/
theorem map_readMagnitude_eq_ok_iff {written : List Char} {sign : Nat → Int} {value : Int} :
    (readMagnitude written).map sign = .ok value ↔
      IsNumeral written ∧ sign (Nat.ofDigitChars 10 (digitsOf written) 0) = value := by
  cases read : readMagnitude written with
  | ok total =>
      obtain ⟨numeral, rfl⟩ := readMagnitude_eq_ok_iff.1 read
      simp [Except.map, numeral]
  | error failure =>
      constructor
      · intro mapped
        cases mapped
      · rintro ⟨numeral, -⟩
        rw [readMagnitude_eq_ok_iff.2 ⟨numeral, rfl⟩] at read
        cases read

/-- A text is read exactly if it denotes a number, and as that number. -/
theorem readChars_eq_ok_iff {chars : List Char} {value : Int} :
    readChars chars = .ok value ↔ Denotes chars value := by
  constructor
  · intro read
    unfold readChars at read
    split at read
    all_goals
      obtain ⟨numeral, rfl⟩ := map_readMagnitude_eq_ok_iff.1 read
    · exact .minus numeral
    · exact .plus numeral
    · exact .plain numeral
  · intro denotes
    cases denotes with
    | plus numeral => exact map_readMagnitude_eq_ok_iff.2 ⟨numeral, rfl⟩
    | minus numeral => exact map_readMagnitude_eq_ok_iff.2 ⟨numeral, rfl⟩
    | plain numeral =>
        obtain ⟨first, rest, rfl, digit, later⟩ := numeral
        rw [readChars_of_isDigit digit]
        exact map_readMagnitude_eq_ok_iff.2 ⟨⟨first, rest, rfl, digit, later⟩, rfl⟩

/-- Digits alone denote a number. -/
theorem Denotes.of_digits {digits : List Char} (some_digits : digits ≠ [])
    (are_digits : ∀ d ∈ digits, d.isDigit = true) :
    Denotes digits (Nat.ofDigitChars 10 digits 0) := by
  have plain := Denotes.plain (IsNumeral.of_digits some_digits are_digits)
  rwa [digitsOf_eq_self are_digits] at plain

/-- What is written for a number denotes it. -/
theorem denotes_write (value : Int) : Denotes (write value).toList value := by
  have digits (n : Nat) : ∀ d ∈ Nat.toDigits 10 n, d.isDigit = true := fun _ member =>
    Nat.isDigit_of_mem_toDigits (by decide) (by decide) member
  cases value with
  | ofNat n =>
      have plain := Denotes.of_digits Nat.toDigits_ne_nil (digits n)
      rwa [Nat.ofDigitChars_ten_toDigits, ← Nat.toList_repr] at plain
  | negSucc n =>
      have minus := Denotes.minus (IsNumeral.of_digits Nat.toDigits_ne_nil (digits (n + 1)))
      rw [digitsOf_eq_self (digits (n + 1)), Nat.ofDigitChars_ten_toDigits, ← Nat.toList_repr]
        at minus
      rw [write, String.toList_append]
      exact minus

end IntegerText

namespace Integer

/-- A text is read exactly if it denotes a number, and as the integer for it. -/
theorem read_eq_ok_iff {text : String} {integer : Integer} :
    Integer.read text = .ok integer ↔ IntegerText.Denotes text.toList integer.toInt := by
  rw [read_eq, ← IntegerText.readChars_eq_ok_iff, IntegerText.read]
  cases IntegerText.readChars text.toList with
  | error failure => simp [Except.map]
  | ok value =>
      simp only [Except.map, Except.ok.injEq]
      constructor
      · rintro rfl
        exact (toInt_ofInt value).symm
      · rintro rfl
        exact ofInt_toInt integer

theorem read_digits {digits : List Char} (some_digits : digits ≠ [])
    (are_digits : ∀ d ∈ digits, d.isDigit = true) :
    Integer.read (String.ofList digits) = .ok (.ofInt (Nat.ofDigitChars 10 digits 0 : Int)) := by
  rw [read_eq_ok_iff, String.toList_ofList, toInt_ofInt]
  exact .of_digits some_digits are_digits

/-- An integer is read back from what is written for it. -/
theorem read_write (integer : Integer) : Integer.read integer.write = .ok integer :=
  read_eq_ok_iff.2 (IntegerText.denotes_write integer.toInt)

end Integer

/-- A numeral of any length is read as the number that its digits denote. -/
theorem IsNumeral.read {written : List Char} (numeral : IsNumeral written) :
    Integer.read (String.ofList (digitsOf written)) =
      .ok (.ofInt (Nat.ofDigitChars 10 (digitsOf written) 0 : Int)) :=
  Integer.read_digits numeral.digitsOf_ne_nil (isDigit_of_mem_digitsOf numeral.continues)

/-! ## Reading doubles -/

namespace FloatText

theorem takeWhile_point {whole : List Char} (are_digits : ∀ d ∈ whole, d.isDigit = true)
    (fraction : List Char) :
    (whole ++ '.' :: fraction).takeWhile Char.isDigit = whole ∧
      (whole ++ '.' :: fraction).dropWhile Char.isDigit = '.' :: fraction := by
  constructor
  · rw [List.takeWhile_append_of_pos are_digits]
    exact List.append_nil whole
  · rw [List.dropWhile_append_of_pos are_digits]
    rfl

/-- Digits with a point among them, not the last of them, can be read. -/
theorem read_point {whole fraction : List Char} (are_digits : ∀ d ∈ whole, d.isDigit = true)
    (some_fraction : fraction ≠ []) (fraction_digits : ∀ d ∈ fraction, d.isDigit = true) :
    (FloatText.read (String.ofList (whole ++ '.' :: fraction))).isSome = true := by
  have digits : (readDigits (whole ++ '.' :: fraction)).isSome = true := by
    obtain ⟨taken, dropped⟩ := takeWhile_point are_digits fraction
    rw [readDigits, taken, dropped, splitFraction, List.takeWhile_eq_self_iff.2 fraction_digits,
      List.dropWhile_eq_nil_iff.2 fraction_digits]
    simp [some_fraction, readScale]
  have magnitude : (readMagnitude (whole ++ '.' :: fraction)).isSome = true := by
    unfold readMagnitude
    dsimp only
    split
    · rfl
    split
    · rfl
    · exact digits
  rw [FloatText.read, String.toList_ofList]
  unfold readChars
  split
  next rest signed =>
    -- a digit or the point comes first
    cases whole with
    | nil => cases signed
    | cons first later =>
        cases signed
        exact absurd (are_digits '-' List.mem_cons_self) (by decide)
  next rest signed =>
    cases whole with
    | nil => cases signed
    | cons first later =>
        cases signed
        exact absurd (are_digits '+' List.mem_cons_self) (by decide)
  next => exact magnitude

end FloatText

/-! ## Numbers among the tokens -/

namespace Token

/-- A number among the tokens of a text is spelled so that it can be read: an integer has the digits
of a numeral in the text. -/
structure SpelledIn (source : List Char) (token : Token) : Prop where
  int : token.kind = .int → ∃ written, written <:+: source ∧ IsNumeral written ∧
    token.text = String.ofList (digitsOf written)
  float : token.kind = .float → (FloatText.read token.text).isSome = true

theorem SpelledIn.of_kind {source : List Char} {token : Token} (not_int : token.kind ≠ .int)
    (not_float : token.kind ≠ .float) : token.SpelledIn source :=
  ⟨fun same => absurd same not_int, fun same => absurd same not_float⟩

theorem SpelledIn.mono {part source : List Char} {token : Token} (spelled : token.SpelledIn part)
    (inside : part <:+: source) : token.SpelledIn source where
  int same := by
    obtain ⟨written, found, numeral⟩ := spelled.int same
    exact ⟨written, found.trans inside, numeral⟩
  float := spelled.float

/-- A chunk that is a number is spelled so that it can be read. -/
structure Chunk.Spelled (chunk : Chunk) : Prop where
  int : ∀ text, chunk.meaning = .token .int text →
    IsNumeral chunk.source ∧ text = String.ofList (digitsOf chunk.source)
  float : ∀ text, chunk.meaning = .token .float text → (FloatText.read text).isSome = true

theorem Chunk.Spelled.of_kind {chunk : Chunk} {kind : Kind} {text : String}
    (meaning : chunk.meaning = .token kind text) (not_int : kind ≠ .int) (not_float : kind ≠ .float) :
    chunk.Spelled where
  int other same := by
    rw [meaning] at same
    exact absurd (Meaning.token.inj same).1 not_int
  float other same := by
    rw [meaning] at same
    exact absurd (Meaning.token.inj same).1 not_float

theorem isNumeral_takeWhile {c : Char} (digit : c.isDigit = true) (rest : List Char) :
    IsNumeral (c :: rest.takeWhile continuesDigits) :=
  ⟨c, _, rfl, digit, fun _ member => List.mem_takeWhile_imp member⟩

theorem numberChunk_int_spelled {written : List Char} (numeral : IsNumeral written)
    (rest : List Char) : (numberChunk .int written rest).Spelled where
  int _ same := ⟨numeral, ((Meaning.token.inj same).2).symm⟩
  float _ same := nomatch same

/-- A number with a point has digits before it, if any, and after it. -/
theorem numberChunk_float_spelled {whole : List Char} {d : Char}
    (continues : ∀ c ∈ whole, continuesDigits c = true) (digit : d.isDigit = true)
    (more rest : List Char) :
    (numberChunk .float (whole ++ '.' :: (d :: more).takeWhile continuesDigits) rest).Spelled where
  int _ same := nomatch same
  float text same := by
    obtain rfl := (Meaning.token.inj same).2
    have written : (whole ++ '.' :: (d :: more).takeWhile continuesDigits).filter (· != '_') =
        digitsOf whole ++ '.' :: digitsOf ((d :: more).takeWhile continuesDigits) := by
      rw [List.filter_append, List.filter_cons_of_pos (by decide)]
      rfl
    have fraction : (d :: more).takeWhile continuesDigits = d :: more.takeWhile continuesDigits :=
      List.takeWhile_cons_of_pos (by rw [continuesDigits, digit, Bool.true_or])
    rw [written]
    refine FloatText.read_point (isDigit_of_mem_digitsOf continues) ?_
      (isDigit_of_mem_digitsOf fun _ member => List.mem_takeWhile_imp member)
    rw [fraction, digitsOf_cons digit]
    exact List.cons_ne_nil _ _

theorem numeralChunk_spelled {c : Char} (digit : c.isDigit = true) (rest : List Char) :
    (numeralChunk c rest).Spelled := by
  have numeral := isNumeral_takeWhile digit rest
  unfold numeralChunk
  split
  · split
    next fraction => exact numberChunk_float_spelled numeral.continues fraction _ _
    next => exact numberChunk_int_spelled numeral _
  · exact numberChunk_int_spelled numeral _

theorem pointChunk_spelled {rest : List Char} (digits : startsDigits rest = true) :
    (pointChunk rest).Spelled := by
  cases rest with
  | nil => cases digits
  | cons d more =>
      have before_point : ∀ c ∈ ([] : List Char), continuesDigits c = true := List.forall_mem_nil _
      exact numberChunk_float_spelled before_point digits more _

theorem tokenChunk_spelled (operand : Bool) (c : Char) (rest : List Char) :
    (tokenChunk operand c rest).Spelled := by
  unfold tokenChunk
  split
  · exact .of_kind rfl (Kind.ofWord_ne _ rfl) (Kind.ofWord_ne _ rfl)
  split
  next digit => exact numeralChunk_spelled digit rest
  split
  next point =>
    simp only [Bool.and_eq_true] at point
    exact pointChunk_spelled point.1.2
  split
  · unfold stringChunk
    split <;> exact .of_kind rfl nofun nofun
  · unfold markChunk
    split <;> exact .of_kind rfl nofun nofun

theorem Chunk.Spelled.skip (source rest : List Char) : (Chunk.skip source rest).Spelled :=
  ⟨nofun, nofun⟩

theorem firstChunk_spelled (operand : Bool) (c : Char) (rest : List Char) :
    (firstChunk operand c rest).Spelled := by
  unfold firstChunk
  split
  · exact .skip _ _
  split
  · exact .skip _ _
  split
  · exact .skip _ _
  · exact tokenChunk_spelled operand c rest

theorem spelledIn_of_mem_scanRest {operand : Bool} {place : Place} {text : List Char}
    {token : Token} (member : token ∈ scanRest operand place text) : token.SpelledIn text := by
  induction operand, text using chunk_induction generalizing place with
  | nil operand =>
      obtain rfl := List.mem_singleton.1 member
      exact .of_kind nofun nofun
  | gap operand c rest meaning ih =>
      rw [scanRest_gap rfl meaning] at member
      exact (ih member).mono ((firstChunk_cutsFrom operand c rest).2 ▸
        (List.suffix_append _ _).isInfix)
  | token operand c rest kind text meaning ih =>
      rw [scanRest_token rfl meaning] at member
      have cut := (firstChunk_cutsFrom operand c rest).2
      have spelled := firstChunk_spelled operand c rest
      rcases List.mem_cons.1 member with rfl | member
      · constructor
        · rintro rfl
          obtain ⟨numeral, digits⟩ := spelled.int text meaning
          exact ⟨_, cut ▸ (List.prefix_append _ _).isInfix, numeral, digits⟩
        · rintro rfl
          exact spelled.float text meaning
      · exact (ih member).mono (cut ▸ (List.suffix_append _ _).isInfix)

/-- Every number in a text is spelled so that it can be read. -/
theorem spelledIn_of_mem_scan {source : String} {token : Token} (member : token ∈ scan source) :
    token.SpelledIn source.toList :=
  spelledIn_of_mem_scanRest member

end Token
end DotScript
