import DotScript.Kernel.Json
import DotScript.Proofs.Source.Numerals

/-!
# JSON is a faithful codec

What is written is read back: strings character by character, counts digit by digit, objects member
by member.  The readers of requests and of members differ in what they do with the value of a member
only, so that objects are read back once for both: `readObject_write`.  Besides, nothing that is
written has a control character, and a blank line is no object: `codec_isFaithful`.
-/

namespace DotScript
namespace Json

open Kernel

/-! ## Strings -/

theorem hexDigit?_hexDigits : ∀ value < 16, hexDigit? (hexDigits.getD value '0') = some value := by
  decide

/-- The escaped number of a control character denotes it. -/
theorem readCodePoint_control {c : Char} (control : isPlain c = false) (rest : List Char) :
    readCodePoint ('0' :: '0' :: hexDigits.getD (c.toNat / 16) '0' ::
      hexDigits.getD (c.toNat % 16) '0' :: rest) = some (c, rest) := by
  have small : c.toNat < 0x20 := by simpa [isPlain] using control
  have zero : hexDigit? '0' = some 0 := by decide
  have high := hexDigit?_hexDigits (c.toNat / 16) (by omega)
  have low := hexDigit?_hexDigits (c.toNat % 16) (by omega)
  have number : ((0 * 16 + 0) * 16 + c.toNat / 16) * 16 + c.toNat % 16 = c.toNat := by omega
  have not_high : isHighSurrogate c.toNat = false := by
    simp [isHighSurrogate]
    omega
  have not_low : isLowSurrogate c.toNat = false := by
    simp [isLowSurrogate]
    omega
  have read : readHex ('0' :: '0' :: hexDigits.getD (c.toNat / 16) '0' ::
      hexDigits.getD (c.toNat % 16) '0' :: rest) = some (c.toNat, rest) := by
    simp only [readHex, zero, high, low, Option.bind_eq_bind, Option.bind_some, number]
    rfl
  rw [readCodePoint, read, Option.bind_eq_bind, Option.bind_some]
  simp [not_high, not_low, Char.ofNat_toNat]

/-- A character is read back from how it is written in a string. -/
theorem readStringFrom_escape (limit : Nat) (done : List Char) (c : Char) (rest : List Char) :
    readStringFrom (limit + 1) done (escape c ++ rest) = readStringFrom limit (c :: done) rest := by
  unfold escape
  split
  case h_8 no_quote no_backslash _ _ _ _ _ =>
    split
    next plain =>
      rw [List.singleton_append, readStringFrom, if_neg no_quote, if_neg no_backslash, if_pos plain]
    next control =>
      have escaped (digits : List Char) : readStringFrom (limit + 1) done ('\\' :: 'u' :: digits) =
          (readCodePoint digits).bind fun read => readStringFrom limit (read.1 :: done) read.2 := rfl
      refine (escaped _).trans ?_
      have read := readCodePoint_control (Bool.eq_false_iff.2 control) rest
      exact congrArg (·.bind fun read => readStringFrom limit (read.1 :: done) read.2) read
  all_goals rfl

theorem readStringFrom_flatMap (chars : List Char) {limit : Nat} (done rest : List Char)
    (enough : chars.length < limit) :
    readStringFrom limit done (chars.flatMap escape ++ '"' :: rest) =
      some (String.ofList (done.reverse ++ chars), rest) := by
  induction chars generalizing limit done with
  | nil =>
      obtain ⟨limit, rfl⟩ := Nat.exists_eq_add_of_lt enough
      simp [readStringFrom]
  | cons c later ih =>
      obtain ⟨limit, rfl⟩ := Nat.exists_eq_add_of_lt enough
      rw [List.flatMap_cons, List.append_assoc, readStringFrom_escape, ih _ (by simp; omega)]
      simp

theorem length_le_flatMap_escape (chars : List Char) :
    chars.length ≤ (chars.flatMap escape).length := by
  have some_written (c : Char) : 1 ≤ (escape c).length := by
    unfold escape
    split
    case h_8 => split <;> simp
    all_goals simp
  induction chars with
  | nil => exact Nat.zero_le _
  | cons c later ih =>
      have here := some_written c
      rw [List.flatMap_cons, List.length_append, List.length_cons]
      omega

theorem toList_writeString (text : String) :
    (writeString text).toList = '"' :: (text.toList.flatMap escape ++ ['"']) := by
  rw [writeString, String.toList_ofList]
  rfl

/-- A string is read back, whatever follows it. -/
theorem readString_write (text : String) (rest : List Char) :
    readString ((writeString text).toList ++ rest) = some (text, rest) := by
  have enough : text.toList.length < (text.toList.flatMap escape ++ '"' :: rest).length + 1 := by
    have short := length_le_flatMap_escape text.toList
    rw [List.length_append]
    omega
  rw [toList_writeString, List.cons_append, List.append_assoc, List.singleton_append, readString,
    readStringFrom_flatMap text.toList [] rest enough, List.reverse_nil, List.nil_append,
    String.ofList_toList]

/-! ## Values -/

/-- Nothing is skipped where the next character is no white space. -/
theorem skipSpace_cons {c : Char} (other : isSpace c = false) (rest : List Char) :
    skipSpace (c :: rest) = c :: rest := by
  simp [skipSpace, other]

theorem skipSpace_writeString (text : String) (rest : List Char) :
    skipSpace ((writeString text).toList ++ rest) = (writeString text).toList ++ rest := by
  rw [toList_writeString, List.cons_append]
  exact skipSpace_cons rfl _

/-- What stands between texts is written after all of them but the last one. -/
theorem toList_intercalate_cons (text : String) {later : List String} (some_left : later ≠ []) :
    (",".intercalate (text :: later)).toList =
      text.toList ++ ',' :: (",".intercalate later).toList := by
  rw [String.intercalate_cons_of_ne_nil some_left, String.toList_append, String.toList_append,
    List.append_assoc]
  rfl

/-- The text begins with a quote. -/
def IsQuoted (text : String) : Prop :=
  ∃ more, text.toList = '"' :: more

theorem isQuoted_writeString (text : String) : IsQuoted (writeString text) :=
  ⟨_, toList_writeString text⟩

theorem IsQuoted.append {text : String} (quoted : IsQuoted text) (more : String) :
    IsQuoted (text ++ more) := by
  obtain ⟨rest, begins⟩ := quoted
  exact ⟨rest ++ more.toList, by rw [String.toList_append, begins, List.cons_append]⟩

section Separated

variable {texts : List String} (quoted : ∀ text ∈ texts, IsQuoted text)

include quoted

/-- Texts with commas between them are no fewer than their characters. -/
theorem length_le_intercalate : texts.length ≤ (",".intercalate texts).toList.length := by
  induction texts with
  | nil => exact Nat.zero_le _
  | cons text later ih =>
      obtain ⟨⟨more, begins⟩, rest⟩ := List.forall_mem_cons.1 quoted
      have long := ih rest
      by_cases some_left : later = []
      · subst some_left
        simp [begins]
      · rw [toList_intercalate_cons text some_left, begins, List.length_append, List.length_cons,
          List.length_cons, List.length_cons]
        omega

theorem isQuoted_intercalate (some_text : texts ≠ []) : IsQuoted (",".intercalate texts) := by
  obtain ⟨text, later, rfl⟩ := List.exists_cons_of_ne_nil some_text
  obtain ⟨more, begins⟩ := quoted text List.mem_cons_self
  by_cases some_left : later = []
  · subst some_left
    exact ⟨more, by rw [String.intercalate_singleton, begins]⟩
  · exact ⟨_, by rw [toList_intercalate_cons text some_left, begins, List.cons_append]⟩

end Separated

theorem readStrings_comma (limit : Nat) (done : List String) (text : String) (rest : List Char) :
    readStrings (limit + 1) done ((writeString text).toList ++ ',' :: rest) =
      readStrings limit (text :: done) rest := by
  rw [readStrings, skipSpace_writeString, readString_write]
  rfl

theorem readStrings_bracket (limit : Nat) (done : List String) (text : String) (rest : List Char) :
    readStrings (limit + 1) done ((writeString text).toList ++ ']' :: rest) =
      some ((text :: done).reverse, rest) := by
  rw [readStrings, skipSpace_writeString, readString_write]
  rfl

theorem readStrings_write (texts : List String) (some_text : texts ≠ []) {limit : Nat}
    (enough : texts.length ≤ limit) (done : List String) (rest : List Char) :
    readStrings limit done ((",".intercalate (texts.map writeString)).toList ++ ']' :: rest) =
      some (done.reverse ++ texts, rest) := by
  induction texts generalizing limit done with
  | nil => exact absurd rfl some_text
  | cons text later ih =>
      obtain ⟨limit, rfl⟩ := Nat.exists_eq_add_one.2 (Nat.lt_of_lt_of_le (Nat.succ_pos _) enough)
      by_cases some_left : later = []
      · subst some_left
        rw [List.map_singleton, String.intercalate_singleton, readStrings_bracket,
          List.reverse_cons]
      · rw [List.map_cons, toList_intercalate_cons _ (by simpa using some_left), List.append_assoc,
          List.cons_append, readStrings_comma, ih some_left (Nat.le_of_succ_le_succ enough),
          List.reverse_cons, List.append_assoc, List.singleton_append]

/-! A value in an object is followed by a comma or by the closing brace. -/

/-- What may follow a value in an object. -/
def EndsValue (rest : List Char) : Prop :=
  ∃ mark more, rest = mark :: more ∧ (mark = ',' ∨ mark = '\x7d')

theorem readCount_write (count : Nat) {rest : List Char} (ends : EndsValue rest) :
    readCount (count.repr.toList ++ rest) = some (count, rest) := by
  obtain ⟨mark, more, rfl, is_mark⟩ := ends
  have digits : ∀ d ∈ Nat.toDigits 10 count, d.isDigit = true := fun _ member =>
    Nat.isDigit_of_mem_toDigits (by decide) (by decide) member
  have stops : mark.isDigit = false := by
    rcases is_mark with rfl | rfl <;> decide
  have read : IntegerText.readMagnitude (Nat.toDigits 10 count) = .ok count := by
    refine IntegerText.readMagnitude_eq_ok_iff.2 ⟨.of_digits Nat.toDigits_ne_nil digits, ?_⟩
    rw [digitsOf_eq_self digits, Nat.ofDigitChars_ten_toDigits]
  have taken : (Nat.toDigits 10 count ++ mark :: more).takeWhile Char.isDigit =
      Nat.toDigits 10 count := by
    rw [List.takeWhile_append_of_pos digits, List.takeWhile_cons_of_neg (by simp [stops]),
      List.append_nil]
  have left : (Nat.toDigits 10 count ++ mark :: more).dropWhile Char.isDigit = mark :: more := by
    rw [List.dropWhile_append_of_pos digits, List.dropWhile_cons_of_neg (by simp [stops])]
  rw [Nat.toList_repr, readCount, taken, read, left]

theorem isSpace_of_isDigit {c : Char} (digit : c.isDigit = true) : isSpace c = false := by
  unfold isSpace
  simp only [Bool.or_eq_false_iff, beq_eq_false_iff_ne]
  refine ⟨⟨⟨?_, ?_⟩, ?_⟩, ?_⟩ <;> rintro rfl <;> exact absurd digit (by decide)

theorem readDatum_count (count : Nat) {rest : List Char} (ends : EndsValue rest) :
    readDatum (count.repr.toList ++ rest) = some (.count count, rest) := by
  have read := readCount_write count ends
  have first_digit : ∃ first more, count.repr.toList = first :: more ∧ first.isDigit = true := by
    have digits : ∀ d ∈ count.repr.toList, d.isDigit = true := fun _ member =>
      Nat.isDigit_of_mem_toDigits (by decide) (by decide) (Nat.toList_repr ▸ member)
    cases written : count.repr.toList with
    | nil => exact absurd (Nat.toList_repr.symm.trans written) Nat.toDigits_ne_nil
    | cons first more => exact ⟨first, more, rfl, digits first (written ▸ List.mem_cons_self)⟩
  obtain ⟨first, more, written, digit⟩ := first_digit
  rw [written, List.cons_append] at read ⊢
  unfold readDatum
  rw [skipSpace_cons (isSpace_of_isDigit digit)]
  split
  next same =>
    cases same
    cases digit
  next same =>
    cases same
    cases digit
  next => rw [read, Option.map_some]

theorem toList_writeStrings (texts : List String) :
    (writeStrings texts).toList =
      '[' :: ((",".intercalate (texts.map writeString)).toList ++ [']']) := by
  rw [writeStrings, String.toList_append, String.toList_append]
  rfl

theorem readDatum_texts (texts : List String) (rest : List Char) :
    readDatum ((writeStrings texts).toList ++ rest) = some (.texts texts, rest) := by
  rw [toList_writeStrings, List.cons_append, List.append_assoc, List.singleton_append]
  cases texts with
  | nil => rfl
  | cons text later =>
      have quoted : ∀ written ∈ (text :: later).map writeString, IsQuoted written :=
        List.forall_mem_map.2 fun text _ => isQuoted_writeString text
      obtain ⟨more, written⟩ := isQuoted_intercalate quoted (List.cons_ne_nil _ _)
      have enough : (text :: later).length ≤
          ((",".intercalate ((text :: later).map writeString)).toList ++ ']' :: rest).length + 1 := by
        have long := length_le_intercalate quoted
        rw [List.length_map] at long
        rw [List.length_append]
        omega
      have read := readStrings_write (text :: later) (List.cons_ne_nil _ _) enough [] rest
      rw [written, List.cons_append] at read ⊢
      change (readStrings _ [] _).map _ = _
      rw [read]
      rfl

/-- A value is read back. -/
theorem readDatum_write (datum : Datum) {rest : List Char} (ends : EndsValue rest) :
    readDatum ((writeDatum datum).toList ++ rest) = some (datum, rest) := by
  cases datum with
  | text text =>
      have read := readString_write text rest
      rw [toList_writeString, List.cons_append] at read
      rw [writeDatum, toList_writeString, List.cons_append, readDatum, skipSpace_cons rfl]
      change (readString _).map _ = _
      rw [read]
      rfl
  | texts texts => exact readDatum_texts texts rest
  | count count => exact readDatum_count count ends

/-! ## Objects -/

theorem toList_writeMember (member : String × Datum) (rest : List Char) :
    (writeMember member).toList ++ rest =
      (writeString member.1).toList ++ ':' :: ((writeDatum member.2).toList ++ rest) := by
  rw [writeMember, String.toList_append, String.toList_append, List.append_assoc, List.append_assoc]
  rfl

/-- Members between commas begin with quotes. -/
theorem isQuoted_writeMember (members : Members) :
    ∀ written ∈ members.map writeMember, IsQuoted written :=
  List.forall_mem_map.2 fun member _ => ((isQuoted_writeString member.1).append _).append _

/-- Reading the values of members, as they are written, leads from one state to another. -/
inductive TakesIn {State : Type}
    (readMember : State → String → List Char → Option (State × List Char)) :
    State → Members → State → Prop
  | nil {state : State} : TakesIn readMember state [] state
  | cons {state middle last : State} {member : String × Datum} {later : Members} :
      (∀ rest, EndsValue rest →
        readMember state member.1 ((writeDatum member.2).toList ++ rest) = some (middle, rest)) →
      TakesIn readMember middle later last → TakesIn readMember state (member :: later) last

section Objects

variable {State : Type} {readMember : State → String → List Char → Option (State × List Char)}
  {state middle last : State} {member : String × Datum}

theorem readMembers_comma (limit : Nat) (rest : List Char)
    (read : ∀ rest, EndsValue rest →
      readMember state member.1 ((writeDatum member.2).toList ++ rest) = some (middle, rest)) :
    readMembers readMember (limit + 1) state ((writeMember member).toList ++ ',' :: rest) =
      readMembers readMember limit middle rest := by
  have value := read (',' :: rest) ⟨',', rest, rfl, .inl rfl⟩
  rw [toList_writeMember, readMembers, skipSpace_writeString, readString_write]
  change (readMember state member.1 _).bind _ = _
  rw [value]
  rfl

theorem readMembers_brace (limit : Nat) (rest : List Char)
    (read : ∀ rest, EndsValue rest →
      readMember state member.1 ((writeDatum member.2).toList ++ rest) = some (middle, rest)) :
    readMembers readMember (limit + 1) state ((writeMember member).toList ++ '\x7d' :: rest) =
      some (middle, rest) := by
  have value := read ('\x7d' :: rest) ⟨'\x7d', rest, rfl, .inr rfl⟩
  rw [toList_writeMember, readMembers, skipSpace_writeString, readString_write]
  change (readMember state member.1 _).bind _ = _
  rw [value]
  rfl

theorem readMembers_write {members : Members} (takes : TakesIn readMember state members last)
    (some_member : members ≠ []) {limit : Nat} (enough : members.length ≤ limit)
    (rest : List Char) :
    readMembers readMember limit state
      ((",".intercalate (members.map writeMember)).toList ++ '\x7d' :: rest) = some (last, rest) := by
  induction takes generalizing limit with
  | nil => exact absurd rfl some_member
  | @cons state middle last member later read takes ih =>
      obtain ⟨limit, rfl⟩ := Nat.exists_eq_add_one.2 (Nat.lt_of_lt_of_le (Nat.succ_pos _) enough)
      by_cases some_left : later = []
      · subst some_left
        cases takes
        rw [List.map_singleton, String.intercalate_singleton, readMembers_brace limit rest read]
      · rw [List.map_cons, toList_intercalate_cons _ (by simpa using some_left), List.append_assoc,
          List.cons_append, readMembers_comma limit _ read,
          ih some_left (Nat.le_of_succ_le_succ enough)]

/-- An object is read back by every reader that takes in its members. -/
theorem readObject_write {members : Members} (takes : TakesIn readMember state members last)
    (rest : List Char) :
    readObject readMember state
      ((",".intercalate (members.map writeMember)).toList ++ '\x7d' :: rest) = some (last, rest) := by
  by_cases some_member : members = []
  · subst some_member
    cases takes
    rfl
  · have quoted := isQuoted_writeMember members
    obtain ⟨more, written⟩ := isQuoted_intercalate quoted (by simpa using some_member)
    have enough : members.length ≤
        ((",".intercalate (members.map writeMember)).toList ++ '\x7d' :: rest).length + 1 := by
      have long := length_le_intercalate quoted
      rw [List.length_map] at long
      rw [List.length_append]
      omega
    have read := readMembers_write takes some_member enough rest
    rw [written, List.cons_append] at read ⊢
    exact read

end Objects

theorem toList_writeObject (members : Members) :
    (writeObject members).toList =
      '\x7b' :: ((",".intercalate (members.map writeMember)).toList ++ ['\x7d']) := by
  rw [writeObject, String.toList_append, String.toList_append]
  rfl

/-! ## Members and requests -/

theorem takesIn_addMember (members before : Members) :
    TakesIn addMember before members (members.reverse ++ before) := by
  induction members generalizing before with
  | nil => exact .nil
  | cons member later ih =>
      rw [List.reverse_cons, List.append_assoc, List.singleton_append]
      refine .cons (fun rest ends => ?_) (ih (member :: before))
      rw [addMember, readDatum_write member.2 ends]
      rfl

/-- The members of an object are read back in order. -/
theorem readLine?_write (members : Members) : readLine? (writeObject members) = some members := by
  have read := readObject_write (takesIn_addMember members []) []
  rw [readLine?, toList_writeObject]
  change (readObject addMember [] _).bind _ = _
  rw [read]
  simp

theorem takesIn_readField {fields last : Fields} {name value : String} {field : Field}
    {later : Members} (named : Field.ofName? name = some field) (new : fields.lookup field = none)
    (takes : TakesIn readField ((field, value) :: fields) later last) :
    TakesIn readField fields ((name, .text value) :: later) last := by
  refine .cons (fun rest _ => ?_) takes
  simp only [readField, named, new, writeDatum, skipSpace_writeString, readString_write]
  rfl

/-- A message is read as the request that it makes. -/
theorem readRequest?_write (message : Message) :
    readRequest? (writeObject message.members) = some message.request := by
  obtain ⟨action, cellId?, code?⟩ := message
  obtain ⟨fields, takes, asks⟩ : ∃ fields,
      TakesIn readField [] (Message.members ⟨action, cellId?, code?⟩) fields ∧
        requestOf? fields = some (Message.request ⟨action, cellId?, code?⟩) := by
    cases cellId? with
    | none =>
        cases code? with
        | none => exact ⟨_, takesIn_readField rfl rfl .nil, rfl⟩
        | some code => exact ⟨_, takesIn_readField rfl rfl (takesIn_readField rfl rfl .nil), rfl⟩
    | some cellId =>
        cases code? with
        | none => exact ⟨_, takesIn_readField rfl rfl (takesIn_readField rfl rfl .nil), rfl⟩
        | some code =>
            exact ⟨_, takesIn_readField rfl rfl
              (takesIn_readField rfl rfl (takesIn_readField rfl rfl .nil)), rfl⟩
  have read := readObject_write takes []
  rw [readRequest?, toList_writeObject]
  change (readObject readField [] _).bind _ = _
  rw [read]
  exact asks

/-- What is read as a request begins with a brace or a bracket. -/
theorem isBlankLine_of_readRequest? {line : String} {request : Request}
    (read : readRequest? line = some request) : isBlankLine line = false := by
  have opened : ∃ c ∈ line.toList, c = '\x7b' ∨ c = '[' := by
    have inside {c : Char} {rest : List Char} (left : skipSpace line.toList = c :: rest) :
        c ∈ line.toList := by
      have first : c ∈ skipSpace line.toList := left ▸ List.mem_cons_self
      exact (List.dropWhile_sublist isSpace).subset first
    unfold readRequest? readFields at read
    split at read
    next left => exact ⟨_, inside left, .inl rfl⟩
    next left => exact ⟨_, inside left, .inr rfl⟩
    next => cases read
  obtain ⟨c, member, is_mark⟩ := opened
  refine List.all_eq_false.2 ⟨c, member, ?_⟩
  rcases is_mark with rfl | rfl <;> decide

/-! ## Control characters -/

/-- No character of a text is a control character. -/
def IsClean (text : String) : Prop :=
  ∀ c ∈ text.toList, isControl c = false

instance (text : String) : Decidable (IsClean text) :=
  decidable_of_iff (text.toList.all (!isControl ·) = true) (by simp [IsClean])

theorem IsClean.append {front back : String} (first : IsClean front) (second : IsClean back) :
    IsClean (front ++ back) := by
  intro c member
  rw [String.toList_append, List.mem_append] at member
  rcases member with member | member
  · exact first c member
  · exact second c member

theorem IsClean.intercalate {separator : String} {texts : List String} (between : IsClean separator)
    (clean : ∀ text ∈ texts, IsClean text) : IsClean (separator.intercalate texts) := by
  induction texts with
  | nil => exact fun c member => absurd member List.not_mem_nil
  | cons text later ih =>
      obtain ⟨here, rest⟩ := List.forall_mem_cons.1 clean
      by_cases some_left : later = []
      · rw [some_left, String.intercalate_singleton]
        exact here
      · rw [String.intercalate_cons_of_ne_nil some_left]
        exact (here.append between).append (ih rest)

theorem isControl_hexDigit (index : Nat) : isControl (hexDigits.getD index '0') = false := by
  have clean : ∀ digit ∈ hexDigits, isControl digit = false := by simp [hexDigits, isControl]
  rw [List.getD_eq_getElem?_getD]
  cases found : hexDigits[index]? with
  | none => rfl
  | some digit => exact clean digit (List.mem_of_getElem? found)

theorem isControl_of_mem_escape (c : Char) : ∀ written ∈ escape c, isControl written = false := by
  unfold escape
  split
  case h_8 =>
    split
    next plain =>
      have high : 0x20 ≤ c.toNat := by simpa [isPlain] using plain
      simpa [isControl] using high
    next =>
      simp only [List.forall_mem_cons, isControl_hexDigit]
      simp [isControl]
  all_goals simp [isControl]

theorem isClean_writeString (text : String) : IsClean (writeString text) := by
  intro c member
  rw [toList_writeString, List.mem_cons, List.mem_append, List.mem_singleton, List.mem_flatMap]
    at member
  rcases member with rfl | ⟨source, -, escaped⟩ | rfl
  · decide
  · exact isControl_of_mem_escape source c escaped
  · decide

theorem isClean_repr (number : Nat) : IsClean number.repr := by
  intro c member
  rw [Nat.toList_repr] at member
  have digit := Nat.isDigit_of_mem_toDigits (by decide) (by decide) member
  rw [Char.isDigit_iff_toNat] at digit
  have high : 0x20 ≤ c.toNat := Nat.le_trans (by decide) digit.1
  simpa [isControl] using high

theorem isClean_writeDatum (datum : Datum) : IsClean (writeDatum datum) := by
  cases datum with
  | text text => exact isClean_writeString text
  | texts texts =>
      have between : IsClean "," := by decide
      have items := between.intercalate (List.forall_mem_map.2 fun text (_ : text ∈ texts) =>
        isClean_writeString text)
      have opening : IsClean "[" := by decide
      have closing : IsClean "]" := by decide
      exact (opening.append items).append closing
  | count count => exact isClean_repr count

/-- Whatever strings stand in an object, no control character is written. -/
theorem isClean_writeObject (members : Members) : IsClean (writeObject members) := by
  have between : IsClean "," := by decide
  have colon : IsClean ":" := by decide
  have items := between.intercalate (List.forall_mem_map.2 fun member (_ : member ∈ members) =>
    ((isClean_writeString member.1).append colon).append (isClean_writeDatum member.2))
  have opening : IsClean "\x7b" := by decide
  have closing : IsClean "\x7d" := by decide
  exact (opening.append items).append closing

/-! ## The codec -/

theorem codec_read_eq_ok_iff {line : String} {request : Request} :
    codec.read line = .ok request ↔ readRequest? line = some request := by
  simp only [codec]
  cases readRequest? line <;> simp

/-- JSON keeps what the protocol relies on. -/
theorem codec_isFaithful : codec.IsFaithful readLine? where
  accepts message := codec_read_eq_ok_iff.2 (readRequest?_write message)
  refuses _ _ accepted := isBlankLine_of_readRequest? (codec_read_eq_ok_iff.1 accepted)
  escapes := isClean_writeObject
  decodes members _ := readLine?_write members

end Json
end DotScript
