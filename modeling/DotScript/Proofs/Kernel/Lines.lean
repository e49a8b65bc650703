import DotScript.Kernel.Serve
import DotScript.Text.Pieces

/-!
# Lines in, lines out

The kernel reads bytes and writes text, both line by line.  The bytes of a text are read as the lines
of the text, and texts without control characters that are written on a line each are the lines of
what is written.
-/

namespace DotScript

/-! ## The lines of a text -/

namespace Text

/-- A text is empty, a last line, or a line with its end before another text. -/
theorem line_induction {motive : List Char → Prop} (nil : motive [])
    (last : ∀ line, line ≠ [] → '\n' ∉ line → motive line)
    (line : ∀ line rest, '\n' ∉ line → motive rest → motive (line ++ '\n' :: rest))
    (text : List Char) : motive text := by
  induction h : text.length using Nat.strongRecOn generalizing text with
  | ind length ih =>
      by_cases ends : '\n' ∈ text
      · obtain ⟨front, rest, rfl, unbroken⟩ := List.eq_append_cons_of_mem ends
        refine line front rest unbroken (ih rest.length ?_ rest rfl)
        rw [← h, List.length_append, List.length_cons]
        omega
      · by_cases empty : text = []
        · rw [empty]
          exact nil
        · exact last text empty ends

theorem linesFrom_eq_append (line text : List Char) (done : List (List Char)) :
    linesFrom line done text = done.reverse ++ linesFrom line [] text := by
  induction text generalizing line done with
  | nil =>
      rw [linesFrom, linesFrom]
      split <;> simp
  | cons c rest ih =>
      rw [linesFrom, linesFrom]
      split
      · rw [ih [] (endLine line :: done), ih [] [endLine line]]
        simp
      · exact ih (c :: line) done

theorem linesFrom_of_not_mem {line : List Char} (unbroken : '\n' ∉ line)
    (before : List Char) (done : List (List Char)) (text : List Char) :
    linesFrom before done (line ++ text) = linesFrom (line.reverse ++ before) done text := by
  induction line generalizing before with
  | nil => rfl
  | cons c line ih =>
      rw [List.mem_cons, not_or] at unbroken
      rw [List.cons_append, linesFrom, if_neg (Ne.symm unbroken.1), ih unbroken.2]
      simp

theorem lines_last {line : List Char} (some_text : line ≠ []) (unbroken : '\n' ∉ line) :
    lines line = [line] := by
  have read := linesFrom_of_not_mem unbroken [] [] []
  rw [List.append_nil, List.append_nil] at read
  rw [lines, read, linesFrom]
  simp [some_text]

theorem lines_cons {line : List Char} (unbroken : '\n' ∉ line) (rest : List Char) :
    lines (line ++ '\n' :: rest) = endLine line.reverse :: lines rest := by
  rw [lines, linesFrom_of_not_mem unbroken, linesFrom, if_pos rfl, linesFrom_eq_append]
  simp [lines]

/-- A line that does not end in a carriage return stays as it is. -/
theorem endLine_reverse {line : List Char} (plain : '\r' ∉ line) : endLine line.reverse = line := by
  unfold endLine
  split
  next rest reversed =>
    have member : '\r' ∈ line.reverse := by
      rw [reversed]
      exact List.mem_cons_self
    exact absurd (List.mem_reverse.1 member) plain
  next => exact List.reverse_reverse line

/-- Texts that are written on a line each are the lines of what is written. -/
theorem lines_flatMap {written : List (List Char)}
    (plain : ∀ line ∈ written, '\n' ∉ line ∧ '\r' ∉ line) :
    lines (written.flatMap (· ++ ['\n'])) = written := by
  induction written with
  | nil => rfl
  | cons line later ih =>
      obtain ⟨unbroken, whole⟩ := plain line List.mem_cons_self
      rw [List.flatMap_cons, List.append_assoc, List.singleton_append, lines_cons unbroken,
        endLine_reverse whole, ih fun line member => plain line (List.mem_cons_of_mem _ member)]

/-- Things that are written without control characters can be told apart by their line ends. -/
theorem lines_join {α : Type} {items : List α} {write : α → String}
    (clean : ∀ item ∈ items, ∀ c ∈ (write item).toList, Kernel.isControl c = false) :
    lines (String.join (items.map fun item => write item ++ "\n")).toList =
      items.map fun item => (write item).toList := by
  have ended : (String.join (items.map fun item => write item ++ "\n")).toList =
      (items.map fun item => (write item).toList).flatMap (· ++ ['\n']) := by
    rw [String.toList_join, List.flatMap_map, List.flatMap_map]
    simp only [String.toList_append]
    rfl
  rw [ended]
  apply lines_flatMap
  intro line member
  obtain ⟨item, found, rfl⟩ := List.mem_map.1 member
  constructor
  · intro broken
    exact absurd (clean item found _ broken) (by decide)
  · intro returned
    exact absurd (clean item found _ returned) (by decide)

end Text

/-! ## The lines of a stream -/

/-- The bytes of a text. -/
def bytesOf (text : List Char) : List UInt8 :=
  text.flatMap String.utf8EncodeChar

theorem bytesOf_append (front back : List Char) :
    bytesOf (front ++ back) = bytesOf front ++ bytesOf back :=
  List.flatMap_append

theorem bytesOf_ne_nil {text : List Char} (some_text : text ≠ []) : bytesOf text ≠ [] := by
  obtain ⟨c, rest, rfl⟩ := List.exists_cons_of_ne_nil some_text
  rw [bytesOf, List.flatMap_cons]
  exact List.append_ne_nil_of_left_ne_nil (String.utf8EncodeChar_ne_nil) _

theorem data_toUTF8 (text : String) : text.toUTF8.data.toList = bytesOf text.toList := by
  rw [String.toUTF8_eq_toByteArray, ← String.utf8Encode_toList, List.utf8Encode,
    List.data_toByteArray, bytesOf]

theorem textOfBytes_bytesOf (text : List Char) :
    textOfBytes (bytesOf text) = .ok (String.ofList text) := by
  have encoded : (⟨(bytesOf text).toArray⟩ : ByteArray) = text.utf8Encode :=
    ByteArray.ext List.data_toByteArray.symm
  have valid : ByteArray.IsValidUTF8 text.utf8Encode := ⟨text, rfl⟩
  rw [textOfBytes, encoded, String.fromUTF8?, dif_pos valid]
  rfl

theorem lineFeed_mem_encode {c : Char} (member : lineFeed ∈ String.utf8EncodeChar c) : c = '\n' := by
  have byte_eq {n : Nat} (same : lineFeed = UInt8.ofNat n) : 10 = n % 256 :=
    congrArg UInt8.toNat same
  rw [String.utf8EncodeChar] at member
  split at member
  · -- a byte of its own
    apply Char.ext
    apply UInt32.toNat_inj.1
    have := byte_eq (List.mem_singleton.1 member)
    change c.val.toNat = 10
    omega
  · -- all bytes of a longer character are 128 or more
    exfalso
    split at member
    · simp only [List.mem_cons, List.not_mem_nil, or_false] at member
      rcases member with same | same <;> have := byte_eq same <;> omega
    split at member
    · simp only [List.mem_cons, List.not_mem_nil, or_false] at member
      rcases member with same | same | same <;> have := byte_eq same <;> omega
    · simp only [List.mem_cons, List.not_mem_nil, or_false] at member
      rcases member with same | same | same | same <;> have := byte_eq same <;> omega

theorem lineFeed_not_mem {line : List Char} (unbroken : '\n' ∉ line) :
    lineFeed ∉ bytesOf line := by
  intro member
  obtain ⟨c, found, encoded⟩ := List.mem_flatMap.1 member
  rw [lineFeed_mem_encode encoded] at found
  exact unbroken found

theorem splitLine_of_not_mem {front : List UInt8} (unbroken : lineFeed ∉ front)
    (back : List UInt8) :
    splitLine (front ++ back) = (front ++ (splitLine back).1, (splitLine back).2) := by
  induction front with
  | nil => rfl
  | cons byte front ih =>
      rw [List.mem_cons, not_or] at unbroken
      rw [List.cons_append, splitLine, if_neg (Ne.symm unbroken.1), ih unbroken.2]
      rfl

theorem dropLineEnd_of_not_mem {line : List Char} (unbroken : '\n' ∉ line) :
    dropLineEnd (String.ofList line) = String.ofList line := by
  have other (rest : List Char) : line.reverse ≠ '\n' :: rest := by
    intro reversed
    apply unbroken
    rw [← List.mem_reverse, reversed]
    exact List.mem_cons_self
  rw [dropLineEnd, String.toList_ofList]
  split
  next reversed => exact absurd reversed (other _)
  next reversed => exact absurd reversed (other _)
  next => rfl

theorem dropLineEnd_append (line : List Char) :
    dropLineEnd (String.ofList (line ++ ['\n'])) = String.ofList (Text.endLine line.reverse) := by
  rw [dropLineEnd, String.toList_ofList, List.reverse_append, List.reverse_singleton,
    List.singleton_append]
  unfold Text.endLine
  split <;> rename_i reversed <;> grind

namespace Kernel

theorem streamLines_nil (limit : Nat) : streamLines limit [] = [] := by
  cases limit <;> rfl

theorem streamLines_of_ne_nil {bytes : List UInt8} {limit : Nat} (left : bytes ≠ [])
    (enough : bytes.length ≤ limit) :
    streamLines limit bytes =
      (textOfBytes (splitLine bytes).1).map dropLineEnd ::
        streamLines (limit - 1) (splitLine bytes).2 := by
  cases bytes with
  | nil => exact absurd rfl left
  | cons byte rest =>
      cases limit with
      | zero => exact absurd enough (Nat.not_succ_le_zero _)
      | succ limit => rfl

/-- The bytes of a text are read as the lines of the text. -/
theorem streamLines_bytesOf (text : List Char) {limit : Nat}
    (enough : (bytesOf text).length ≤ limit) :
    streamLines limit (bytesOf text) =
      (Text.lines text).map fun line => .ok (String.ofList line) := by
  induction text using Text.line_induction generalizing limit with
  | nil => cases limit <;> rfl
  | last line some_text unbroken =>
      have whole : splitLine (bytesOf line) = (bytesOf line, []) := by
        have cut := splitLine_of_not_mem (lineFeed_not_mem unbroken) []
        rw [List.append_nil] at cut
        rw [cut, splitLine, List.append_nil]
      rw [streamLines_of_ne_nil (bytesOf_ne_nil some_text) enough, whole, textOfBytes_bytesOf,
        Text.lines_last some_text unbroken, streamLines_nil]
      change [Except.ok (dropLineEnd (String.ofList line))] = _
      rw [dropLineEnd_of_not_mem unbroken]
      rfl
  | line line rest unbroken ih =>
      have bytes : bytesOf (line ++ '\n' :: rest) = bytesOf line ++ lineFeed :: bytesOf rest := by
        rw [bytesOf_append]
        rfl
      have cut : splitLine (bytesOf (line ++ '\n' :: rest)) =
          (bytesOf (line ++ ['\n']), bytesOf rest) := by
        rw [bytes, splitLine_of_not_mem (lineFeed_not_mem unbroken), splitLine, if_pos rfl,
          bytesOf_append]
        rfl
      have left : (bytesOf rest).length ≤ limit - 1 := by
        rw [bytes, List.length_append, List.length_cons] at enough
        omega
      rw [streamLines_of_ne_nil (bytesOf_ne_nil (by simp)) enough, cut, textOfBytes_bytesOf,
        Text.lines_cons unbroken, ih left]
      change Except.ok (dropLineEnd (String.ofList (line ++ ['\n']))) :: _ = _
      rw [dropLineEnd_append]
      rfl

theorem streamLines_toUTF8 (text : String) :
    streamLines text.toUTF8.data.toList.length text.toUTF8.data.toList =
      ((Text.lines text.toList).map String.ofList).map .ok := by
  rw [data_toUTF8, streamLines_bytesOf _ (Nat.le_refl _), List.map_map]
  rfl

end Kernel
end DotScript
