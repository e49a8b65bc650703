import DotScript.Builtin.Call
import DotScript.Method.Call
import Mathlib.Order.Bounds.Basic

/-!
# Slices and places of texts

Slicing, finding and measuring a text count the same characters, whatever the bounds are and however
many bytes the characters take.  A slice holds the characters between the places that its bounds
stand for, and a text is found at the least place at which slicing gives it back.
-/

namespace DotScript

namespace Text

variable {needle text : List Char}

/-- The search finds the first place at which the text goes on with what is looked for. -/
theorem positionFrom_eq_some {start found : Nat}
    (done : positionFrom needle start text = some found) :
    ∃ index, found = start + index ∧ needle <+: text.drop index ∧
      ∀ earlier < index, ¬ needle <+: text.drop earlier := by
  induction text generalizing start with
  | nil =>
      rw [positionFrom] at done
      split at done
      next empty =>
        cases done
        rw [List.isEmpty_iff.1 empty]
        exact ⟨0, rfl, List.nil_prefix, fun earlier before => absurd before (Nat.not_lt_zero _)⟩
      next => cases done
  | cons c rest ih =>
      rw [positionFrom] at done
      split at done
      next here =>
        cases done
        exact ⟨0, rfl, List.isPrefixOf_iff_prefix.1 here,
          fun earlier before => absurd before (Nat.not_lt_zero _)⟩
      next elsewhere =>
        obtain ⟨index, rfl, occurs, first⟩ := ih done
        refine ⟨index + 1, by omega, occurs, fun earlier before => ?_⟩
        cases earlier with
        | zero => exact fun occurs => elsewhere (List.isPrefixOf_iff_prefix.2 occurs)
        | succ earlier => exact first earlier (Nat.lt_of_succ_lt_succ before)

/-- The search fails only if the text goes on nowhere with what is looked for. -/
theorem not_prefix_of_positionFrom {start : Nat} (failed : positionFrom needle start text = none)
    (index : Nat) : ¬ needle <+: text.drop index := by
  induction text generalizing start index with
  | nil =>
      rw [positionFrom] at failed
      split at failed
      next => cases failed
      next some_char =>
        intro occurs
        rw [List.drop_nil, List.prefix_nil] at occurs
        exact some_char (List.isEmpty_iff.2 occurs)
  | cons c rest ih =>
      rw [positionFrom] at failed
      split at failed
      next => cases failed
      next elsewhere =>
        cases index with
        | zero => exact fun occurs => elsewhere (List.isPrefixOf_iff_prefix.2 occurs)
        | succ index => exact ih failed index

/-- A text stands at the first of the places at which the other one goes on with it. -/
theorem position?_eq_some_iff {index : Nat} :
    position? needle text = some index ↔
      needle <+: text.drop index ∧ ∀ earlier < index, ¬ needle <+: text.drop earlier := by
  constructor
  · intro found
    obtain ⟨index, rfl, occurs, first⟩ := positionFrom_eq_some found
    rw [Nat.zero_add]
    exact ⟨occurs, first⟩
  · rintro ⟨occurs, first⟩
    cases found : position? needle text with
    | none => exact absurd occurs (not_prefix_of_positionFrom found index)
    | some other =>
        obtain ⟨other, rfl, other_occurs, other_first⟩ := positionFrom_eq_some found
        rw [Nat.zero_add]
        rcases Nat.lt_trichotomy other index with before | same | behind
        · exact absurd other_occurs (first other before)
        · rw [same]
        · exact absurd occurs (other_first index behind)

/-- Of two beginnings of a text, the one with fewer bytes has no more characters. -/
theorem length_le_of_utf8ByteSize_le {whole before after other rest : String}
    (split : whole = before ++ after) (split' : whole = other ++ rest)
    (fewer : before.utf8ByteSize ≤ other.utf8ByteSize) : before.length ≤ other.length := by
  by_contra longer
  have front : before.toList <+: whole.toList := ⟨after.toList, by rw [split, String.toList_append]⟩
  have front' : other.toList <+: whole.toList := ⟨rest.toList, by rw [split', String.toList_append]⟩
  obtain ⟨between, between_eq⟩ := List.prefix_of_prefix_length_le front' front
    (by rw [String.length_toList, String.length_toList]; omega)
  have parts : other ++ String.ofList between = before := by
    rw [← String.toList_inj, String.toList_append, String.toList_ofList, between_eq]
  have bytes := congrArg String.utf8ByteSize parts
  rw [String.utf8ByteSize_append] at bytes
  have nothing : String.ofList between = "" := String.utf8ByteSize_eq_zero_iff.1 (by omega)
  rw [nothing, String.append_empty] at parts
  exact longer (Nat.le_of_eq (congrArg String.length parts).symm)

end Text

namespace StringMethod

/-- The place that a bound of a slice stands for: a negative bound counts from the end, and every
place lies within the text. -/
def place (length : Nat) (bound : Int) : Nat :=
  (max 0 (min (length : Int) (if bound < 0 then bound + length else bound))).toNat

theorem place_le (length : Nat) (bound : Int) : place length bound ≤ length := by
  unfold place
  omega

/-- Bounds are cut to the text. -/
theorem clampBound_eq (length : Nat) (bound : Int) : clampBound length bound = place length bound := by
  unfold clampBound place
  split <;> omega

theorem place_natCast (length bound : Nat) : place length bound = min bound length := by
  rw [← clampBound_eq, clampBound, if_neg (by omega), Int.toNat_natCast]

/-- The place of a bound, found on machine words unless one of them overflows.  A bound that no word
holds lies beyond one of the ends. -/
def wordPlace? (length : Int64) : Integer → Option Int64
  | .word bound =>
    if bound < 0 then (Integer.addWords bound length).map (max · 0) else some (min bound length)
  | .wide bound _ => some (if bound < 0 then 0 else length)

theorem toInt_max (a b : Int64) : (max a b).toInt = max a.toInt b.toInt := by
  change (if a ≤ b then b else a).toInt = _
  rw [apply_ite Int64.toInt, Int.max_def]
  simp only [Int64.le_iff_toInt_le]

theorem toInt_min (a b : Int64) : (min a b).toInt = min a.toInt b.toInt := by
  change (if a ≤ b then a else b).toInt = _
  rw [apply_ite Int64.toInt, Int.min_def]
  simp only [Int64.le_iff_toInt_le]

/-- No word overflows on the way to a place. -/
theorem exists_wordPlace?_eq {length : Nat} (fits : fitsWord length = true) (bound : Integer) :
    ∃ word, wordPlace? (Int64.ofNat length) bound = some word ∧
      word.toInt = place length bound.toInt := by
  have room := (Integer.fitsWord_iff.1 fits).2
  have length_eq : (Int64.ofNat length).toInt = length := Int64.toInt_ofNat_of_lt (by omega)
  cases bound with
  | word bound =>
      have inside := Integer.fitsWord_iff.1 (Integer.fitsWord_toInt bound)
      have below : bound < 0 ↔ bound.toInt < 0 := Int64.lt_iff_toInt_lt
      by_cases negative : bound.toInt < 0
      · have sum_fits : fitsWord (bound.toInt + (Int64.ofNat length).toInt) = true :=
          Integer.fitsWord_iff.2 (by omega)
        have added : Integer.addWords bound (Int64.ofNat length) = some (bound + Int64.ofNat length) :=
          if_pos sum_fits
        refine ⟨max (bound + Int64.ofNat length) 0, ?_, ?_⟩
        · rw [wordPlace?, if_pos (below.2 negative), added, Option.map_some]
        · rw [toInt_max, Integer.toInt_of_addWords added, length_eq, Int64.toInt_zero, place,
            Integer.toInt, if_pos negative]
          omega
      · refine ⟨min bound (Int64.ofNat length), if_neg (mt below.1 negative), ?_⟩
        rw [toInt_min, length_eq, place, Integer.toInt, if_neg negative]
        omega
  | wide bound beyond =>
      have outside : ¬ (-9223372036854775808 ≤ bound ∧ bound < 9223372036854775808) := fun inside =>
        Bool.eq_false_iff.1 beyond (Integer.fitsWord_iff.2 inside)
      refine ⟨if bound < 0 then 0 else Int64.ofNat length, rfl, ?_⟩
      rw [apply_ite Int64.toInt, length_eq, Int64.toInt_zero, place, Integer.toInt]
      split <;> omega

/-- A slice holds the characters from one place up to the other one. -/
theorem map_getElem?_range' {chars : List Char} {last : Nat} (within : last ≤ chars.length)
    (first : Nat) :
    (List.range' first (last - first)).map (chars[·]?) = (sliceOf chars first last).map some := by
  have same_length : (List.range' first (last - first)).length = (sliceOf chars first last).length := by
    simp only [sliceOf, List.length_range', List.length_drop, List.length_take]
    omega
  apply List.ext_getElem (by rw [List.length_map, List.length_map, same_length])
  intro index inside inside'
  rw [List.length_map, List.length_range'] at inside
  rw [List.getElem_map, List.getElem_map, List.getElem_range', Nat.one_mul,
    List.getElem?_eq_getElem (by omega)]
  simp only [sliceOf, List.getElem_drop, List.getElem_take]

/-- Slicing gives a text back exactly where the other one goes on with it. -/
theorem sliceOf_eq_iff {chars needle : List Char} (index : Nat) :
    sliceOf chars (min index chars.length) (min (index + needle.length) chars.length) = needle ↔
      needle <+: chars.drop index := by
  have same : sliceOf chars (min index chars.length) (min (index + needle.length) chars.length) =
      (chars.drop index).take needle.length := by
    rw [sliceOf, ← List.take_eq_take_min, List.take_drop]
    rcases Nat.le_total index chars.length with inside | beyond
    · rw [Nat.min_eq_left inside]
    · rw [Nat.min_eq_right beyond, List.drop_eq_nil_of_le (List.length_take_le' _ _),
        List.drop_eq_nil_of_le ((List.length_take_le' _ _).trans beyond)]
  rw [same, List.prefix_iff_eq_take]
  exact eq_comm

/-! ## Calls -/

variable {text needle : String}

/-- What slicing a text between two bounds gives. -/
def partOf (text : String) (first last : Integer) : Except Fault Value :=
  Value.callMethod (.string text) "slice" [.int first, .int last]

/-- The places at which slicing a text gives another one. -/
def placesOf (needle text : String) : Set Int :=
  {index | 0 ≤ index ∧
    partOf text (.ofInt index) (.ofInt (index + needle.length)) = .ok (.string needle)}

theorem partOf_eq (text : String) (first last : Integer) :
    partOf text first last = .ok (.ofChars (sliceOf text.toList
      (place text.length first.toInt) (place text.length last.toInt))) := by
  rw [← clampBound_eq, ← clampBound_eq, ← String.length_toList]
  rfl

/-- Slices give a text back where it occurs. -/
theorem natCast_mem_placesOf {index : Nat} :
    (index : Int) ∈ placesOf needle text ↔ needle.toList <+: text.toList.drop index := by
  have sliced : partOf text (.ofInt index) (.ofInt (index + needle.length)) =
      .ok (.ofChars (sliceOf text.toList (min index text.toList.length)
        (min (index + needle.toList.length) text.toList.length))) := by
    rw [partOf_eq, Integer.toInt_ofInt, Integer.toInt_ofInt, place_natCast, ← Int.natCast_add,
      place_natCast, String.length_toList, String.length_toList]
  rw [← sliceOf_eq_iff index]
  constructor
  · rintro ⟨-, found⟩
    rw [sliced, Value.ofChars, Except.ok.injEq, Value.string.injEq] at found
    have chars := congrArg String.toList found
    rwa [String.toList_ofList] at chars
  · intro found
    refine ⟨Int.natCast_nonneg index, ?_⟩
    rw [sliced, found, Value.ofChars, String.ofList_toList]

/-- The first occurrence of a text is the least place of it. -/
theorem isLeast_placesOf {index : Nat}
    (found : Text.position? needle.toList text.toList = some index) :
    IsLeast (placesOf needle text) (index : Int) := by
  obtain ⟨occurs, first⟩ := Text.position?_eq_some_iff.1 found
  refine ⟨natCast_mem_placesOf.2 occurs, fun other inside => ?_⟩
  lift other to Nat using inside.1
  by_contra before
  exact first other (by omega) (natCast_mem_placesOf.1 inside)

theorem placesOf_eq_empty (failed : Text.position? needle.toList text.toList = none) :
    placesOf needle text = ∅ := by
  apply Set.eq_empty_of_forall_notMem
  intro index inside
  lift index to Nat using inside.1
  exact Text.not_prefix_of_positionFrom failed index (natCast_mem_placesOf.1 inside)

/-- Whether the two parts of a text at a bound make it up. -/
def rejoins (text : String) (middle : Integer) : Except Fault Value := do
  let length ← Builtin.len.compute [.string text]
  let front ← Value.callMethod (.string text) "slice" [.int 0, .int middle]
  let back ← Value.callMethod (.string text) "slice" [.int middle, length]
  Value.binary .equal (← Value.binary .add front back) (.string text)

theorem rejoins_eq (text : String) (middle : Integer) : rejoins text middle = .ok (.flag true) := by
  have measured : Builtin.len.compute [.string text] = .ok (.int (.ofInt text.length)) := rfl
  have front : Value.callMethod (.string text) "slice" [.int 0, .int middle] =
      .ok (.ofChars (text.toList.take (place text.length middle.toInt))) := by
    refine (partOf_eq text 0 middle).trans ?_
    rw [show (0 : Integer).toInt = (0 : Nat) from rfl, place_natCast, Nat.zero_min, sliceOf,
      List.drop_zero]
  have back : Value.callMethod (.string text) "slice" [.int middle, .int (.ofInt text.length)] =
      .ok (.ofChars (text.toList.drop (place text.length middle.toInt))) := by
    refine (partOf_eq text middle (.ofInt text.length)).trans ?_
    rw [Integer.toInt_ofInt, place_natCast, Nat.min_self, sliceOf, ← String.length_toList,
      List.take_length]
  have whole : Value.binary .add (.ofChars (text.toList.take (place text.length middle.toInt)))
      (.ofChars (text.toList.drop (place text.length middle.toInt))) = .ok (.string text) := by
    refine congrArg (fun joined => Except.ok (Value.string joined)) ?_
    rw [← String.ofList_append, List.take_append_drop, String.ofList_toList]
  have same : Value.binary .equal (.string text) (.string text) = .ok (.flag true) := by
    rw [Value.binary, Value.looseEq, beq_self_eq_true]
  simp only [rejoins, measured, bind, Except.bind, front, back, whole, same]

/-- The number of bytes before the first occurrence leads to the number of characters before it. -/
theorem position?_of_first {before after : String} (split : text = before ++ needle ++ after)
    (first : ∀ earlier rest, text = earlier ++ needle ++ rest →
      before.utf8ByteSize ≤ earlier.utf8ByteSize) :
    Text.position? needle.toList text.toList = some before.length := by
  refine Text.position?_eq_some_iff.2 ⟨?_, fun earlier shorter occurs => ?_⟩
  · rw [split, String.toList_append, String.toList_append, List.append_assoc,
      ← String.length_toList, List.drop_left]
    exact List.prefix_append _ _
  · obtain ⟨rest, rest_eq⟩ := occurs
    have split' : text = String.ofList (text.toList.take earlier) ++ needle ++ String.ofList rest := by
      rw [← String.toList_inj, String.toList_append, String.toList_append, String.toList_ofList,
        String.toList_ofList, List.append_assoc, rest_eq, List.take_append_drop]
    have fewer := Text.length_le_of_utf8ByteSize_le (split.trans String.append_assoc)
      (split'.trans String.append_assoc) (first _ _ split')
    rw [String.length_ofList, List.length_take] at fewer
    omega

/-- Slicing, searching and measuring count the same characters.  A slice holds the characters from
the place of its first bound up to that of its second one, all of which the text has, and no word
overflows on the way to a place; the two parts of a text at any bound make it up; and a text is
found at the least place at which slicing gives it back, or nowhere if the other one does not contain
it.  The place is the number of characters before the first occurrence, which is the one with the
fewest bytes before it. -/
theorem slices_and_searches_agree (text : String) :
    (∀ first last : Integer, ∃ part : String, partOf text first last = .ok (.string part) ∧
      let start := place text.length first.toInt
      let stop := place text.length last.toInt
      (List.range' start (stop - start)).map (text.toList[·]?) = part.toList.map some) ∧
    (fitsWord text.length = true → ∀ bound : Integer, ∃ word,
      wordPlace? (Int64.ofNat text.length) bound = some word ∧
        word.toInt = place text.length bound.toInt) ∧
    (∀ middle : Integer, rejoins text middle = .ok (.flag true)) ∧
    ∀ needle : String, ∃ (found : Integer) (inside : Bool),
      Value.callMethod (.string text) "find" [.string needle] = .ok (.int found) ∧
      Value.callMethod (.string text) "contains" [.string needle] = .ok (.bool inside) ∧
      (found.toInt = -1 ↔ inside = false) ∧
      (if inside then IsLeast (placesOf needle text) found.toInt else placesOf needle text = ∅) ∧
      ∀ before after, text = before ++ needle ++ after →
        (∀ earlier rest, text = earlier ++ needle ++ rest →
          before.utf8ByteSize ≤ earlier.utf8ByteSize) → found.toInt = before.length := by
  refine ⟨fun first last => ⟨_, partOf_eq text first last, ?_⟩, exists_wordPlace?_eq,
    rejoins_eq text, fun needle => ?_⟩
  · rw [String.toList_ofList]
    exact map_getElem?_range' (String.length_toList ▸ place_le _ _) _
  · have search : Value.callMethod (.string text) "find" [.string needle] =
        .ok (.int (.ofInt (findIn text.toList needle.toList))) := rfl
    have test : Value.callMethod (.string text) "contains" [.string needle] =
        .ok (.bool (Text.position? needle.toList text.toList).isSome) := rfl
    refine ⟨_, _, search, test, ?_⟩
    rw [Integer.toInt_ofInt, findIn]
    cases found : Text.position? needle.toList text.toList with
    | none =>
        refine ⟨by simp, by simpa using placesOf_eq_empty found, fun before after split first => ?_⟩
        rw [position?_of_first split first] at found
        cases found
    | some index =>
        refine ⟨by simp, by simpa using isLeast_placesOf found, fun before after split first => ?_⟩
        rw [position?_of_first split first] at found
        cases found
        rfl

/-- Characters of several bytes count once, and a bound beyond all words lies at an end. -/
theorem wide_characters_count_once :
    let text := "é😀é😀"
    fitsWord text.length = true ∧
      (∃ word, wordPlace? (Int64.ofNat text.length) (.ofInt (-3)) = some word ∧
        word.toInt = place text.length (-3)) ∧
      place text.length (-3) = 1 ∧ place text.length 1000000000000000000000000000000 = 4 ∧
      text = "é" ++ "😀" ++ "é😀" ∧
      (∀ earlier rest, text = earlier ++ "😀" ++ rest →
        "é".utf8ByteSize ≤ earlier.utf8ByteSize) ∧
      ∃ found : Integer, Value.callMethod (.string text) "find" [.string "😀"] = .ok (.int found) ∧
        found.toInt = 1 := by
  intro text
  have fits : fitsWord text.length = true := by decide
  have split : text = "é" ++ "😀" ++ "é😀" := by decide
  have first : ∀ earlier rest, text = earlier ++ "😀" ++ rest →
      "é".utf8ByteSize ≤ earlier.utf8ByteSize := by
    intro earlier rest other
    have chars : ['é', '😀', 'é', '😀'] = earlier.toList ++ (['😀'] ++ rest.toList) := by
      rw [← show text.toList = ['é', '😀', 'é', '😀'] by decide, other, String.toList_append,
        String.toList_append, List.append_assoc]
      rfl
    cases front : earlier.toList with
    | nil =>
        rw [front] at chars
        exact absurd (List.cons.inj chars).1 (by decide)
    | cons c others =>
        rw [front] at chars
        obtain rfl : 'é' = c := (List.cons.inj chars).1
        have parts : earlier = "é" ++ String.ofList others := by
          rw [← String.toList_inj, front, String.toList_append, @String.toList_ofList others]
          rfl
        rw [parts, String.utf8ByteSize_append]
        exact Nat.le_add_right _ _
  obtain ⟨-, words, -, searches⟩ := slices_and_searches_agree text
  obtain ⟨found, _, search, -, -, -, counted⟩ := searches "😀"
  refine ⟨fits, ?_, by decide, by decide, split, first, found, search, counted _ _ split first⟩
  simpa using words fits (.ofInt (-3))

end StringMethod
end DotScript
