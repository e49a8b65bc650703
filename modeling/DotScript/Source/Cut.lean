import DotScript.Source.Scan

/-!
# Chunks are cut off the front

Every chunk is a front part of the source text, takes at least one character of it, and leaves the
others as they are.  So scanning passes over no character twice, and the number of characters is
limit enough: `scanFrom_of_length_le` says that a greater limit changes nothing.
-/

namespace DotScript
namespace Token

/-- The chunk is a front part of the text, not an empty one, and what it leaves is the rest. -/
def Chunk.CutsFrom (chunk : Chunk) (text : List Char) : Prop :=
  chunk.source ≠ [] ∧ chunk.source ++ chunk.rest = text

/-- A word is cut off the front. -/
theorem wordChunk_cutsFrom (c : Char) (rest : List Char) :
    (wordChunk c rest).CutsFrom (c :: rest) := by
  simp [Chunk.CutsFrom, wordChunk]

/-- A number is cut off the front. -/
theorem numeralChunk_cutsFrom (c : Char) (rest : List Char) :
    (numeralChunk c rest).CutsFrom (c :: rest) := by
  have halves := List.takeWhile_append_dropWhile (p := continuesDigits) (l := rest)
  unfold numeralChunk
  split
  next d more found =>
    rw [found] at halves
    have tail := List.takeWhile_append_dropWhile (p := continuesDigits) (l := d :: more)
    split <;> simp [Chunk.CutsFrom, numberChunk, halves, tail]
  next =>
    simp [Chunk.CutsFrom, numberChunk]

/-- A number that starts with a point is cut off the front. -/
theorem pointChunk_cutsFrom (rest : List Char) : (pointChunk rest).CutsFrom ('.' :: rest) := by
  simp [Chunk.CutsFrom, pointChunk, numberChunk]

/-- The source of a string and what follows it make up the text. -/
theorem closeString_append {quote : Char} {text contents source after : List Char}
    (closed : closeString quote text = some (contents, source, after)) :
    source ++ after = text := by
  fun_induction closeString quote text generalizing contents source after with
  | case1 => simp at closed
  | case2 =>
    cases closed
    rfl
  | case3 => simp at closed
  | case4 _ _ _ ih =>
    obtain ⟨⟨_, _, _⟩, inner, same⟩ := Option.map_eq_some_iff.1 closed
    simp at same
    simp [← same.2.1, ← same.2.2, ih inner]
  | case5 _ _ _ _ ih =>
    obtain ⟨⟨_, _, _⟩, inner, same⟩ := Option.map_eq_some_iff.1 closed
    simp at same
    simp [← same.2.1, ← same.2.2, ih inner]

/-- A string is cut off the front, whether it is closed or not. -/
theorem stringChunk_cutsFrom (quote : Char) (rest : List Char) :
    (stringChunk quote rest).CutsFrom (quote :: rest) := by
  unfold stringChunk
  split
  next closed => simp [Chunk.CutsFrom, closeString_append closed]
  next => simp [Chunk.CutsFrom, Chunk.plain]

/-- The source of a comment and what follows it make up the text. -/
theorem closeComment_append (text : List Char) :
    (closeComment text).1 ++ (closeComment text).2 = text := by
  fun_induction closeComment text with
  | case1 => rfl
  | case2 => rfl
  | case3 c rest _ source after found ih => simpa [found] using ih

/-- A mark is cut off the front. -/
theorem markChunk_cutsFrom (c : Char) (rest : List Char) :
    (markChunk c rest).CutsFrom (c :: rest) := by
  unfold markChunk
  split <;> simp [Chunk.CutsFrom, Chunk.plain]

/-- A token is cut off the front. -/
theorem tokenChunk_cutsFrom (afterOperand : Bool) (c : Char) (rest : List Char) :
    (tokenChunk afterOperand c rest).CutsFrom (c :: rest) := by
  unfold tokenChunk
  split
  · exact wordChunk_cutsFrom c rest
  split
  · exact numeralChunk_cutsFrom c rest
  split
  next point =>
    obtain rfl : c = '.' := by simp at point; exact point.1.1
    exact pointChunk_cutsFrom rest
  split
  · exact stringChunk_cutsFrom c rest
  · exact markChunk_cutsFrom c rest

/-- The first chunk is cut off the front. -/
theorem firstChunk_cutsFrom (afterOperand : Bool) (c : Char) (rest : List Char) :
    (firstChunk afterOperand c rest).CutsFrom (c :: rest) := by
  unfold firstChunk
  split
  · simp [Chunk.CutsFrom, Chunk.skip]
  split
  · simp [Chunk.CutsFrom, Chunk.skip]
  split
  next more => simp [Chunk.CutsFrom, Chunk.skip, closeComment_append]
  next => exact tokenChunk_cutsFrom afterOperand c rest

/-- What a chunk leaves is shorter than the text. -/
theorem Chunk.CutsFrom.rest_length_lt {chunk : Chunk} {text : List Char}
    (cuts : chunk.CutsFrom text) : chunk.rest.length < text.length := by
  have taken : 0 < chunk.source.length := List.length_pos_iff.2 cuts.1
  have parts := congrArg List.length cuts.2
  rw [List.length_append] at parts
  omega

/-- A limit beyond the number of characters gives the same tokens. -/
theorem scanFrom_of_length_le {text : List Char} {limit : Nat} (enough : text.length ≤ limit)
    (afterOperand : Bool) (place : Place) :
    scanFrom limit afterOperand place text = scanFrom text.length afterOperand place text := by
  induction limit using Nat.strongRecOn generalizing text afterOperand place with
  | ind limit ih =>
    cases text with
    | nil => cases limit <;> rfl
    | cons c rest =>
      cases limit with
      | zero => simp at enough
      | succ limit =>
        have cut := (firstChunk_cutsFrom afterOperand c rest).rest_length_lt
        simp only [List.length_cons] at cut enough
        simp only [List.length_cons, scanFrom]
        have same (operand : Bool) (next : Place) :
            scanFrom limit operand next (firstChunk afterOperand c rest).rest =
              scanFrom rest.length operand next (firstChunk afterOperand c rest).rest := by
          rw [ih limit (by omega) (by omega) operand next]
          by_cases room : rest.length = limit
          · rw [room, ih limit (by omega) (by omega) operand next]
          · rw [ih rest.length (by omega) (by omega) operand next]
        split <;> simp [same]

end Token
end DotScript
