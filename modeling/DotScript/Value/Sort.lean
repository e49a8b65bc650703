import DotScript.Fault.Diagnostic
import DotScript.Value.Comparison
import DotScript.Value.Sorter

/-!
# Sorting and extremes

Up to twenty items are taken one after the other, and each is moved to the left past the items that
are greater.  Items that are not ordered against each other count as equal while sorting goes on, and
the first such pair is reported in the end.  More items are left to a sorter.
-/

namespace DotScript
namespace Value

/-- Sorted items, the greatest first, and the first pair that was not ordered. -/
structure Sorting where
  /-- The items so far, in descending order. -/
  descending : List Value
  /-- The kinds of the first pair that was not ordered. -/
  unordered? : Option (Kind × Kind)

/-- Moves an item past the items that are greater; also gives the kinds of the pair that stopped it
for want of an order. -/
def place (item : Value) : List Value → List Value × Option (Kind × Kind)
  | [] => ([item], Option.none)
  | other :: rest =>
    match item.compare? other with
    | some .lt =>
      let (placed, unordered?) := place item rest
      (other :: placed, unordered?)
    | some _ => (item :: other :: rest, Option.none)
    | Option.none => (item :: other :: rest, some (item.kind, other.kind))

/-- Sorts one more item in. -/
def Sorting.insert (sorting : Sorting) (item : Value) : Sorting :=
  let (descending, unordered?) := place item sorting.descending
  { descending, unordered? := sorting.unordered?.or unordered? }

/-- Sorts items by moving one after the other, for the function of the given name. -/
def insertionSort (function : String) (items : List Value) : Except Fault (List Value) :=
  let sorting := items.foldl Sorting.insert { descending := [], unordered? := Option.none }
  match sorting.unordered? with
  | some (left, right) => .error (.mistyped (.unordered function left right))
  | Option.none => .ok sorting.descending.reverse

/-- The item at a place. -/
def itemAt (items : Array Value) (place : Nat) : Value :=
  items.getD place .none

/-- How the items at two places compare. -/
def compareAt (items : Array Value) (left right : Nat) : Option Ordering :=
  (itemAt items left).compare? (itemAt items right)

/-- Arranges items as a sorter wants it. -/
def arrange (sorter : Sorter) (function : String) (items : List Value) :
    Except Failure (List Value) :=
  let places := items.toArray
  match sorter.verdict items.length (compareAt places) with
  | .arranged order => .ok (order.map (itemAt places))
  | .unordered left right =>
    .error (.fault (.mistyped
      (.unordered function (itemAt places left).kind (itemAt places right).kind)))
  | .panic => .error .panic

/-- The items at all places are the items. -/
theorem map_itemAt_range (items : List Value) :
    (List.range items.length).map (itemAt items.toArray) = items := by
  refine List.ext_getElem (by simp) fun place inside _ => ?_
  have within : place < items.length := by simpa using inside
  simp [itemAt, within]

/-- Whatever the sorter, no item is lost and none is made up. -/
theorem arrange_perm {sorter : Sorter} {function : String} {items sorted : List Value}
    (arranged : arrange sorter function items = .ok sorted) : sorted.Perm items := by
  unfold arrange at arranged
  dsimp only at arranged
  split at arranged
  next order verdict =>
    cases arranged
    have permuted := (sorter.kept _ _ _ verdict).map (itemAt items.toArray)
    rwa [map_itemAt_range] at permuted
  · cases arranged
  · cases arranged

/-- The greatest number of items that are sorted by moving them. -/
def insertionLimit : Nat := 20

/-- The items in ascending order, equal ones in their first order, for the function of the given
name. -/
def sort (sorter : Sorter) (function : String) (items : List Value) :
    Except Failure (List Value) :=
  if items.length ≤ insertionLimit then (insertionSort function items).mapError .fault
  else arrange sorter function items

/-- There are more items than are sorted by moving them, and comparing them is not coherent. -/
def Contradict (items : List Value) : Prop :=
  insertionLimit < items.length ∧ ¬ IsCoherent items.length (compareAt items.toArray)

/-- Sorting breaks off on nothing but many items whose comparisons contradict each other. -/
theorem contradict_of_sort {sorter : Sorter} {function : String} {items : List Value}
    (panics : sort sorter function items = .error .panic) : Contradict items := by
  unfold sort at panics
  split at panics
  next few =>
    cases sorted : insertionSort function items with
    | ok sorted =>
        rw [sorted] at panics
        cases panics
    | error fault =>
        rw [sorted] at panics
        cases panics
  next many =>
    refine ⟨Nat.lt_of_not_le many, fun coherent => ?_⟩
    obtain ⟨order, arranged, _⟩ := sorter.stable _ _ coherent
    simp [arrange, arranged] at panics

/-- The best of some items: the first one that no later item beats, where an item beats another one
if it compares to it as `wanted`. -/
def extremeFrom (function : String) (wanted : Ordering) (best : Value) :
    List Value → Except Fault Value
  | [] => .ok best
  | item :: rest =>
    match item.compare? best with
    | some order => extremeFrom function wanted (if order == wanted then item else best) rest
    | Option.none => .error (.mistyped (.incomparable function item.kind best.kind))

/-- The least or greatest of some items. -/
def extreme (function : String) (wanted : Ordering) : List Value → Except Fault Value
  | [] => .error (.running (.emptyExtreme function))
  | first :: rest => extremeFrom function wanted first rest

end Value
end DotScript
