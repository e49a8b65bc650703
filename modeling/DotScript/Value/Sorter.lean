/-!
# Sorters

A sorter arranges a number of items that it sees through their comparisons only; the items are known
by their places.  If comparing is coherent there is one stable arrangement, and every sorter finds it.
If it is not, a sorter may leave the items in any order, tell two items that are not ordered against
each other, or break off.  Which of these it does is its own affair.
-/

namespace DotScript

/-- What comes of sorting. -/
inductive Verdict
  /-- The places of the items in their new order. -/
  | arranged (order : List Nat)
  /-- Two items that were to be compared and are not ordered against each other. -/
  | unordered (left right : Nat)
  /-- The sorter breaks off, because the comparisons contradict each other. -/
  | panic
deriving DecidableEq, Repr

/-- Comparing is coherent on a number of places: any two of them are ordered, either way round, and
orders that do not fall add up. -/
structure IsCoherent (count : Nat) (compared : Nat → Nat → Option Ordering) : Prop where
  ordered : ∀ left < count, ∀ right < count, left ≠ right →
    ∃ order, compared left right = some order ∧ compared right left = some order.swap
  goesOn : ∀ left < count, ∀ middle < count, ∀ right < count, ∀ order other,
    compared left middle = some order → compared middle right = some other →
    order.isLE = true → other.isLE = true → compared left right = some (order.then other)

/-- One place comes before another one in a stable arrangement. -/
def StandsBefore (compared : Nat → Nat → Option Ordering) (first second : Nat) : Prop :=
  compared first second = some .lt ∨ compared first second = some .eq ∧ first < second

/-- A way to sort. -/
structure Sorter where
  /-- What comes of sorting a number of items with the given comparisons. -/
  verdict : Nat → (Nat → Nat → Option Ordering) → Verdict
  /-- Items that are compared coherently are arranged in ascending order, equal ones as they stood. -/
  stable : ∀ count compared, IsCoherent count compared →
    ∃ order, verdict count compared = .arranged order ∧ order.Pairwise (StandsBefore compared)
  /-- Every item is kept. -/
  kept : ∀ count compared order, verdict count compared = .arranged order →
    order.Perm (List.range count)
  /-- The two items that are told are not ordered. -/
  told : ∀ count compared left right, verdict count compared = .unordered left right →
    left < count ∧ right < count ∧ compared left right = none

/-! ## A sorter that breaks off

Places are moved to the left past those that are greater, one after the other.  If two neighbours are
not ordered in the end, the sorter breaks off.
-/

namespace Sorter

/-- Moves a place to the left past the places that are greater; the last place comes first. -/
def insertPlace (compared : Nat → Nat → Option Ordering) (place : Nat) : List Nat → List Nat
  | [] => [place]
  | other :: rest =>
    if compared place other = some .lt then other :: insertPlace compared place rest
    else place :: other :: rest

/-- A number of places, the last one in their new order first. -/
def insertPlaces (compared : Nat → Nat → Option Ordering) (count : Nat) : List Nat :=
  (List.range count).foldl (fun places place => insertPlace compared place places) []

/-- Whether neighbours are ordered against each other. -/
def neighboursOrdered (compared : Nat → Nat → Option Ordering) : List Nat → Bool
  | first :: second :: rest =>
    (compared second first).isSome && neighboursOrdered compared (second :: rest)
  | _ => true

/-- What comes of moving all places. -/
def strictVerdict (count : Nat) (compared : Nat → Nat → Option Ordering) : Verdict :=
  if neighboursOrdered compared (insertPlaces compared count) then
    .arranged (insertPlaces compared count).reverse
  else .panic

theorem insertPlaces_succ (compared : Nat → Nat → Option Ordering) (count : Nat) :
    insertPlaces compared (count + 1) =
      insertPlace compared count (insertPlaces compared count) := by
  rw [insertPlaces, List.range_succ, List.foldl_append]
  rfl

theorem insertPlace_perm (compared : Nat → Nat → Option Ordering) (place : Nat)
    (places : List Nat) : (insertPlace compared place places).Perm (place :: places) := by
  induction places with
  | nil => exact .refl _
  | cons other rest ih =>
      rw [insertPlace]
      split
      · exact (ih.cons other).trans (.swap place other rest)
      · exact .refl _

theorem insertPlaces_perm (compared : Nat → Nat → Option Ordering) (count : Nat) :
    (insertPlaces compared count).Perm (List.range count) := by
  induction count with
  | zero => exact .refl _
  | succ count ih =>
      rw [insertPlaces_succ, List.range_succ]
      exact (insertPlace_perm compared count _).trans
        ((ih.cons count).trans (List.perm_append_singleton count _).symm)

section Coherent

variable {count : Nat} {compared : Nat → Nat → Option Ordering} (coherent : IsCoherent count compared)

include coherent

theorem standsBefore_trans {first second third : Nat} (first_lt : first < count)
    (second_lt : second < count) (third_lt : third < count)
    (here : StandsBefore compared first second) (next : StandsBefore compared second third) :
    StandsBefore compared first third := by
  have goesOn := coherent.goesOn first first_lt second second_lt third third_lt
  rcases here with less | ⟨equal, below⟩ <;> rcases next with less' | ⟨equal', below'⟩
  · exact .inl (goesOn _ _ less less' rfl rfl)
  · exact .inl (goesOn _ _ less equal' rfl rfl)
  · exact .inl (goesOn _ _ equal less' rfl rfl)
  · exact .inr ⟨goesOn _ _ equal equal' rfl rfl, Nat.lt_trans below below'⟩

/-- A place that does not pass an earlier one comes after it. -/
theorem standsBefore_of_not_less {place other : Nat} (place_lt : place < count)
    (earlier : other < place) (stops : compared place other ≠ some .lt) :
    StandsBefore compared other place := by
  obtain ⟨order, ordered, swapped⟩ :=
    coherent.ordered place place_lt other (Nat.lt_trans earlier place_lt) (Nat.ne_of_gt earlier)
  cases order with
  | lt => exact absurd ordered stops
  | eq => exact .inr ⟨swapped, earlier⟩
  | gt => exact .inl swapped

/-- A place after all others comes to stand behind those that it does not pass. -/
theorem insertPlace_pairwise {place : Nat} (place_lt : place < count) {places : List Nat}
    (earlier : ∀ other ∈ places, other < place)
    (arranged : places.Pairwise fun later other => StandsBefore compared other later) :
    (insertPlace compared place places).Pairwise
      fun later other => StandsBefore compared other later := by
  induction places with
  | nil => exact List.pairwise_singleton _ _
  | cons other rest ih =>
      obtain ⟨other_lt, rest_lt⟩ := List.forall_mem_cons.1 earlier
      obtain ⟨before_other, rest_arranged⟩ := List.pairwise_cons.1 arranged
      rw [insertPlace]
      split
      next less =>
        refine List.pairwise_cons.2 ⟨fun found member => ?_, ih rest_lt rest_arranged⟩
        rcases List.mem_cons.1 ((insertPlace_perm compared place rest).mem_iff.1 member)
          with rfl | inside
        · exact .inl less
        · exact before_other found inside
      next stops =>
        have before : StandsBefore compared other place :=
          standsBefore_of_not_less coherent place_lt other_lt stops
        refine List.pairwise_cons.2 ⟨List.forall_mem_cons.2 ⟨before, fun found inside => ?_⟩, arranged⟩
        exact standsBefore_trans coherent (Nat.lt_trans (rest_lt found inside) place_lt)
          (Nat.lt_trans other_lt place_lt) place_lt (before_other found inside) before

theorem insertPlaces_pairwise {taken : Nat} (few : taken ≤ count) :
    (insertPlaces compared taken).Pairwise fun later other => StandsBefore compared other later := by
  induction taken with
  | zero => exact .nil
  | succ taken ih =>
      rw [insertPlaces_succ]
      refine insertPlace_pairwise coherent few (fun other member => ?_) (ih (Nat.le_of_lt few))
      exact List.mem_range.1 ((insertPlaces_perm compared taken).mem_iff.1 member)

end Coherent

theorem neighboursOrdered_of_pairwise {compared : Nat → Nat → Option Ordering} {places : List Nat}
    (arranged : places.Pairwise fun later other => StandsBefore compared other later) :
    neighboursOrdered compared places = true := by
  induction places with
  | nil => rfl
  | cons first rest ih =>
      cases rest with
      | nil => rfl
      | cons second rest =>
          obtain ⟨before, rest_arranged⟩ := List.pairwise_cons.1 arranged
          rw [neighboursOrdered, ih rest_arranged, Bool.and_true]
          rcases before second List.mem_cons_self with less | ⟨equal, _⟩
          · rw [less]
            rfl
          · rw [equal]
            rfl

theorem strictVerdict_stable (count : Nat) (compared : Nat → Nat → Option Ordering)
    (coherent : IsCoherent count compared) :
    ∃ order, strictVerdict count compared = .arranged order ∧
      order.Pairwise (StandsBefore compared) := by
  have arranged := insertPlaces_pairwise coherent (Nat.le_refl count)
  refine ⟨_, if_pos (neighboursOrdered_of_pairwise arranged), ?_⟩
  exact List.pairwise_reverse.2 arranged

theorem strictVerdict_kept (count : Nat) (compared : Nat → Nat → Option Ordering)
    (order : List Nat) (arranged : strictVerdict count compared = .arranged order) :
    order.Perm (List.range count) := by
  unfold strictVerdict at arranged
  split at arranged
  next =>
    cases arranged
    exact (List.reverse_perm _).trans (insertPlaces_perm compared count)
  next => cases arranged

theorem strictVerdict_told (count : Nat) (compared : Nat → Nat → Option Ordering)
    (left right : Nat) (unordered : strictVerdict count compared = .unordered left right) :
    left < count ∧ right < count ∧ compared left right = none := by
  unfold strictVerdict at unordered
  split at unordered <;> cases unordered

/-- The sorter that breaks off if two neighbours are not ordered in the end. -/
def strict : Sorter where
  verdict := strictVerdict
  stable := strictVerdict_stable
  kept := strictVerdict_kept
  told := strictVerdict_told

end Sorter
end DotScript
