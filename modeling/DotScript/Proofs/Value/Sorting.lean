import DotScript.Proofs.Host.World
import DotScript.Proofs.Value.Order

/-!
# Sorting

Sorting looks at some pairs of items only and goes on when it meets a pair that is not ordered.  It
still tells apart the lists whose items are all ordered against each other: as long as every pair it
looked at was ordered, transitivity orders the items it passed by.  Where sorting succeeds it gives
the one stable ascending permutation of its items.  Items that are left to a sorter are compared
coherently if they are all ordered against each other, so that the sorter finds it as well.
-/

namespace DotScript
namespace Value

/-- Two values are ordered against each other. -/
def Comparable (left right : Value) : Prop :=
  ∃ order, left.compare? right = some order

instance (left right : Value) : Decidable (left.Comparable right) :=
  decidable_of_iff _ Option.isSome_iff_exists

/-- A value does not come after another one. -/
def AtMost (left right : Value) : Prop :=
  ∃ order, left.compare? right = some order ∧ order.isLE = true

/-- Whether a value is of equal order with another one. -/
def isLevelWith (reference value : Value) : Bool :=
  value.compare? reference == some .eq

/-- The stable ascending permutations of some items: those that are of equal order with any one of
them stand in their first order. -/
structure StablySorts (items sorted : List Value) : Prop where
  perm : sorted.Perm items
  ascending : sorted.Pairwise AtMost
  stable : ∀ reference ∈ items,
    sorted.filter reference.isLevelWith = items.filter reference.isLevelWith

/-! ## Comparable values -/

theorem Comparable.symm {left right : Value} (comparable : left.Comparable right) :
    right.Comparable left := by
  obtain ⟨order, ordered⟩ := comparable
  exact ⟨order.swap, compare?_swap_of_some ordered⟩

theorem AtMost.comparable {left right : Value} (at_most : left.AtMost right) :
    left.Comparable right := by
  obtain ⟨order, ordered, _⟩ := at_most
  exact ⟨order, ordered⟩

/-- What is not less than a value that it is ordered against has that value below or beside it. -/
theorem atMost_of_not_less {left right : Value} {order : Ordering}
    (ordered : left.compare? right = some order) (not_less : order ≠ .lt) : right.AtMost left := by
  refine ⟨order.swap, compare?_swap_of_some ordered, ?_⟩
  cases order with
  | lt => exact (not_less rfl).elim
  | eq => rfl
  | gt => rfl

theorem AtMost.trans {left middle right : Value} (left_free : left.FloatFree)
    (middle_free : middle.FloatFree) (right_free : right.FloatFree) (first : left.AtMost middle)
    (second : middle.AtMost right) : left.AtMost right := by
  obtain ⟨order, ordered, le⟩ := first
  obtain ⟨other, also, other_le⟩ := second
  refine ⟨order.then other, goesOn_of_floatFree left_free middle_free right_free order other
    ordered also le other_le, ?_⟩
  rw [then_eq_ite le other_le]
  split <;> rfl

/-- Two values at most each other are of equal order. -/
theorem AtMost.antisymm {left right : Value} (first : left.AtMost right)
    (second : right.AtMost left) : left.compare? right = some .eq := by
  obtain ⟨order, ordered, le⟩ := first
  obtain ⟨other, also, other_le⟩ := second
  rw [compare?_swap, ordered] at also
  obtain rfl := Option.some.inj also
  cases order with
  | lt => cases other_le
  | eq => exact ordered
  | gt => cases le

theorem isLevelWith_iff {reference value : Value} :
    reference.isLevelWith value = true ↔ value.compare? reference = some .eq :=
  beq_iff_eq

/-- Values of equal order with a third one are of equal order. -/
theorem compare?_eq_of_isLevelWith {left right reference : Value} (left_free : left.FloatFree)
    (right_free : right.FloatFree) (reference_free : reference.FloatFree)
    (left_level : reference.isLevelWith left = true)
    (right_level : reference.isLevelWith right = true) : left.compare? right = some .eq := by
  have forth := isLevelWith_iff.1 left_level
  have back := compare?_swap_of_some (isLevelWith_iff.1 right_level)
  exact goesOn_of_floatFree left_free reference_free right_free .eq .eq forth back rfl rfl

/-! ## Placing one item -/

theorem place_perm (item : Value) (items : List Value) :
    (place item items).1.Perm (item :: items) := by
  induction items with
  | nil => exact .refl _
  | cons other rest ih =>
      rw [place]
      split
      · exact (ih.cons other).trans (.swap item other rest)
      · exact .refl _
      · exact .refl _

/-- An item stops for want of an order at an item that it is not ordered against. -/
theorem exists_of_place_unordered {item : Value} {items : List Value} {kinds : Kind × Kind}
    (stopped : (place item items).2 = some kinds) :
    ∃ other ∈ items, item.compare? other = Option.none ∧ kinds = (item.kind, other.kind) := by
  induction items with
  | nil => cases stopped
  | cons other rest ih =>
      rw [place] at stopped
      split at stopped
      · obtain ⟨found, inside, unordered, same⟩ := ih stopped
        exact ⟨found, List.mem_cons_of_mem other inside, unordered, same⟩
      · cases stopped
      · rename_i unordered
        exact ⟨other, List.mem_cons_self, unordered, (Option.some.inj stopped).symm⟩

/-- An item that meets an order everywhere passes the greater items and stops at one that is not. -/
theorem exists_of_place_ordered {item : Value} {items : List Value}
    (ordered : (place item items).2 = Option.none) :
    ∃ passed rest, items = passed ++ rest ∧ (place item items).1 = passed ++ item :: rest ∧
      (∀ other ∈ passed, item.compare? other = some .lt) ∧
      ∀ other ∈ rest.head?, ∃ order, item.compare? other = some order ∧ order ≠ .lt := by
  induction items with
  | nil => exact ⟨[], [], rfl, rfl, nofun, nofun⟩
  | cons other rest ih =>
      rw [place] at ordered ⊢
      split at ordered
      · rename_i less
        obtain ⟨passed, behind, split, placed, greater, stops⟩ := ih ordered
        refine ⟨other :: passed, behind, congrArg (other :: ·) split,
          congrArg (other :: ·) placed, ?_, stops⟩
        exact List.forall_mem_cons.2 ⟨less, greater⟩
      · rename_i order not_less found
        refine ⟨[], other :: rest, rfl, rfl, nofun, ?_⟩
        rintro _ ⟨⟩
        exact ⟨order, found, not_less⟩
      · cases ordered

/-- The greatest item stands first. -/
def Descends (items : List Value) : Prop :=
  items.Pairwise fun higher lower => lower.AtMost higher

section Free

variable {item : Value} {items : List Value}

/-- The items from the one on at which another one stops are at most that one. -/
theorem atMost_of_mem_rest {rest : List Value} (item_free : item.FloatFree)
    (rest_free : ∀ other ∈ rest, other.FloatFree) (descends : Descends rest)
    (stops : ∀ other ∈ rest.head?, ∃ order, item.compare? other = some order ∧ order ≠ .lt) :
    ∀ other ∈ rest, other.AtMost item := by
  cases rest with
  | nil => nofun
  | cons first behind =>
      obtain ⟨order, ordered, not_less⟩ := stops first rfl
      have first_most := atMost_of_not_less ordered not_less
      obtain ⟨first_free, behind_free⟩ := List.forall_mem_cons.1 rest_free
      refine List.forall_mem_cons.2 ⟨first_most, fun other inside => ?_⟩
      exact ((List.pairwise_cons.1 descends).1 other inside).trans (behind_free other inside)
        first_free item_free first_most

/-- An item that meets an order everywhere comes to stand between the items that are greater and
those that are not. -/
theorem exists_split_of_place_ordered (item_free : item.FloatFree)
    (items_free : ∀ other ∈ items, other.FloatFree) (descends : Descends items)
    (ordered : (place item items).2 = Option.none) :
    ∃ passed rest, items = passed ++ rest ∧ (place item items).1 = passed ++ item :: rest ∧
      (∀ other ∈ passed, item.compare? other = some .lt) ∧ ∀ other ∈ rest, other.AtMost item := by
  obtain ⟨passed, rest, rfl, placed, less, stops⟩ := exists_of_place_ordered ordered
  refine ⟨passed, rest, rfl, placed, less, atMost_of_mem_rest item_free ?_ ?_ stops⟩
  · exact fun other inside => items_free other (List.mem_append_right passed inside)
  · exact (List.pairwise_append.1 descends).2.1

/-- An item meets an order everywhere if and only if it is ordered against all items, although it
meets some of them only. -/
theorem place_ordered_iff (item_free : item.FloatFree)
    (items_free : ∀ other ∈ items, other.FloatFree) (descends : Descends items) :
    (place item items).2 = Option.none ↔ ∀ other ∈ items, item.Comparable other := by
  constructor
  · intro ordered
    obtain ⟨passed, rest, rfl, _, less, most⟩ :=
      exists_split_of_place_ordered item_free items_free descends ordered
    intro other inside
    rcases List.mem_append.1 inside with before | behind
    · exact ⟨.lt, less other before⟩
    · exact (most other behind).comparable.symm
  · intro comparable
    cases stopped : (place item items).2 with
    | none => rfl
    | some kinds =>
        obtain ⟨other, inside, unordered, _⟩ := exists_of_place_unordered stopped
        obtain ⟨order, ordered⟩ := comparable other inside
        rw [unordered] at ordered
        cases ordered

theorem place_descends (item_free : item.FloatFree)
    (items_free : ∀ other ∈ items, other.FloatFree) (descends : Descends items)
    (ordered : (place item items).2 = Option.none) : Descends (place item items).1 := by
  obtain ⟨passed, rest, rfl, placed, less, most⟩ :=
    exists_split_of_place_ordered item_free items_free descends ordered
  obtain ⟨passed_descends, rest_descends, across⟩ := List.pairwise_append.1 descends
  rw [placed]
  refine List.pairwise_append.2
    ⟨passed_descends, List.pairwise_cons.2 ⟨most, rest_descends⟩, fun higher before => ?_⟩
  exact List.forall_mem_cons.2 ⟨⟨.lt, less higher before, rfl⟩, across higher before⟩

/-- An item comes to stand before all items that are of equal order with it. -/
theorem place_filter {reference : Value} (item_free : item.FloatFree)
    (items_free : ∀ other ∈ items, other.FloatFree) (reference_free : reference.FloatFree)
    (descends : Descends items) (ordered : (place item items).2 = Option.none) :
    (place item items).1.filter reference.isLevelWith =
      [item].filter reference.isLevelWith ++ items.filter reference.isLevelWith := by
  obtain ⟨passed, rest, rfl, placed, less, _⟩ :=
    exists_split_of_place_ordered item_free items_free descends ordered
  rw [placed, List.filter_append, List.filter_append, List.filter_cons, List.filter_cons]
  split
  next level =>
    -- A passed item of equal order with the reference would be of equal order with this one.
    have none_passed : passed.filter reference.isLevelWith = [] := by
      rw [List.filter_eq_nil_iff]
      intro other before other_level
      have equal := compare?_eq_of_isLevelWith item_free
        (items_free other (List.mem_append_left rest before)) reference_free level other_level
      rw [less other before] at equal
      cases equal
    rw [none_passed]
    rfl
  next => rfl

end Free

/-! ## The run -/

namespace Sorting

@[simp]
theorem insert_descending (sorting : Sorting) (item : Value) :
    (sorting.insert item).descending = (place item sorting.descending).1 := rfl

@[simp]
theorem insert_unordered? (sorting : Sorting) (item : Value) :
    (sorting.insert item).unordered? =
      sorting.unordered?.or (place item sorting.descending).2 := rfl

/-- The items taken so far are sorted, and a pair that is not ordered has been found if there is
one. -/
structure Tracks (sorting : Sorting) (taken : List Value) : Prop where
  perm : sorting.descending.Perm taken
  ordered_iff : sorting.unordered? = Option.none ↔ taken.Pairwise Comparable
  named : ∀ kinds, sorting.unordered? = some kinds → ∃ left ∈ taken, ∃ right ∈ taken,
    left.compare? right = Option.none ∧ kinds = (left.kind, right.kind)
  descends : sorting.unordered? = Option.none → Descends sorting.descending
  stable : sorting.unordered? = Option.none → ∀ reference : Value, reference.FloatFree →
    sorting.descending.filter reference.isLevelWith =
      (taken.filter reference.isLevelWith).reverse

variable {sorting : Sorting} {taken : List Value}

theorem start_tracks :
    ({ descending := [], unordered? := Option.none } : Sorting).Tracks [] where
  perm := .nil
  ordered_iff := iff_of_true rfl .nil
  named := nofun
  descends := fun _ => .nil
  stable := fun _ _ _ => rfl

/-- One more item is sorted in.  It meets some of the items taken before it only, but those in
descending order, so that it meets an item that it is not ordered against if there is one. -/
theorem Tracks.insert (tracks : sorting.Tracks taken)
    (taken_free : ∀ other ∈ taken, other.FloatFree) {item : Value} (item_free : item.FloatFree) :
    (sorting.insert item).Tracks (taken ++ [item]) := by
  have mem_iff {other : Value} : other ∈ sorting.descending ↔ other ∈ taken := tracks.perm.mem_iff
  have free : ∀ other ∈ sorting.descending, other.FloatFree :=
    fun other inside => taken_free other (mem_iff.1 inside)
  have both : (sorting.insert item).unordered? = Option.none ↔
      sorting.unordered? = Option.none ∧ (place item sorting.descending).2 = Option.none := by
    rw [insert_unordered?, Option.or_eq_none_iff]
  constructor
  case perm =>
    exact (place_perm item sorting.descending).trans
      ((tracks.perm.cons item).trans (List.perm_append_singleton item taken).symm)
  case ordered_iff =>
    rw [both, List.pairwise_append, ← tracks.ordered_iff]
    refine and_congr_right fun ordered => ?_
    rw [place_ordered_iff item_free free (tracks.descends ordered)]
    constructor
    · intro comparable
      refine ⟨List.pairwise_singleton _ _, fun other inside => List.forall_mem_singleton.2 ?_⟩
      exact (comparable other (mem_iff.2 inside)).symm
    · intro ⟨_, across⟩ other inside
      exact (across other (mem_iff.1 inside) item List.mem_cons_self).symm
  case named =>
    intro kinds found
    rw [insert_unordered?, Option.or_eq_some_iff] at found
    rcases found with before | ⟨_, now⟩
    · obtain ⟨left, left_taken, right, right_taken, unordered, same⟩ := tracks.named kinds before
      exact ⟨left, List.mem_append_left _ left_taken, right, List.mem_append_left _ right_taken,
        unordered, same⟩
    · obtain ⟨other, inside, unordered, same⟩ := exists_of_place_unordered now
      exact ⟨item, List.mem_append_right taken List.mem_cons_self, other,
        List.mem_append_left _ (mem_iff.1 inside), unordered, same⟩
  case descends =>
    intro ordered
    obtain ⟨before, now⟩ := both.1 ordered
    exact place_descends item_free free (tracks.descends before) now
  case stable =>
    intro ordered reference reference_free
    obtain ⟨before, now⟩ := both.1 ordered
    rw [insert_descending, place_filter item_free free reference_free (tracks.descends before) now,
      tracks.stable before reference reference_free, List.filter_append, List.reverse_append]
    congr 1
    rw [List.filter_cons]
    split <;> rfl

/-- All items are sorted in. -/
theorem Tracks.foldl {items : List Value} (tracks : sorting.Tracks taken)
    (free : ∀ item ∈ taken ++ items, item.FloatFree) :
    (items.foldl Sorting.insert sorting).Tracks (taken ++ items) := by
  induction items generalizing sorting taken with
  | nil =>
      rw [List.append_nil]
      exact tracks
  | cons item rest ih =>
      rw [List.append_cons] at free ⊢
      have item_free : item.FloatFree :=
        free item (List.mem_append_left rest (List.mem_append_right taken List.mem_cons_self))
      refine ih (tracks.insert (fun other inside => free other ?_) item_free) free
      exact List.mem_append_left rest (List.mem_append_left [item] inside)

/-- A whole run. -/
theorem tracks_of_floatFree {items : List Value} (free : ∀ item ∈ items, item.FloatFree) :
    (items.foldl Sorting.insert { descending := [], unordered? := Option.none }).Tracks items :=
  start_tracks.foldl free

end Sorting

section Free

variable {items : List Value}

/-- Sorting items that are all ordered against each other gives a stable ascending permutation. -/
theorem insertionSort_eq_ok (function : String) (free : ∀ item ∈ items, item.FloatFree)
    (comparable : items.Pairwise Comparable) :
    ∃ sorted, insertionSort function items = .ok sorted ∧ StablySorts items sorted := by
  have tracks := Sorting.tracks_of_floatFree free
  have ordered := tracks.ordered_iff.2 comparable
  refine ⟨_, by rw [insertionSort, ordered], ?_⟩
  constructor
  · exact (List.reverse_perm _).trans tracks.perm
  · exact List.pairwise_reverse.2 (tracks.descends ordered)
  · intro reference inside
    rw [List.filter_reverse, tracks.stable ordered reference (free reference inside),
      List.reverse_reverse]

/-- Sorting other items fails for two of them that are not ordered against each other. -/
theorem insertionSort_eq_error (function : String) (free : ∀ item ∈ items, item.FloatFree)
    (incomparable : ¬items.Pairwise Comparable) :
    ∃ left ∈ items, ∃ right ∈ items, left.compare? right = Option.none ∧
      insertionSort function items =
        .error (.mistyped (.unordered function left.kind right.kind)) := by
  have tracks := Sorting.tracks_of_floatFree free
  have unordered := mt tracks.ordered_iff.1 incomparable
  obtain ⟨kinds, found⟩ := Option.ne_none_iff_exists'.1 unordered
  obtain ⟨left, left_inside, right, right_inside, apart, rfl⟩ := tracks.named kinds found
  exact ⟨left, left_inside, right, right_inside, apart, by rw [insertionSort, found]⟩

/-! The items at two places are compared as the items are. -/

theorem itemAt_mem {place : Nat} (inside : place < items.length) :
    itemAt items.toArray place ∈ items := by
  simp [itemAt, inside]

theorem comparable_itemAt (comparable : items.Pairwise Comparable) {left right : Nat}
    (left_inside : left < items.length) (right_inside : right < items.length)
    (different : left ≠ right) :
    (itemAt items.toArray left).Comparable (itemAt items.toArray right) := by
  have placed := List.pairwise_iff_getElem.1 comparable
  rcases Nat.lt_or_gt_of_ne different with before | behind
  · simpa [itemAt, left_inside, right_inside] using placed left right left_inside right_inside before
  · have back := placed right left right_inside left_inside behind
    simpa [itemAt, left_inside, right_inside] using back.symm

/-- Items that are all ordered against each other are compared coherently. -/
theorem isCoherent_of_comparable (free : ∀ item ∈ items, item.FloatFree)
    (comparable : items.Pairwise Comparable) :
    IsCoherent items.length (compareAt items.toArray) where
  ordered left left_inside right right_inside different := by
    obtain ⟨order, ordered⟩ := comparable_itemAt comparable left_inside right_inside different
    exact ⟨order, ordered, compare?_swap_of_some ordered⟩
  goesOn left left_inside middle middle_inside right right_inside :=
    goesOn_of_floatFree (free _ (itemAt_mem left_inside)) (free _ (itemAt_mem middle_inside))
      (free _ (itemAt_mem right_inside))

theorem atMost_of_standsBefore {first second : Nat}
    (before : StandsBefore (compareAt items.toArray) first second) :
    (itemAt items.toArray first).AtMost (itemAt items.toArray second) := by
  rcases before with less | ⟨level, _⟩
  · exact ⟨.lt, less, rfl⟩
  · exact ⟨.eq, level, rfl⟩

/-- Places of items of one order stand in a stable arrangement as they stood. -/
theorem filter_arranged (free : ∀ item ∈ items, item.FloatFree) {reference : Value}
    (reference_free : reference.FloatFree) {order : List Nat}
    (perm : order.Perm (List.range items.length))
    (arranged : order.Pairwise (StandsBefore (compareAt items.toArray))) :
    order.filter (reference.isLevelWith ∘ itemAt items.toArray) =
      (List.range items.length).filter (reference.isLevelWith ∘ itemAt items.toArray) := by
  have ascending : (order.filter (reference.isLevelWith ∘ itemAt items.toArray)).Pairwise (· < ·) := by
    refine List.pairwise_filter.2 (arranged.imp_of_mem ?_)
    intro first second first_in second_in before first_level second_level
    have first_free := free _ (itemAt_mem (List.mem_range.1 (perm.mem_iff.1 first_in)))
    have second_free := free _ (itemAt_mem (List.mem_range.1 (perm.mem_iff.1 second_in)))
    have level : compareAt items.toArray first second = some .eq :=
      compare?_eq_of_isLevelWith first_free second_free reference_free first_level second_level
    rcases before with less | ⟨_, below⟩
    · cases level.symm.trans less
    · exact below
  refine (perm.filter _).eq_of_pairwise ?_ ascending (List.pairwise_lt_range.filter _)
  intro first second _ _ below above
  exact absurd below (Nat.lt_asymm above)

/-- A sorter gives a stable ascending permutation as well. -/
theorem arrange_eq_ok (sorter : Sorter) (function : String)
    (free : ∀ item ∈ items, item.FloatFree) (comparable : items.Pairwise Comparable) :
    ∃ sorted, arrange sorter function items = .ok sorted ∧ StablySorts items sorted := by
  obtain ⟨order, verdict, arranged⟩ :=
    sorter.stable _ _ (isCoherent_of_comparable free comparable)
  have found : arrange sorter function items = .ok (order.map (itemAt items.toArray)) := by
    simp only [arrange, verdict]
  refine ⟨_, found, arrange_perm found, ?_, ?_⟩
  · exact List.pairwise_map.2 (arranged.imp atMost_of_standsBefore)
  · intro reference inside
    have places := filter_arranged free (free reference inside) (sorter.kept _ _ _ verdict) arranged
    calc (order.map (itemAt items.toArray)).filter reference.isLevelWith
      _ = ((List.range items.length).map (itemAt items.toArray)).filter reference.isLevelWith := by
          rw [List.filter_map, List.filter_map, places]
      _ = items.filter reference.isLevelWith := by rw [map_itemAt_range]

/-- However many items are all ordered against each other, sorting gives a stable ascending
permutation. -/
theorem sort_eq_ok (sorter : Sorter) (function : String) (free : ∀ item ∈ items, item.FloatFree)
    (comparable : items.Pairwise Comparable) :
    ∃ sorted, sort sorter function items = .ok sorted ∧ StablySorts items sorted := by
  unfold sort
  split
  · obtain ⟨sorted, found, sorts⟩ := insertionSort_eq_ok function free comparable
    exact ⟨sorted, by rw [found]; rfl, sorts⟩
  · exact arrange_eq_ok sorter function free comparable

/-- Up to twenty other items fail for two of them that are not ordered against each other. -/
theorem sort_eq_error (sorter : Sorter) (function : String)
    (free : ∀ item ∈ items, item.FloatFree) (few : items.length ≤ insertionLimit)
    (incomparable : ¬items.Pairwise Comparable) :
    ∃ left ∈ items, ∃ right ∈ items, left.compare? right = Option.none ∧
      sort sorter function items =
        .error (.fault (.mistyped (.unordered function left.kind right.kind))) := by
  obtain ⟨left, left_inside, right, right_inside, apart, found⟩ :=
    insertionSort_eq_error function free incomparable
  refine ⟨left, left_inside, right, right_inside, apart, ?_⟩
  rw [sort, if_pos few, found]
  rfl

/-- Two stable ascending permutations begin with the same item: their first items are at most each
other, and of items of equal order the same one stands first. -/
theorem head_eq_of_ascending {first other : Value} {rest others : List Value}
    (free : ∀ item ∈ first :: rest, item.FloatFree)
    (perm : (first :: rest).Perm (other :: others))
    (rest_above : ∀ item ∈ rest, first.AtMost item)
    (others_above : ∀ item ∈ others, other.AtMost item)
    (stable : (first :: rest).filter first.isLevelWith =
      (other :: others).filter first.isLevelWith) : first = other := by
  by_contra different
  have other_inside : other ∈ rest :=
    (List.mem_cons.1 (perm.mem_iff.2 List.mem_cons_self)).resolve_left (Ne.symm different)
  have first_inside : first ∈ others :=
    (List.mem_cons.1 (perm.mem_iff.1 List.mem_cons_self)).resolve_left different
  have level := (rest_above other other_inside).antisymm (others_above first first_inside)
  have back := compare?_swap_of_some level
  have first_free := free first List.mem_cons_self
  have itself : first.compare? first = some .eq :=
    goesOn_of_floatFree first_free (free other (List.mem_cons_of_mem first other_inside)) first_free
      .eq .eq level back rfl rfl
  rw [List.filter_cons_of_pos (isLevelWith_iff.2 itself),
    List.filter_cons_of_pos (isLevelWith_iff.2 back)] at stable
  exact different (List.cons.inj stable).1

/-- Items have one stable ascending permutation at most. -/
theorem eq_of_ascending {left right : List Value} (free : ∀ item ∈ left, item.FloatFree)
    (perm : left.Perm right) (left_ascending : left.Pairwise AtMost)
    (right_ascending : right.Pairwise AtMost)
    (stable : ∀ reference ∈ left,
      left.filter reference.isLevelWith = right.filter reference.isLevelWith) : left = right := by
  induction left generalizing right with
  | nil => exact perm.nil_eq
  | cons first rest ih =>
      cases right with
      | nil => exact perm.eq_nil
      | cons other others =>
          obtain ⟨first_most, rest_ascending⟩ := List.pairwise_cons.1 left_ascending
          obtain ⟨other_most, others_ascending⟩ := List.pairwise_cons.1 right_ascending
          obtain rfl := head_eq_of_ascending free perm first_most other_most
            (stable first List.mem_cons_self)
          congr 1
          refine ih (fun item inside => free item (List.mem_cons_of_mem first inside))
            perm.cons_inv rest_ascending others_ascending fun reference inside => ?_
          have whole := stable reference (List.mem_cons_of_mem first inside)
          rw [List.filter_cons, List.filter_cons] at whole
          split at whole
          · exact (List.cons.inj whole).2
          · exact whole

theorem StablySorts.unique {sorted other : List Value} (free : ∀ item ∈ items, item.FloatFree)
    (sorts : StablySorts items sorted) (also : StablySorts items other) : other = sorted := by
  refine eq_of_ascending (fun item inside => free item (also.perm.mem_iff.1 inside))
    (also.perm.trans sorts.perm.symm) also.ascending sorts.ascending fun reference inside => ?_
  have taken := also.perm.mem_iff.1 inside
  rw [also.stable reference taken, sorts.stable reference taken]

end Free

/-! ## Calls that sort -/

/-- A call that sorts a list: that of the built-in, maybe with a flag, or that of the method. -/
inductive SortCall
  | builtin (flag? : Option Value)
  | method

namespace SortCall

/-- The name under which a call reports items that are not ordered. -/
def name : SortCall → String
  | builtin _ => Builtin.sorted.name
  | method => ListMethod.sort.name

/-- The call on a list of some items. -/
def operation : SortCall → List Value → HostM Value
  | builtin flag?, items => Builtin.sorted.call (.list items :: flag?.toList)
  | method, items => (Value.list items).invoke ListMethod.sort.name []

/-- What a call answers in a world, for a list of some items. -/
def answer (call : SortCall) (host : Host) (items : List Value) : Except Failure Value :=
  ((call.operation items).run.run host).1

/-- The order in which a call gives items that are sorted: a flag that counts as true turns it
around. -/
def arrange : SortCall → List Value → List Value
  | builtin flag?, ascending => if flag?.any truthy then ascending.reverse else ascending
  | method, ascending => ascending

/-- A call sorts the items and arranges what comes of it. -/
theorem run_operation (call : SortCall) (host : Host) (items : List Value) :
    (call.operation items).run.run host =
      ((sort host.sorter call.name items).map fun ascending => .list (call.arrange ascending),
        host) := by
  have same : call.operation items =
      (HostM.sort call.name items >>= fun ascending => pure (.list (call.arrange ascending))) := by
    rcases call with (_ | flag) | _ <;> rfl
  rw [same, HostM.run_bind, HostM.sort_run]
  cases sort host.sorter call.name items <;> rfl

theorem answer_eq (call : SortCall) (host : Host) (items : List Value) :
    call.answer host items =
      (sort host.sorter call.name items).map fun ascending => .list (call.arrange ascending) := by
  rw [answer, run_operation]

/-- A call on items that are all ordered against each other gives their stable ascending permutation,
as the call arranges it, in every world. -/
theorem run_of_comparable (call : SortCall) {items sorted : List Value}
    (free : ∀ item ∈ items, item.FloatFree) (comparable : items.Pairwise Comparable)
    (sorts : StablySorts items sorted) (host : Host) :
    (call.operation items).run.run host = (.ok (.list (call.arrange sorted)), host) := by
  obtain ⟨found, is_found, also⟩ := sort_eq_ok host.sorter call.name free comparable
  rw [run_operation, is_found, sorts.unique free also]
  rfl

/-- A call that sorts few items succeeds with their stable ascending permutation, as the call arranges
it, if they are all ordered against each other, and fails for want of an order otherwise. -/
theorem answer_cases (call : SortCall) (host : Host) {items : List Value}
    (free : ∀ item ∈ items, item.FloatFree) (few : items.length ≤ insertionLimit) :
    (items.Pairwise Comparable ∧ ∃ sorted, StablySorts items sorted ∧
      call.answer host items = .ok (.list (call.arrange sorted))) ∨
    (¬items.Pairwise Comparable ∧
      ∃ cause, call.answer host items = .error (.fault (.mistyped cause))) := by
  by_cases comparable : items.Pairwise Comparable
  · obtain ⟨sorted, _, sorts⟩ := sort_eq_ok host.sorter call.name free comparable
    have answered := call.run_of_comparable free comparable sorts host
    exact .inl ⟨comparable, sorted, sorts, congrArg Prod.fst answered⟩
  · obtain ⟨left, _, right, _, _, found⟩ := sort_eq_error host.sorter call.name free few comparable
    exact .inr ⟨comparable, _, by rw [answer_eq, found]; rfl⟩

end SortCall

/-- Sorting is correct and notices every pair of items that are not ordered against each other.
Items that are all ordered have one stable ascending permutation, and sorting gives it, whichever
sorter there is for many items.  Up to twenty items it is settled which pairs sorting looks at: its
calls then succeed if and only if the items are all ordered, and otherwise fail because of the kinds
of two of them. -/
theorem sorting_is_stable_and_finds_unordered_pairs (items : List Value)
    (free : ∀ item ∈ items, item.FloatFree) :
    (items.Pairwise Comparable → ∀ sorter function, ∃ sorted,
      sort sorter function items = .ok sorted ∧
      ∀ other, StablySorts items other ↔ other = sorted) ∧
    (items.length ≤ 20 → ∀ (call : SortCall) (host : Host),
      ((∃ value, call.answer host items = .ok value) ↔ items.Pairwise Comparable) ∧
      (∀ value, call.answer host items = .ok value →
        ∃ sorted, StablySorts items sorted ∧ value = .list (call.arrange sorted)) ∧
      ∀ failure, call.answer host items = .error failure →
        ∃ fault, failure = .fault fault ∧ fault.kind = "TypeError") := by
  constructor
  · intro comparable sorter function
    obtain ⟨sorted, found, sorts⟩ := sort_eq_ok sorter function free comparable
    refine ⟨sorted, found, fun other => ⟨sorts.unique free, ?_⟩⟩
    rintro rfl
    exact sorts
  · intro few call host
    rcases call.answer_cases host free few with
      ⟨comparable, sorted, sorts, answer⟩ | ⟨incomparable, cause, answer⟩
    · rw [answer]
      refine ⟨iff_of_true ⟨_, rfl⟩ comparable, ?_, nofun⟩
      rintro _ ⟨⟩
      exact ⟨sorted, sorts, rfl⟩
    · rw [answer]
      refine ⟨iff_of_false nofun incomparable, nofun, ?_⟩
      rintro _ ⟨⟩
      exact ⟨_, rfl, rfl⟩

/-- Items of equal order keep their places.  Of the items that are not all ordered, the last one
passes the second one before it meets the first one, which it is not ordered against. -/
theorem flag_stays_before_number_of_equal_order :
    let tied : List Value := [.list [.int 2], .list [.bool true], .list [.int 1], .list []]
    let apart : List Value :=
      [.list [.int 1, .string "a"], .list [.int 2], .list [.bool true, .int 0]]
    (∀ item ∈ tied, item.FloatFree) ∧ tied.Pairwise Comparable ∧
      (∀ other, StablySorts tied other ↔
        other = [.list [], .list [.bool true], .list [.int 1], .list [.int 2]]) ∧
      (∀ item ∈ apart, item.FloatFree) ∧ apart.length ≤ 20 ∧
      ∀ (call : SortCall) (host : Host) (value : Value), call.answer host apart ≠ .ok value := by
  intro tied apart
  have tied_free : ∀ item ∈ tied, item.FloatFree := by
    simp [tied, FloatFree, Every, EveryItem, kind]
  have apart_free : ∀ item ∈ apart, item.FloatFree := by
    simp [apart, FloatFree, Every, EveryItem, kind]
  have comparable : tied.Pairwise Comparable := by decide
  have incomparable : ¬apart.Pairwise Comparable := by decide
  have few : apart.length ≤ 20 := by decide
  obtain ⟨sorted, found, only⟩ :=
    (sorting_is_stable_and_finds_unordered_pairs tied tied_free).1 comparable .strict "sorted"
  obtain rfl : sorted = [.list [], .list [.bool true], .list [.int 1], .list [.int 2]] :=
    Except.ok.inj (found.symm.trans (by rfl))
  refine ⟨tied_free, comparable, only, apart_free, few, fun call host value answer => ?_⟩
  have settled := (sorting_is_stable_and_finds_unordered_pairs apart apart_free).2 few call host
  exact incomparable (settled.1.1 ⟨value, answer⟩)

end Value
end DotScript
