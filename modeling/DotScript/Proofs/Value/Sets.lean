import DotScript.Proofs.Value.Equality
import DotScript.Proofs.Value.Sound

/-!
# Sets behave as sets

A set is a list without two equal items, whose items are found by comparing with each of them.
Among values without doubles equality is an equivalence, so it does not matter which of several equal
items a set keeps: what it contains, whether it equals another set, and what adding and removing do
depend on the items up to equality only.
-/

namespace DotScript
namespace Value

/-- A set answers that it contains a value. -/
def Contains (collection value : Value) : Prop :=
  collection.callMethod "contains" [value] = .ok (.bool true)

section Equality

variable {left middle right : Value}

theorem looseEq_symm (left_exact : left.Every IsExact) (right_exact : right.Every IsExact)
    (equal : left.looseEq right = true) : right.looseEq left = true :=
  ExactValue.looseEq_equivalence.symm (x := ⟨left, left_exact⟩) (y := ⟨right, right_exact⟩) equal

theorem looseEq_trans (left_exact : left.Every IsExact) (middle_exact : middle.Every IsExact)
    (right_exact : right.Every IsExact) (first : left.looseEq middle = true)
    (second : middle.looseEq right = true) : left.looseEq right = true :=
  ExactValue.looseEq_equivalence.trans (x := ⟨left, left_exact⟩) (y := ⟨middle, middle_exact⟩)
    (z := ⟨right, right_exact⟩) first second

theorem looseEq_refl (is_exact : left.Every IsExact) : left.looseEq left = true :=
  ExactValue.looseEq_equivalence.refl ⟨left, is_exact⟩

end Equality

/-! ## Members -/

theorem memberOf_iff {value : Value} {items : List Value} :
    value.memberOf items = true ↔ ∃ item ∈ items, item.looseEq value = true := by
  rw [memberOf, List.any_eq_true]

theorem contains_answer (items : List Value) (value : Value) :
    (Value.set items).callMethod "contains" [value] = .ok (.bool (value.memberOf items)) :=
  rfl

theorem contains_iff {items : List Value} {value : Value} :
    Contains (.set items) value ↔ ∃ item ∈ items, item.looseEq value = true := by
  rw [Contains, contains_answer, Except.ok.injEq, Value.bool.injEq, memberOf_iff]

/-- An item is kept or equals one that is kept. -/
theorem exists_equal_of_mem_foldl_keep {items kept : List Value} {value : Value}
    (self : ∀ item ∈ items, item.looseEq item = true)
    (found : (∃ item ∈ kept, item.looseEq value = true) ∨ value ∈ items) :
    ∃ item ∈ items.foldl (fun kept item => if memberOf item kept then kept else kept ++ [item]) kept,
      item.looseEq value = true := by
  induction items generalizing kept with
  | nil => exact found.resolve_right List.not_mem_nil
  | cons next rest ih =>
      obtain ⟨next_self, later⟩ := List.forall_mem_cons.1 self
      rw [List.foldl_cons]
      apply ih later
      rcases found with ⟨item, inside, equal⟩ | member
      · left
        split
        · exact ⟨item, inside, equal⟩
        · exact ⟨item, List.mem_append_left _ inside, equal⟩
      · rcases List.mem_cons.1 member with rfl | member
        · left
          split
          next known => exact memberOf_iff.1 known
          next => exact ⟨value, List.mem_append_right _ List.mem_cons_self, next_self⟩
        · exact .inr member

theorem exists_equal_of_mem_distinct {items : List Value} {value : Value}
    (self : ∀ item ∈ items, item.looseEq item = true) (member : value ∈ items) :
    ∃ item ∈ distinct items, item.looseEq value = true :=
  exists_equal_of_mem_foldl_keep self (.inr member)

section Exact

variable {items others : List Value} {value : Value}

/-- A set of exact values is one. -/
theorem every_ofSet (are_exact : ∀ item ∈ items, item.Every IsExact) :
    (ofSet items).Every IsExact :=
  (every_set _).2 ⟨⟨nofun, distinct_pairwise items⟩, fun item member =>
    are_exact item (mem_of_mem_distinct member)⟩

/-- What a set contains does not depend on which of its equal items are kept. -/
theorem contains_ofSet_iff (are_exact : ∀ item ∈ items, item.Every IsExact)
    (is_exact : value.Every IsExact) :
    Contains (ofSet items) value ↔ ∃ item ∈ items, item.looseEq value = true := by
  rw [ofSet, contains_iff]
  constructor
  · rintro ⟨item, kept, equal⟩
    exact ⟨item, mem_of_mem_distinct kept, equal⟩
  · rintro ⟨item, inside, equal⟩
    obtain ⟨kept, found, also⟩ := exists_equal_of_mem_distinct
      (fun item member => looseEq_refl (are_exact item member)) inside
    have kept_exact := are_exact kept (mem_of_mem_distinct found)
    exact ⟨kept, found, looseEq_trans kept_exact (are_exact item inside) is_exact also equal⟩

/-! ## Equal sets -/

/-- Items with partners of which no two have the same are not more than the partners. -/
theorem length_le_of_partners {α β : Type} {partner : α → β → Prop} {items : List α}
    {others : List β}
    (apart : items.Pairwise fun earlier later =>
      ∀ other ∈ others, partner earlier other → ¬ partner later other)
    (total : ∀ item ∈ items, ∃ other ∈ others, partner item other) :
    items.length ≤ others.length := by
  cases items with
  | nil => exact Nat.zero_le _
  | cons item rest =>
      -- otherwise the later items would leave no partner for the first one
      by_contra many
      obtain ⟨first_apart, rest_apart⟩ := List.pairwise_cons.1 apart
      obtain ⟨other, inside, matched⟩ := total item List.mem_cons_self
      have few : others.length ≤ rest.length := by
        rw [List.length_cons] at many
        omega
      obtain ⟨later, member, related⟩ := exists_partner_of_length_le rest_apart
        (fun later member => total later (List.mem_cons_of_mem item member)) few other inside
      exact first_apart later member other inside matched related

/-- The items of a set without doubles, of which no two are equal to the same value. -/
theorem apart_of_set (is_exact : (Value.set items).Every IsExact)
    (others_exact : ∀ other ∈ others, other.Every IsExact) :
    items.Pairwise fun earlier later =>
      ∀ other ∈ others, earlier.looseEq other = true → ¬ later.looseEq other = true := by
  obtain ⟨⟨-, different⟩, items_exact⟩ := (every_set items).1 is_exact
  refine apart_of_distinct different ?_
  intro earlier earlier_in later later_in other member equal also
  have back := looseEq_symm (items_exact later later_in) (others_exact other member) also
  exact looseEq_trans (items_exact earlier earlier_in) (others_exact other member)
    (items_exact later later_in) equal back

/-- Sets are equal if and only if each lies in the other one. -/
theorem set_looseEq_iff (items_exact : (Value.set items).Every IsExact)
    (others_exact : (Value.set others).Every IsExact) :
    (Value.set items).looseEq (.set others) = true ↔
      (∀ item ∈ items, ∃ other ∈ others, item.looseEq other = true) ∧
        ∀ other ∈ others, ∃ item ∈ items, other.looseEq item = true := by
  have inside := ((every_set items).1 items_exact).2
  have also_inside := ((every_set others).1 others_exact).2
  constructor
  · intro equal
    have back := looseEq_symm items_exact others_exact equal
    rw [looseEq, Bool.and_eq_true, includedIn_iff] at equal back
    exact ⟨equal.2, back.2⟩
  · rintro ⟨included, includes⟩
    have at_most := length_le_of_partners (apart_of_set items_exact also_inside) included
    have at_least := length_le_of_partners (apart_of_set others_exact inside) includes
    rw [looseEq, Bool.and_eq_true, beq_iff_eq, includedIn_iff]
    exact ⟨Nat.le_antisymm at_most at_least, included⟩

/-- Equality with an item may be asked from either side. -/
theorem exists_looseEq_comm (are_exact : ∀ item ∈ items, item.Every IsExact)
    (is_exact : value.Every IsExact) :
    (∃ item ∈ items, value.looseEq item = true) ↔ ∃ item ∈ items, item.looseEq value = true := by
  constructor
  · rintro ⟨item, member, equal⟩
    exact ⟨item, member, looseEq_symm is_exact (are_exact item member) equal⟩
  · rintro ⟨item, member, equal⟩
    exact ⟨item, member, looseEq_symm (are_exact item member) is_exact equal⟩

/-- Being in a set of items comes to being among the items. -/
theorem exists_kept_iff (are_exact : ∀ item ∈ items, item.Every IsExact)
    (is_exact : value.Every IsExact) :
    (∃ item ∈ distinct items, value.looseEq item = true) ↔
      ∃ item ∈ items, value.looseEq item = true := by
  have kept_exact : ∀ item ∈ distinct items, item.Every IsExact := fun item member =>
    are_exact item (mem_of_mem_distinct member)
  rw [exists_looseEq_comm kept_exact is_exact, exists_looseEq_comm are_exact is_exact,
    ← contains_iff]
  exact contains_ofSet_iff are_exact is_exact

/-- Each kept item equals one of the others exactly if each item does. -/
theorem forall_kept_iff (are_exact : ∀ item ∈ items, item.Every IsExact)
    (others_exact : ∀ other ∈ others, other.Every IsExact) :
    (∀ item ∈ distinct items, ∃ other ∈ distinct others, item.looseEq other = true) ↔
      ∀ item ∈ items, ∃ other ∈ others, item.looseEq other = true := by
  constructor
  · intro included item member
    obtain ⟨kept, found, equal⟩ := exists_equal_of_mem_distinct
      (fun item member => looseEq_refl (are_exact item member)) member
    have kept_exact := are_exact kept (mem_of_mem_distinct found)
    obtain ⟨other, inside, also⟩ :=
      (exists_kept_iff others_exact kept_exact).1 (included kept found)
    have item_exact := are_exact item member
    exact ⟨other, inside, looseEq_trans item_exact kept_exact (others_exact other inside)
      (looseEq_symm kept_exact item_exact equal) also⟩
  · intro included item found
    have member := mem_of_mem_distinct found
    exact (exists_kept_iff others_exact (are_exact item member)).2 (included item member)

theorem ofSet_looseEq_iff (are_exact : ∀ item ∈ items, item.Every IsExact)
    (others_exact : ∀ other ∈ others, other.Every IsExact) :
    (ofSet items).looseEq (ofSet others) = true ↔
      (∀ item ∈ items, ∃ other ∈ others, item.looseEq other = true) ∧
        ∀ other ∈ others, ∃ item ∈ items, other.looseEq item = true := by
  have kept := set_looseEq_iff (every_ofSet are_exact) (every_ofSet others_exact)
  rw [forall_kept_iff are_exact others_exact, forall_kept_iff others_exact are_exact] at kept
  exact kept

/-! ## Adding and removing -/

theorem distinct_append_singleton (is_exact : (Value.set items).Every IsExact) (value : Value) :
    distinct (items ++ [value]) = if value.memberOf items then items else items ++ [value] := by
  have kept := distinct_eq_self is_exact.here.2
  rw [distinct] at kept ⊢
  rw [List.foldl_append, kept]
  rfl

/-- One item at most equals a value, so removing it leaves all others. -/
theorem exists_removed (items_exact : (Value.set items).Every IsExact)
    (is_exact : value.Every IsExact) (contained : Contains (.set items) value) :
    ∃ front removed back, items = front ++ removed :: back ∧ removed.looseEq value = true ∧
      items.filter (fun item => !item.looseEq value) = front ++ back ∧
      ∀ item ∈ front ++ back, item.looseEq value = false := by
  obtain ⟨removed, inside, equal⟩ := contains_iff.1 contained
  obtain ⟨front, back, rfl⟩ := List.append_of_mem inside
  have apart := apart_of_set items_exact (List.forall_mem_singleton.2 is_exact)
  obtain ⟨-, removed_apart, front_apart⟩ := List.pairwise_append.1 apart
  have others : ∀ item ∈ front ++ back, item.looseEq value = false := by
    intro item member
    rw [Bool.eq_false_iff]
    intro also
    rcases List.mem_append.1 member with earlier | later
    · exact front_apart item earlier removed List.mem_cons_self value List.mem_cons_self also equal
    · exact (List.pairwise_cons.1 removed_apart).1 item later value List.mem_cons_self equal also
  refine ⟨front, removed, back, rfl, equal, ?_, others⟩
  rw [List.filter_append, List.filter_cons_of_neg (by simp [equal]), ← List.filter_append,
    List.filter_eq_self]
  intro item member
  rw [others item member]
  rfl

/-- Adding an item gives a set of the items and the new one, in either way to write it. -/
theorem exists_grown (items_exact : (Value.set items).Every IsExact)
    (is_exact : value.Every IsExact) :
    ∃ grown : ExactValue, (Value.set items).callMethod "add" [value] = .ok grown.1 ∧
      Builtin.append.compute [.set items, value] = .ok grown.1 ∧
      grown.1 = .set (if value.memberOf items then items else items ++ [value]) ∧
      ∀ other : ExactValue, Contains grown.1 other.1 ↔
        Contains (.set items) other.1 ∨ value.looseEq other.1 = true := by
  have inside := ((every_set items).1 items_exact).2
  have all_exact : ∀ item ∈ items ++ [value], item.Every IsExact := by
    intro item member
    rcases List.mem_append.1 member with earlier | last
    · exact inside item earlier
    · rwa [List.mem_singleton.1 last]
  refine ⟨⟨ofSet (items ++ [value]), every_ofSet all_exact⟩, rfl, rfl,
    congrArg Value.set (distinct_append_singleton items_exact value), fun other => ?_⟩
  rw [contains_ofSet_iff all_exact other.2, contains_iff]
  simp only [List.mem_append, List.mem_singleton, or_and_right, exists_or, exists_eq_left]

theorem remove_of_not_contains (missing : ¬ Contains (.set items) value) :
    (Value.set items).callMethod "remove" [value] = .error (.running (.notMember value.repr)) := by
  have absent : value.memberOf items ≠ true := by
    rwa [contains_iff, ← memberOf_iff] at missing
  exact if_neg absent

/-- What is left of pairwise different items is a set again. -/
theorem remove_of_contains (different : (Value.set items).HasDistinctItems)
    (contained : Contains (.set items) value) :
    (Value.set items).callMethod "remove" [value] =
      .ok (.set (items.filter fun item => !item.looseEq value)) := by
  have member : value.memberOf items = true := memberOf_iff.2 (contains_iff.1 contained)
  calc (Value.set items).callMethod "remove" [value]
      = .ok (ofSet (items.filter fun item => !item.looseEq value)) := if_pos member
    _ = .ok (.set (items.filter fun item => !item.looseEq value)) := by
        rw [ofSet, distinct_eq_self (different.filter _)]

/-- Nothing that equals a value is left once it is removed. -/
theorem not_contains_of_unequal {rest : List Value} {other : Value}
    (rest_exact : ∀ item ∈ rest, item.Every IsExact) (is_exact : value.Every IsExact)
    (other_exact : other.Every IsExact) (unequal : ∀ item ∈ rest, item.looseEq value = false)
    (equal : other.looseEq value = true) : ¬ Contains (.set rest) other := by
  rw [contains_iff]
  rintro ⟨item, member, also⟩
  have meets := looseEq_trans (rest_exact item member) other_exact is_exact also equal
  rw [unequal item member] at meets
  cases meets

/-- Removing what was new gives the items from before. -/
theorem remove_of_new (grown_exact : (Value.set (items ++ [value])).Every IsExact)
    (new : value.memberOf items = false) :
    (Value.set (items ++ [value])).callMethod "remove" [value] = .ok (.set items) := by
  have self : value.looseEq value = true :=
    looseEq_refl (((every_set _).1 grown_exact).2 value (List.mem_append_right _ List.mem_cons_self))
  have contained : Contains (.set (items ++ [value])) value :=
    contains_iff.2 ⟨value, List.mem_append_right _ List.mem_cons_self, self⟩
  have kept : items.filter (fun item => !item.looseEq value) = items := by
    rw [List.filter_eq_self]
    intro item member
    rw [memberOf, List.any_eq_false] at new
    simpa using new item member
  rw [remove_of_contains grown_exact.here.2 contained, List.filter_append, kept]
  simp [self]

end Exact

theorem every_of_elements? {source : Value} {elements : List Value}
    (is_exact : source.Every IsExact) (found : source.elements? = some elements) :
    ∀ element ∈ elements, element.Every IsExact := by
  cases source with
  | list items =>
      cases found
      exact ((every_list _).1 is_exact).2
  | set items =>
      cases found
      exact ((every_set _).1 is_exact).2
  | string text =>
      cases found
      intro element member
      obtain ⟨c, -, rfl⟩ := List.mem_map.1 member
      exact ⟨nofun, trivial⟩
  | _ => cases found

theorem set_compute {source : Value} {elements : List Value}
    (found : source.elements? = some elements) :
    Builtin.set.compute [source] = .ok (ofSet elements) := by
  change toSet source = _
  rw [toSet, found]

/-- Sets of values without doubles are built, compared, extended and cut down as sets are. -/
theorem sets_behave_as_sets :
    (∀ items value, (Value.set items).callMethod "contains" [value] = .ok (.bool false) ↔
      ¬ Contains (.set items) value) ∧
    (∀ (source : ExactValue) (elements : List Value), source.1.elements? = some elements →
      ∃ built : ExactValue, Builtin.set.compute [source.1] = .ok built.1 ∧
        ∀ value : ExactValue, Contains built.1 value.1 ↔
          ∃ element ∈ elements, element.looseEq value.1 = true) ∧
    (∀ (source other : ExactValue) (elements others : List Value) (built also_built : Value),
      source.1.elements? = some elements → other.1.elements? = some others →
      Builtin.set.compute [source.1] = .ok built → Builtin.set.compute [other.1] = .ok also_built →
      (built.looseEq also_built = true ↔
        (∀ element ∈ elements, ∃ other ∈ others, element.looseEq other = true) ∧
          ∀ other ∈ others, ∃ element ∈ elements, other.looseEq element = true)) ∧
    ∀ (items : List Value) (x : ExactValue), (Value.set items).Every IsExact →
      (∃ grown : ExactValue, (Value.set items).callMethod "add" [x.1] = .ok grown.1 ∧
        Builtin.append.compute [.set items, x.1] = .ok grown.1 ∧
        (∀ value : ExactValue, Contains grown.1 value.1 ↔
          Contains (.set items) value.1 ∨ x.1.looseEq value.1 = true) ∧
        (Contains (.set items) x.1 → grown.1.looseEq (.set items) = true) ∧
        (¬ Contains (.set items) x.1 → ∃ back, grown.1.callMethod "remove" [x.1] = .ok back ∧
          back.looseEq (.set items) = true)) ∧
      ((∃ fault, (Value.set items).callMethod "remove" [x.1] = .error fault) ↔
        ¬ Contains (.set items) x.1) ∧
      (Contains (.set items) x.1 → ∃ front removed back,
        items = front ++ removed :: back ∧ removed.looseEq x.1 = true ∧
        (Value.set items).callMethod "remove" [x.1] = .ok (.set (front ++ back)) ∧
        ∀ value : ExactValue, value.1.looseEq x.1 = true →
          ¬ Contains (.set (front ++ back)) value.1) := by
  refine ⟨fun items value => ?_, fun source elements found => ?_, ?_, fun items x items_exact => ?_⟩
  · rw [Contains, contains_answer]
    simp
  · have are_exact := every_of_elements? source.2 found
    exact ⟨⟨ofSet elements, every_ofSet are_exact⟩, set_compute found, fun value =>
      contains_ofSet_iff are_exact value.2⟩
  · intro source other elements others built also_built found also_found is_built is_also_built
    cases (set_compute found).symm.trans is_built
    cases (set_compute also_found).symm.trans is_also_built
    exact ofSet_looseEq_iff (every_of_elements? source.2 found)
      (every_of_elements? other.2 also_found)
  · have set_refl := looseEq_refl items_exact
    refine ⟨?_, ⟨?_, fun missing => ⟨_, remove_of_not_contains missing⟩⟩, fun contained => ?_⟩
    · obtain ⟨grown, added, appended, grown_eq, members⟩ := exists_grown items_exact x.2
      refine ⟨grown, added, appended, members, fun contained => ?_, fun missing => ?_⟩
      · rw [grown_eq, if_pos (memberOf_iff.2 (contains_iff.1 contained))]
        exact set_refl
      · rw [contains_iff, ← memberOf_iff] at missing
        rw [if_neg missing] at grown_eq
        have removed := remove_of_new (grown_eq ▸ grown.2) (Bool.eq_false_iff.2 missing)
        exact ⟨_, grown_eq ▸ removed, set_refl⟩
    · rintro ⟨fault, failed⟩ contained
      cases failed.symm.trans (remove_of_contains items_exact.here.2 contained)
    · obtain ⟨front, removed, back, rfl, equal, filtered, others⟩ :=
        exists_removed items_exact x.2 contained
      have done := remove_of_contains items_exact.here.2 contained
      rw [filtered] at done
      have rest_exact : ∀ item ∈ front ++ back, item.Every IsExact := fun item member =>
        ((every_set _).1 items_exact).2 item (by grind)
      exact ⟨front, removed, back, rfl, equal, done, fun value =>
        not_contains_of_unequal rest_exact x.2 value.2 others⟩

/-- A flag and the number it equals are one member, and so are sets in another order. -/
theorem flag_and_number_are_one_member :
    let pair : Value := .set [.int 2, .int 3]
    let turned : Value := .set [.int 3, .int 2]
    let source : Value := .list [.bool true, pair, .int 1, turned]
    (Value.set [.bool true, pair]).Every IsExact ∧ source.Every IsExact ∧
      Builtin.set.compute [source] = .ok (.set [.bool true, pair]) ∧
      Contains (.set [.bool true, pair]) turned ∧
      ∃ front removed back, [.bool true, pair] = front ++ removed :: back ∧
        removed.looseEq (.int 1) = true ∧
        (Value.set [.bool true, pair]).callMethod "remove" [.int 1] = .ok (.set (front ++ back)) := by
  intro pair turned source
  have turned_exact : turned.Every IsExact := by
    simp only [turned, Every, EveryItem, IsExact, HasDistinctItems, kind]
    decide
  have source_exact : source.Every IsExact := by
    simp only [source, pair, turned, Every, EveryItem, IsExact, HasDistinctItems, kind]
    decide
  have built_exact : (Value.set [.bool true, pair]).Every IsExact := by
    simp only [pair, Every, EveryItem, IsExact, HasDistinctItems, kind]
    decide
  have one_exact : (Value.int 1).Every IsExact := by
    simp only [Every, IsExact, HasDistinctItems, kind]
    decide
  obtain ⟨-, building, -, changing⟩ := sets_behave_as_sets
  obtain ⟨built, computed, members⟩ := building ⟨source, source_exact⟩ _ rfl
  have built_eq : Builtin.set.compute [source] = .ok (.set [.bool true, pair]) := by rfl
  have same : built.1 = .set [.bool true, pair] := Except.ok.inj (computed.symm.trans built_eq)
  have contained : Contains built.1 turned :=
    (members ⟨turned, turned_exact⟩).2 ⟨turned, by simp, looseEq_refl turned_exact⟩
  obtain ⟨-, -, removing⟩ := changing [.bool true, pair] ⟨.int 1, one_exact⟩ built_exact
  obtain ⟨front, removed, back, split, equal, done, -⟩ := removing (by rfl)
  exact ⟨built_exact, source_exact, built_eq, same ▸ contained, front, removed, back, split, equal,
    done⟩

end Value
end DotScript
