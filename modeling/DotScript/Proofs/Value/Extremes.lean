import DotScript.Proofs.Value.Sorting

/-!
# Least and greatest values

The search for the least of some values compares each of them with the best one so far only.  As long
as these pairs are ordered, transitivity carries the order over to all other pairs: the value that is
found is ordered against every other one and not above it, and it is below those that stand in front
of it.  So it is the value that sorting puts first.
-/

namespace DotScript
namespace Value

/-- Whether the least or the greatest of some values is looked for. -/
inductive Extreme
  | least
  | greatest

namespace Extreme

/-- The built-in that looks for it. -/
def builtin : Extreme → Builtin
  | .least => .min
  | .greatest => .max

/-- How a value that is better than another one compares to it. -/
def wanted : Extreme → Ordering
  | .least => .lt
  | .greatest => .gt

variable (side : Extreme)

/-- One value is better than another one. -/
def Beats (left right : Value) : Prop :=
  left.compare? right = some side.wanted

/-- One value is better than another one or of equal order with it. -/
def Bounds (left right : Value) : Prop :=
  ∃ order, left.compare? right = some order ∧ (order = side.wanted ∨ order = .eq)

variable {side}

theorem Beats.bounds {left right : Value} (beats : side.Beats left right) :
    side.Bounds left right :=
  ⟨side.wanted, beats, .inl rfl⟩

/-- A least value is bounded from below. -/
theorem bounds_least_iff {left right : Value} : least.Bounds left right ↔ left.AtMost right := by
  constructor
  · rintro ⟨order, ordered, rfl | rfl⟩
    · exact ⟨.lt, ordered, rfl⟩
    · exact ⟨.eq, ordered, rfl⟩
  · rintro ⟨order, ordered, le⟩
    refine ⟨order, ordered, ?_⟩
    cases order with
    | lt => exact .inl rfl
    | eq => exact .inr rfl
    | gt => cases le

/-- A greatest value is bounded from above. -/
theorem bounds_greatest_iff {left right : Value} :
    greatest.Bounds left right ↔ right.AtMost left := by
  constructor
  · rintro ⟨order, ordered, rfl | rfl⟩
    · exact ⟨.lt, compare?_swap_of_some ordered, rfl⟩
    · exact ⟨.eq, compare?_swap_of_some ordered, rfl⟩
  · rintro ⟨order, ordered, le⟩
    refine ⟨order.swap, compare?_swap_of_some ordered, ?_⟩
    cases order with
    | lt => exact .inl rfl
    | eq => exact .inr rfl
    | gt => cases le

/-- Two values that bound each other are of equal order. -/
theorem Bounds.antisymm {left right : Value} (first : side.Bounds left right)
    (second : side.Bounds right left) : left.compare? right = some .eq := by
  cases side with
  | least => exact (bounds_least_iff.1 first).antisymm (bounds_least_iff.1 second)
  | greatest => exact (bounds_greatest_iff.1 second).antisymm (bounds_greatest_iff.1 first)

/-- Nothing bounds what beats it. -/
theorem Beats.not_bounds {left right : Value} (beats : side.Beats left right) :
    ¬ side.Bounds right left := by
  intro back
  have level := beats.bounds.antisymm back
  rw [beats] at level
  cases side <;> cases level

/-- What does not beat a value that it is ordered against is bounded by that value. -/
theorem bounds_of_not_wanted {left right : Value} {order : Ordering}
    (ordered : left.compare? right = some order) (worse : order ≠ side.wanted) :
    side.Bounds right left := by
  refine ⟨order.swap, compare?_swap_of_some ordered, ?_⟩
  cases side <;> cases order <;> first | exact absurd rfl worse | exact .inl rfl | exact .inr rfl

theorem Beats.trans_bounds {left middle right : Value} (left_free : left.FloatFree)
    (middle_free : middle.FloatFree) (right_free : right.FloatFree)
    (beats : side.Beats left middle) (bounds : side.Bounds middle right) :
    side.Beats left right := by
  cases side with
  | least =>
      obtain ⟨order, ordered, le⟩ := bounds_least_iff.1 bounds
      exact goesOn_of_floatFree left_free middle_free right_free .lt order beats ordered rfl le
  | greatest =>
      -- The order goes on upwards, so the greatest value is approached from the other end.
      obtain ⟨order, ordered, le⟩ := bounds_greatest_iff.1 bounds
      have less : middle.compare? left = some .lt := compare?_swap_of_some beats
      have goes_on := goesOn_of_floatFree right_free middle_free left_free order .lt ordered less
        le rfl
      rw [then_eq_ite le rfl, if_pos (.inr rfl)] at goes_on
      exact compare?_swap_of_some goes_on

/-! ## The search -/

/-- A value stands among others: it beats those in front of it and bounds those behind it. -/
structure Leads (side : Extreme) (items : List Value) (best : Value) (front back : List Value) :
    Prop where
  split : items = front ++ best :: back
  beats : ∀ other ∈ front, side.Beats best other
  bounds : ∀ other ∈ back, side.Bounds best other

/-- The search ends with a value that leads all the values it went through. -/
theorem exists_leads_of_extremeFrom {function : String} {best found : Value} {items : List Value}
    (free : ∀ item ∈ best :: items, item.FloatFree)
    (ended : extremeFrom function side.wanted best items = .ok found) :
    ∃ front back, side.Leads (best :: items) found front back := by
  induction items generalizing best with
  | nil =>
      cases ended
      exact ⟨[], [], rfl, List.forall_mem_nil _, List.forall_mem_nil _⟩
  | cons item rest ih =>
      obtain ⟨best_free, others_free⟩ := List.forall_mem_cons.1 free
      obtain ⟨item_free, rest_free⟩ := List.forall_mem_cons.1 others_free
      rw [extremeFrom] at ended
      cases ordered : item.compare? best with
      | none =>
          rw [ordered] at ended
          cases ended
      | some order =>
          simp only [ordered, beq_iff_eq] at ended
          split at ended
          next better =>
            have item_beats : side.Beats item best := by rw [Beats, ordered, better]
            obtain ⟨front, back, split, beats, bounds⟩ := ih others_free ended
            refine ⟨best :: front, back, congrArg (best :: ·) split, ?_, bounds⟩
            refine List.forall_mem_cons.2 ⟨?_, beats⟩
            cases front with
            | nil =>
                obtain ⟨rfl, -⟩ := List.cons.inj split
                exact item_beats
            | cons first front =>
                obtain ⟨rfl, -⟩ := List.cons.inj split
                have found_free : found.FloatFree := others_free found (by rw [split]; simp)
                exact (beats item List.mem_cons_self).trans_bounds found_free item_free best_free
                  item_beats.bounds
          next worse =>
            have best_bounds : side.Bounds best item := bounds_of_not_wanted ordered worse
            obtain ⟨front, back, split, beats, bounds⟩ :=
              ih (List.forall_mem_cons.2 ⟨best_free, rest_free⟩) ended
            cases front with
            | nil =>
                obtain ⟨rfl, rfl⟩ := List.cons.inj split
                exact ⟨[], item :: rest, rfl, List.forall_mem_nil _,
                  List.forall_mem_cons.2 ⟨best_bounds, bounds⟩⟩
            | cons first front =>
                obtain ⟨rfl, rfl⟩ := List.cons.inj split
                obtain ⟨found_beats, beats⟩ := List.forall_mem_cons.1 beats
                have found_free : found.FloatFree := rest_free found (by simp)
                refine ⟨best :: item :: front, back, rfl, List.forall_mem_cons.2 ⟨found_beats,
                  List.forall_mem_cons.2 ⟨?_, beats⟩⟩, bounds⟩
                exact found_beats.trans_bounds found_free best_free item_free best_bounds

/-- The search fails at a value that is not ordered against the best one so far. -/
theorem not_pairwise_of_extremeFrom {function : String} {best : Value} {items : List Value}
    {wanted : Ordering} {fault : Fault}
    (failed : extremeFrom function wanted best items = .error fault) :
    ¬ (best :: items).Pairwise Comparable := by
  induction items generalizing best with
  | nil => cases failed
  | cons item rest ih =>
      intro comparable
      obtain ⟨best_comparable, others_comparable⟩ := List.pairwise_cons.1 comparable
      obtain ⟨_, rest_comparable⟩ := List.pairwise_cons.1 others_comparable
      obtain ⟨order, ordered⟩ := (best_comparable item List.mem_cons_self).symm
      simp only [extremeFrom, ordered] at failed
      split at failed
      · exact ih failed others_comparable
      · refine ih failed (List.pairwise_cons.2 ⟨fun other inside => ?_, rest_comparable⟩)
        exact best_comparable other (List.mem_cons_of_mem item inside)

/-- The arguments of a call hold the candidates: as the items of a list or of a set, or one by
one. -/
inductive Offers : List Value → List Value → Prop
  | list (items : List Value) : Offers [.list items] items
  | set (items : List Value) : Offers [.set items] items
  | several (first second : Value) (rest : List Value) :
      Offers (first :: second :: rest) (first :: second :: rest)

/-- A call searches the candidates. -/
theorem compute_eq {args candidates : List Value} (offers : Offers args candidates) :
    side.builtin.compute args = extreme side.builtin.name side.wanted candidates := by
  cases offers <;> cases side <;> rfl

/-! ## Extremes and sorting -/

section Sorted

variable {items sorted front back : List Value} {best : Value}

/-- Sorting puts the least value first that beats those in front of it: of the values of equal order
with it, it is the first one. -/
theorem Leads.head_eq (leads : least.Leads items best front back)
    (free : ∀ item ∈ items, item.FloatFree) (sorts : StablySorts items sorted) :
    sorted.head? = some best := by
  obtain ⟨rfl, beats, bounds⟩ := leads
  have perm : (best :: (front ++ back)).Perm sorted :=
    List.perm_middle.symm.trans sorts.perm.symm
  cases sorted with
  | nil => exact absurd perm.length_eq (Nat.succ_ne_zero _)
  | cons first rest =>
      have below : ∀ item ∈ front ++ back, best.AtMost item := by
        intro item inside
        rcases List.mem_append.1 inside with before | behind
        · exact bounds_least_iff.1 (beats item before).bounds
        · exact bounds_least_iff.1 (bounds item behind)
      have none_in_front : front.filter best.isLevelWith = [] := by
        rw [List.filter_eq_nil_iff]
        intro item before level
        have turned := compare?_swap_of_some (beats item before)
        rw [isLevelWith_iff.1 level] at turned
        cases turned
      have same_level : (best :: (front ++ back)).filter best.isLevelWith =
          (first :: rest).filter best.isLevelWith := by
        rw [sorts.stable best (by simp), List.filter_append, List.filter_cons, List.filter_cons,
          List.filter_append, none_in_front, List.nil_append, List.nil_append]
      rw [head_eq_of_ascending (fun item inside => free item (List.perm_middle.mem_iff.2 inside))
        perm below (List.pairwise_cons.1 sorts.ascending).1 same_level]
      rfl

/-- Sorting puts a value last that is the greatest one or of equal order with it. -/
theorem Leads.last_level (leads : greatest.Leads items best front back)
    (sorts : StablySorts items sorted) :
    ∃ last, sorted.getLast? = some last ∧ (best = last ∨ best.compare? last = some .eq) := by
  obtain ⟨rfl, beats, bounds⟩ := leads
  have inside : best ∈ sorted := sorts.perm.mem_iff.2 (by simp)
  obtain ⟨earlier, last, rfl⟩ := (List.eq_nil_or_concat' sorted).resolve_left (List.ne_nil_of_mem inside)
  refine ⟨last, List.getLast?_concat, or_iff_not_imp_left.2 fun different => ?_⟩
  have best_earlier : best ∈ earlier := by simpa [different] using inside
  have below : best.AtMost last :=
    (List.pairwise_append.1 sorts.ascending).2.2 best best_earlier last List.mem_cons_self
  have last_among : last ∈ front ++ best :: back := sorts.perm.mem_iff.1 (by simp)
  have above : greatest.Bounds best last := by
    rcases List.mem_append.1 last_among with before | behind
    · exact (beats last before).bounds
    · rcases List.mem_cons.1 behind with rfl | behind
      · exact absurd rfl different
      · exact bounds last behind
  exact below.antisymm (bounds_greatest_iff.1 above)

end Sorted

/-- Some candidates that are all ordered have an extreme, and sorting agrees with it. -/
theorem exists_extreme_of_pairwise (side : Extreme) {args items : List Value}
    (offers : Offers args items) (some_item : items ≠ [])
    (free : ∀ item ∈ items, item.FloatFree) (comparable : items.Pairwise Comparable) :
    ∃ best sorted, side.builtin.compute args = .ok best ∧
      (∀ host, (Builtin.sorted.call [.list items]).run.run host = (.ok (.list sorted), host)) ∧
      match side with
      | .least => sorted.head? = some best
      | .greatest => ∃ last, sorted.getLast? = some last ∧
          (best = last ∨ best.compare? last = some .eq) := by
  obtain ⟨sorted, _, sorts⟩ := sort_eq_ok .strict "sorted" free comparable
  have answer (host : Host) :
      (Builtin.sorted.call [.list items]).run.run host = (.ok (.list sorted), host) :=
    (SortCall.builtin Option.none).run_of_comparable free comparable sorts host
  obtain ⟨first, rest, rfl⟩ := List.exists_cons_of_ne_nil some_item
  rw [compute_eq offers, extreme]
  cases ended : extremeFrom side.builtin.name side.wanted first rest with
  | error fault => exact absurd comparable (not_pairwise_of_extremeFrom ended)
  | ok best =>
      obtain ⟨front, back, leads⟩ := exists_leads_of_extremeFrom free ended
      refine ⟨best, sorted, rfl, answer, ?_⟩
      cases side with
      | least => exact leads.head_eq free sorts
      | greatest => exact leads.last_level sorts

/-- The least and the greatest of some values are right and agree with sorting.  A value that is
found is ordered against every other candidate and bounds it, and it is the first one to do so; the
search fails only if two of the candidates are not ordered; and if all of them are ordered, the
least one is the first one of the sorted candidates, and the greatest one is the last of them or of
equal order with it. -/
theorem extremes_bound_other_candidates (side : Extreme) {args items : List Value}
    (offers : Offers args items) (some_item : items ≠ [])
    (free : ∀ item ∈ items, item.FloatFree) :
    (∀ best, side.builtin.compute args = .ok best →
      ∃ before after, items = before ++ best :: after ∧
        (∀ other ∈ before ++ after, side.Bounds best other) ∧
        ∀ other ∈ before, ¬ side.Bounds other best) ∧
    (∀ fault, side.builtin.compute args = .error fault → ¬ items.Pairwise Comparable) ∧
    (items.Pairwise Comparable → ∃ best sorted, side.builtin.compute args = .ok best ∧
      (∀ host, (Builtin.sorted.call [.list items]).run.run host = (.ok (.list sorted), host)) ∧
      match side with
      | .least => sorted.head? = some best
      | .greatest => ∃ last, sorted.getLast? = some last ∧
          (best = last ∨ best.compare? last = some .eq)) := by
  refine ⟨fun best found => ?_, fun fault failed => ?_,
    exists_extreme_of_pairwise side offers some_item free⟩
  · obtain ⟨first, rest, rfl⟩ := List.exists_cons_of_ne_nil some_item
    rw [compute_eq offers, extreme] at found
    obtain ⟨before, after, split, beats, bounds⟩ := exists_leads_of_extremeFrom free found
    refine ⟨before, after, split, fun other inside => ?_, fun other inside =>
      (beats other inside).not_bounds⟩
    rcases List.mem_append.1 inside with in_front | behind
    · exact (beats other in_front).bounds
    · exact bounds other behind
  · obtain ⟨first, rest, rfl⟩ := List.exists_cons_of_ne_nil some_item
    rw [compute_eq offers, extreme] at failed
    exact not_pairwise_of_extremeFrom failed

/-- Of two values of equal order, the first one is the least one and sorting puts it first. -/
theorem flag_is_least_before_number_of_equal_order :
    let items : List Value := [.list [.int 2], .list [.bool true], .list [.int 1]]
    Offers [.list items] items ∧ items ≠ [] ∧ (∀ item ∈ items, item.FloatFree) ∧
      Builtin.min.compute [.list items] = .ok (.list [.bool true]) ∧
      (∃ before after, items = before ++ .list [.bool true] :: after ∧
        (∀ other ∈ before ++ after, least.Bounds (.list [.bool true]) other) ∧
        ∀ other ∈ before, ¬ least.Bounds other (.list [.bool true])) ∧
      ∃ best sorted, Builtin.min.compute [.list items] = .ok best ∧
        (∀ host, (Builtin.sorted.call [.list items]).run.run host = (.ok (.list sorted), host)) ∧
        sorted.head? = some best := by
  intro items
  have free : ∀ item ∈ items, item.FloatFree := by
    simp [items, FloatFree, Every, EveryItem, kind]
  have comparable : items.Pairwise Comparable := by decide
  have some_item : items ≠ [] := List.cons_ne_nil _ _
  have found : Builtin.min.compute [.list items] = .ok (.list [.bool true]) := by rfl
  have settled := extremes_bound_other_candidates .least (.list items) some_item free
  exact ⟨.list items, some_item, free, found, settled.1 _ found, settled.2.2 comparable⟩

/-- The least value is not compared with itself, and that comparison may be undefined: the order
against the other candidate is settled before the item that has no order. -/
theorem least_value_need_not_be_ordered_against_itself :
    ¬ ∀ (items : List Value) (best : Value), items ≠ [] → (∀ item ∈ items, item.FloatFree) →
      Builtin.min.compute [.list items] = .ok best → ∀ other ∈ items, best.AtMost other := by
  intro claimed
  let items : List Value := [.list [.int 1, .none], .list [.int 2]]
  have free : ∀ item ∈ items, item.FloatFree := by
    simp [items, FloatFree, Every, EveryItem, kind]
  have found : Builtin.min.compute [.list items] = .ok (.list [.int 1, .none]) := by rfl
  obtain ⟨order, ordered, -⟩ := claimed items _ (List.cons_ne_nil _ _) free found
    (.list [.int 1, .none]) List.mem_cons_self
  cases ordered

end Extreme
end Value
end DotScript
