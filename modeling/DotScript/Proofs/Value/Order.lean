import DotScript.Proofs.Value.Equality
import DotScript.Value.Comparison

/-!
# Laws of the order of values

The order of two values turns around with its sides, and values of equal order are equal.  Without
doubles the order is transitive wherever it is defined: if one value does not come after a second
one and this not after a third one, then the first and the third are ordered as well, although lists
may hold items that are not.
-/

namespace DotScript
namespace Value

/-! ## How values are ordered -/

/-- How two values can be ordered. -/
inductive Ranks : Value → Value → Ordering → Prop
  | string (a b : String) : Ranks (.string a) (.string b) (compare a b)
  | list {items others : List Value} {order : Ordering}
      (ranked : compareItems? items others = some order) :
      Ranks (.list items) (.list others) order
  | number {value other : Value} {a b : Number} {order : Ordering} (left : value.number? = some a)
      (right : other.number? = some b) (ranked : a.compare? b = some order) :
      Ranks value other order

/-- Two values are ordered in some way if and only if they rank so. -/
theorem compare?_eq_some_iff {left right : Value} {order : Ordering} :
    left.compare? right = some order ↔ left.Ranks right order := by
  constructor
  · intro ordered
    rw [compare?.eq_def] at ordered
    split at ordered
    · rename_i a b
      obtain rfl := Option.some.inj ordered
      exact .string a b
    · exact .list ordered
    · rw [numericOrder?] at ordered
      split at ordered
      · rename_i left_number right_number
        exact .number left_number right_number ordered
      · cases ordered
  · intro ranks
    cases ranks with
    | string a b => rfl
    | list ranked => exact ranked
    | number left_number right_number ranked =>
        rw [compare?.eq_def]
        split
        · cases left_number
        · cases left_number
        · rw [numericOrder?, left_number, right_number]
          exact ranked

/-- Lists that both go on are ordered by their first items if these differ, and else by the rest. -/
theorem compareItems?_cons_eq_some_iff {item other : Value} {items others : List Value}
    {order : Ordering} :
    compareItems? (item :: items) (other :: others) = some order ↔
      (item.compare? other = some .eq ∧ compareItems? items others = some order) ∨
        (item.compare? other = some order ∧ order ≠ .eq) := by
  rw [compareItems?]
  split
  · rename_i equal
    rw [equal]
    grind
  · rename_i different
    grind

/-! ## Turning around -/

theorem compareItems?_swap {items others : List Value} {order : Ordering}
    (swap : ∀ item ∈ items, ∀ other order, item.compare? other = some order →
      other.compare? item = some order.swap)
    (ranked : compareItems? items others = some order) :
    compareItems? others items = some order.swap := by
  induction items generalizing others order with
  | nil =>
      cases others with
      | nil => cases ranked; rfl
      | cons other others => cases ranked; rfl
  | cons item items ih =>
      cases others with
      | nil => cases ranked; rfl
      | cons other others =>
          rw [compareItems?_cons_eq_some_iff] at ranked ⊢
          have first := swap item List.mem_cons_self other
          rcases ranked with ⟨equal, later⟩ | ⟨differs, unequal⟩
          · exact .inl ⟨first .eq equal,
              ih (fun item member => swap item (List.mem_cons_of_mem _ member)) later⟩
          · exact .inr ⟨first order differs, mt Ordering.swap_eq_eq.1 unequal⟩

theorem compare?_swap_of_some {left right : Value} {order : Ordering}
    (ordered : left.compare? right = some order) : right.compare? left = some order.swap := by
  induction left using Value.induction generalizing right order with
  | list items ih =>
      rw [compare?_eq_some_iff] at ordered ⊢
      cases ordered with
      | list ranked =>
          exact .list (compareItems?_swap (fun item member _ _ => ih item member) ranked)
      | number left => cases left
  | string text =>
      rw [compare?_eq_some_iff] at ordered ⊢
      cases ordered with
      | string _ other =>
          rw [← Std.OrientedCmp.eq_swap]
          exact .string other text
      | number left => cases left
  | _ =>
      rw [compare?_eq_some_iff] at ordered ⊢
      cases ordered with
      | number left right ranked =>
          refine .number right left ?_
          rw [Number.compare?_swap, ranked]
          rfl

/-- The order of two values turns around with its sides. -/
theorem compare?_swap (left right : Value) :
    right.compare? left = (left.compare? right).map Ordering.swap := by
  cases ordered : left.compare? right with
  | some order => exact compare?_swap_of_some ordered
  | none =>
      cases turned : right.compare? left with
      | none => rfl
      | some order =>
          rw [compare?_swap_of_some turned] at ordered
          cases ordered

/-! ## Order and equality -/

theorem looseEqItems_of_compareItems? {items others : List Value}
    (equal : ∀ item ∈ items, ∀ other, item.compare? other = some .eq → item.looseEq other = true)
    (ranked : compareItems? items others = some .eq) : looseEqItems items others = true := by
  induction items generalizing others with
  | nil =>
      cases others with
      | nil => rfl
      | cons other others => cases ranked
  | cons item items ih =>
      cases others with
      | nil => cases ranked
      | cons other others =>
          rcases compareItems?_cons_eq_some_iff.1 ranked with ⟨first, later⟩ | ⟨_, unequal⟩
          · rw [looseEqItems, equal item List.mem_cons_self other first,
              ih (fun item member => equal item (List.mem_cons_of_mem _ member)) later]
            rfl
          · exact (unequal rfl).elim

/-- Values of equal order are equal. -/
theorem looseEq_of_compare? {left right : Value} (ordered : left.compare? right = some .eq) :
    left.looseEq right = true := by
  induction left using Value.induction generalizing right with
  | list items ih =>
      rw [compare?_eq_some_iff] at ordered
      cases ordered with
      | list ranked =>
          exact looseEqItems_of_compareItems? (fun item member _ => ih item member) ranked
      | number left => cases left
  | string text =>
      rw [compare?_eq_some_iff] at ordered
      rw [looseEq_iff_agrees]
      generalize same : Ordering.eq = order at ordered
      cases ordered with
      | string _ other =>
          obtain rfl := Std.LawfulEqCmp.compare_eq_iff_eq.1 same.symm
          exact .string text
      | number left => cases left
  | _ =>
      rw [compare?_eq_some_iff] at ordered
      rw [looseEq_iff_agrees]
      cases ordered with
      | number left right ranked => exact .number left right ranked

theorem compareItems?_of_looseEqItems {items others : List Value}
    (equal : ∀ item ∈ items, ∀ other, item.looseEq other = true →
      item.compare? other = some .eq ∨ item.compare? other = Option.none)
    (same : looseEqItems items others = true) :
    compareItems? items others = some .eq ∨ compareItems? items others = Option.none := by
  induction items generalizing others with
  | nil =>
      cases others with
      | nil => exact .inl rfl
      | cons other others => cases same
  | cons item items ih =>
      cases others with
      | nil => cases same
      | cons other others =>
          rw [looseEqItems, Bool.and_eq_true] at same
          rw [compareItems?]
          rcases equal item List.mem_cons_self other same.1 with first | first
          · rw [first]
            exact ih (fun item member => equal item (List.mem_cons_of_mem _ member)) same.2
          · rw [first]
            exact .inr rfl

theorem compare?_of_looseEq_of_flat {left right : Value} (no_list : ∀ items, left ≠ .list items)
    (equal : left.looseEq right = true) :
    left.compare? right = some .eq ∨ left.compare? right = Option.none := by
  rw [looseEq_iff_agrees] at equal
  cases equal with
  | none => exact .inr rfl
  | string text => exact .inl (congrArg some Std.ReflCmp.compare_self)
  | list same => exact (no_list _ rfl).elim
  | set size included => exact .inr rfl
  | function same => exact .inr rfl
  | number left right ranked => exact .inl (compare?_eq_some_iff.2 (.number left right ranked))

/-- Equal values are of equal order, or not ordered at all. -/
theorem compare?_of_looseEq {left right : Value} (equal : left.looseEq right = true) :
    left.compare? right = some .eq ∨ left.compare? right = Option.none := by
  induction left using Value.induction generalizing right with
  | list items ih =>
      rw [looseEq_iff_agrees] at equal
      cases equal with
      | list same => exact compareItems?_of_looseEqItems (fun item member _ => ih item member) same
      | number left => cases left
  | _ => exact compare?_of_looseEq_of_flat nofun equal

/-! ## Transitivity -/

theorem eq_lt_of_isLE {order : Ordering} (le : order.isLE = true) (unequal : order ≠ .eq) :
    order = .lt := by
  cases order with
  | lt => rfl
  | eq => exact (unequal rfl).elim
  | gt => cases le

theorem then_eq_ite {first second : Ordering} (first_le : first.isLE = true)
    (second_le : second.isLE = true) :
    first.then second = if first = .lt ∨ second = .lt then .lt else .eq := by
  cases first with
  | lt => rfl
  | gt => cases first_le
  | eq =>
      cases second with
      | gt => cases second_le
      | _ => rfl

/-- The order goes on from a value over a second one to a third one. -/
def GoesOn (left middle right : Value) : Prop :=
  ∀ first second, left.compare? middle = some first → middle.compare? right = some second →
    first.isLE = true → second.isLE = true → left.compare? right = some (first.then second)

theorem compareItems?_then {items middle others : List Value} {first second : Ordering}
    (goes_on : ∀ item ∈ items, ∀ between ∈ middle, ∀ other ∈ others, GoesOn item between other)
    (ranked : compareItems? items middle = some first)
    (also : compareItems? middle others = some second) (first_le : first.isLE = true)
    (second_le : second.isLE = true) :
    compareItems? items others = some (first.then second) := by
  induction items generalizing middle others first second with
  | nil =>
      cases middle with
      | nil => cases ranked; exact also
      | cons between middle =>
          cases ranked
          cases others with
          | nil => cases also; cases second_le
          | cons other others => rfl
  | cons item items ih =>
      cases middle with
      | nil => cases ranked; cases first_le
      | cons between middle =>
          cases others with
          | nil => cases also; cases second_le
          | cons other others =>
              have heads := goes_on item List.mem_cons_self between List.mem_cons_self other
                List.mem_cons_self
              have tails : ∀ item ∈ items, ∀ between ∈ middle, ∀ other ∈ others,
                  GoesOn item between other := by
                intro item inside between in_middle other in_others
                exact goes_on item (List.mem_cons_of_mem _ inside) between
                  (List.mem_cons_of_mem _ in_middle) other (List.mem_cons_of_mem _ in_others)
              rw [compareItems?_cons_eq_some_iff] at ranked also ⊢
              -- Whichever pair of heads differs first decides; until then both are equal.
              rcases ranked with ⟨equal, ranked⟩ | ⟨differs, unequal⟩
              · rcases also with ⟨also_equal, also⟩ | ⟨also_differs, also_unequal⟩
                · exact .inl ⟨heads .eq .eq equal also_equal rfl rfl,
                    ih tails ranked also first_le second_le⟩
                · obtain rfl := eq_lt_of_isLE second_le also_unequal
                  rw [then_eq_ite first_le rfl, if_pos (.inr rfl)]
                  exact .inr ⟨heads .eq .lt equal also_differs rfl rfl, nofun⟩
              · obtain rfl := eq_lt_of_isLE first_le unequal
                rcases also with ⟨also_equal, _⟩ | ⟨also_differs, _⟩
                · exact .inr ⟨heads .lt .eq differs also_equal rfl rfl, nofun⟩
                · exact .inr ⟨heads .lt second differs also_differs rfl second_le, nofun⟩

/-- The order of values without doubles is transitive, and defined where it is. -/
theorem goesOn_of_floatFree {left middle right : Value} (left_free : left.FloatFree)
    (middle_free : middle.FloatFree) (right_free : right.FloatFree) :
    GoesOn left middle right := by
  induction left using Value.induction generalizing middle right with
  | list items ih =>
      intro first second ranked also first_le second_le
      rw [compare?_eq_some_iff] at ranked also ⊢
      cases ranked with
      | number left => cases left
      | list ranked =>
          cases also with
          | number left => cases left
          | list also =>
              refine .list (compareItems?_then ?_ ranked also first_le second_le)
              intro item inside between in_middle other in_others
              exact ih item inside (left_free.of_mem_list item inside)
                (middle_free.of_mem_list between in_middle)
                (right_free.of_mem_list other in_others)
  | string text =>
      intro first second ranked also first_le second_le
      rw [compare?_eq_some_iff] at ranked also ⊢
      cases ranked with
      | number left => cases left
      | string _ between =>
          cases also with
          | number left => cases left
          | string _ other =>
              rw [← compare_then first_le second_le]
              exact .string text other
  | _ =>
      intro first second ranked also first_le second_le
      rw [compare?_eq_some_iff] at ranked also ⊢
      cases ranked with
      | number left_number middle_number ranked =>
          cases also with
          | number also_middle right_number also =>
              obtain rfl := Option.some.inj (middle_number.symm.trans also_middle)
              obtain ⟨a, rfl⟩ := exists_int_of_number? left_free.here left_number
              obtain ⟨b, rfl⟩ := exists_int_of_number? middle_free.here middle_number
              obtain ⟨c, rfl⟩ := exists_int_of_number? right_free.here right_number
              refine .number left_number right_number ?_
              exact Number.compare?_then ranked also first_le second_le
          | _ => cases middle_number

/-- The order of two values turns around with its sides; values of equal order are equal; equal
values are of equal order or not ordered at all; and without doubles at any depth the order goes on:
a value that does not come after a second one, which does not come after a third one, is ordered
against the third one, before it if one of the two steps leads upwards and equal otherwise. -/
theorem order_of_values_is_coherent :
    (∀ left right : Value, right.compare? left = (left.compare? right).map Ordering.swap) ∧
    (∀ left right : Value, left.compare? right = some .eq → left.looseEq right = true) ∧
    (∀ left right : Value, left.looseEq right = true →
      left.compare? right = some .eq ∨ left.compare? right = Option.none) ∧
    (∀ left middle right : Value, left.FloatFree → middle.FloatFree → right.FloatFree →
      ∀ first second, left.compare? middle = some first → middle.compare? right = some second →
        first.isLE = true → second.isLE = true →
        left.compare? right = some (if first = .lt ∨ second = .lt then .lt else .eq)) := by
  refine ⟨compare?_swap, fun _ _ => looseEq_of_compare?, fun _ _ => compare?_of_looseEq, ?_⟩
  intro left middle right left_free middle_free right_free first second ranked also first_le
    second_le
  rw [goesOn_of_floatFree left_free middle_free right_free first second ranked also first_le
    second_le, then_eq_ite first_le second_le]

/-- The items behind the first difference need not be ordered. -/
theorem order_goes_on_past_unordered_items :
    let left : Value := .list [.bool true, .string "a", .none]
    let middle : Value := .list [.int 1, .string "b", .set []]
    let right : Value := .list [.int 2]
    left.FloatFree ∧ middle.FloatFree ∧ right.FloatFree ∧ left.compare? middle = some .lt ∧
      middle.compare? right = some .lt ∧ left.compare? right = some .lt ∧
      right.compare? left = some .gt := by
  intro left middle right
  have left_free : left.FloatFree := by simp [left, FloatFree, Every, EveryItem, kind]
  have middle_free : middle.FloatFree := by simp [middle, FloatFree, Every, EveryItem, kind]
  have right_free : right.FloatFree := by simp [right, FloatFree, Every, EveryItem, kind]
  have first : left.compare? middle = some .lt := by decide
  have second : middle.compare? right = some .lt := by decide
  obtain ⟨swap, _, _, trans⟩ := order_of_values_is_coherent
  have third : left.compare? right = some .lt :=
    trans left middle right left_free middle_free right_free .lt .lt first second rfl rfl
  exact ⟨left_free, middle_free, right_free, first, second, third, by rw [swap, third]; rfl⟩

end Value
end DotScript
