import DotScript.Value.Comparison

/-!
# Values and the values in them

Statements about all values are proved by `Value.induction`: a list or a set may be assumed to hold
items for which the statement is known.  `Value.Every` says that a property holds for a value and
for everything in it, at every depth.
-/

namespace DotScript
namespace Value

/-- Induction over the items of lists and sets. -/
@[elab_as_elim]
theorem induction {motive : Value → Prop} (none : motive .none)
    (bool : ∀ value, motive (.bool value)) (int : ∀ value, motive (.int value))
    (float : ∀ value, motive (.float value)) (string : ∀ value, motive (.string value))
    (list : ∀ items, (∀ item ∈ items, motive item) → motive (.list items))
    (set : ∀ items, (∀ item ∈ items, motive item) → motive (.set items))
    (function : ∀ functions, motive (.function functions)) (value : Value) : motive value := by
  match value with
  | .none => exact none
  | .bool value => exact bool value
  | .int value => exact int value
  | .float value => exact float value
  | .string value => exact string value
  | .list items =>
      exact list items fun item _ => induction none bool int float string list set function item
  | .set items =>
      exact set items fun item _ => induction none bool int float string list set function item
  | .function functions => exact function functions
termination_by sizeOf value

mutual

/-- The property holds for the value and for all values in it. -/
def Every (property : Value → Prop) : Value → Prop
  | .list items => property (.list items) ∧ EveryItem property items
  | .set items => property (.set items) ∧ EveryItem property items
  | value => property value

/-- The property holds for all items and for all values in them. -/
def EveryItem (property : Value → Prop) : List Value → Prop
  | [] => True
  | item :: rest => item.Every property ∧ EveryItem property rest

end

mutual

/-- How deep lists and sets are nested in a value, counting itself. -/
def depth : Value → Nat
  | .list items | .set items => itemDepth items + 1
  | _ => 0

/-- How deep lists and sets are nested in some values. -/
def itemDepth : List Value → Nat
  | [] => 0
  | item :: rest => max item.depth (itemDepth rest)

end

section Every

variable {property : Value → Prop}

theorem everyItem_iff (items : List Value) :
    EveryItem property items ↔ ∀ item ∈ items, item.Every property := by
  induction items with
  | nil => simp [EveryItem]
  | cons item rest ih => simp [EveryItem, ih]

theorem every_list (items : List Value) :
    (Value.list items).Every property ↔
      property (.list items) ∧ ∀ item ∈ items, item.Every property := by
  rw [Every, everyItem_iff]

theorem every_set (items : List Value) :
    (Value.set items).Every property ↔
      property (.set items) ∧ ∀ item ∈ items, item.Every property := by
  rw [Every, everyItem_iff]

theorem Every.here {value : Value} (every : value.Every property) : property value := by
  cases value with
  | list items => exact ((every_list items).1 every).1
  | set items => exact ((every_set items).1 every).1
  | _ => exact every

/-- What holds throughout a value may be weakened. -/
theorem Every.mono {weaker : Value → Prop} (weaken : ∀ value, property value → weaker value)
    {value : Value} (every : value.Every property) : value.Every weaker := by
  induction value using Value.induction with
  | list items ih =>
      obtain ⟨here, inside⟩ := (every_list items).1 every
      exact (every_list items).2
        ⟨weaken _ here, fun item member => ih item member (inside item member)⟩
  | set items ih =>
      obtain ⟨here, inside⟩ := (every_set items).1 every
      exact (every_set items).2
        ⟨weaken _ here, fun item member => ih item member (inside item member)⟩
  | _ => exact weaken _ every

end Every

/-! ## Values that can be written down -/

/-- A set holds no item twice. -/
def HasDistinctItems : Value → Prop
  | .set items => items.Pairwise fun earlier later => earlier.looseEq later = false
  | _ => True

/-- There is no double in a value, at any depth. -/
def FloatFree (value : Value) : Prop :=
  value.Every (·.kind ≠ .float)

/-- A value with an exact text: no double, no function and no set with an item twice. -/
def IsPlain (value : Value) : Prop :=
  value.kind ≠ .float ∧ value.kind ≠ .function ∧ value.HasDistinctItems

theorem FloatFree.of_mem_list {items : List Value} (no_double : (Value.list items).FloatFree) :
    ∀ item ∈ items, item.FloatFree :=
  ((every_list items).1 no_double).2

theorem FloatFree.of_mem_set {items : List Value} (no_double : (Value.set items).FloatFree) :
    ∀ item ∈ items, item.FloatFree :=
  ((every_set items).1 no_double).2

theorem looseEqItems_self {items : List Value} (self : ∀ item ∈ items, item.looseEq item = true) :
    looseEqItems items items = true := by
  induction items with
  | nil => rfl
  | cons item rest ih =>
      obtain ⟨first, later⟩ := List.forall_mem_cons.1 self
      rw [looseEqItems, first, ih later]
      rfl

theorem includedIn_of_subset {items others : List Value}
    (self : ∀ item ∈ items, item.looseEq item = true) (subset : items ⊆ others) :
    includedIn items others = true := by
  induction items with
  | nil => rfl
  | cons item rest ih =>
      obtain ⟨first, later⟩ := List.forall_mem_cons.1 self
      have found : others.any (item.looseEq ·) = true :=
        List.any_eq_true.2 ⟨item, subset List.mem_cons_self, first⟩
      rw [includedIn, found, ih later (List.subset_of_cons_subset subset)]
      rfl

/-- A value without doubles equals itself. -/
theorem looseEq_self {value : Value} (no_double : value.FloatFree) :
    value.looseEq value = true := by
  induction value using Value.induction with
  | none => rfl
  | bool value => cases value <;> rfl
  | int value => simp [looseEq, numericEq, number?, Number.compare?, Integer.order_eq]
  | float value => exact (no_double rfl).elim
  | string value => simp [looseEq]
  | list items ih =>
      have inside := no_double.of_mem_list
      exact looseEqItems_self fun item member => ih item member (inside item member)
  | set items ih =>
      have inside := no_double.of_mem_set
      have included := includedIn_of_subset
        (fun item member => ih item member (inside item member)) (List.Subset.refl items)
      simp [looseEq, included]
  | function functions => exact BEq.refl (functions.overloads.map (·.declaration.label))

theorem identical_self {value : Value} (plain : value.Every IsPlain) :
    value.identical value = true := by
  simp [identical, looseEq_self (plain.mono fun _ is_plain => is_plain.1)]

/-- Items that differ from all earlier ones are added to them. -/
theorem foldl_keep_eq_append (rest earlier : List Value)
    (apart : (earlier ++ rest).Pairwise fun earlier later => earlier.looseEq later = false) :
    rest.foldl (fun kept item => if memberOf item kept then kept else kept ++ [item]) earlier =
      earlier ++ rest := by
  induction rest generalizing earlier with
  | nil => simp
  | cons item rest ih =>
      have new : memberOf item earlier = false := by
        rw [memberOf, List.any_eq_false]
        intro other member
        simpa using (List.pairwise_append.1 apart).2.2 other member item List.mem_cons_self
      have shifted := ih (earlier ++ [item]) (by simpa using apart)
      rw [List.foldl_cons, new]
      simpa using shifted

/-- Items that are pairwise different are all kept. -/
theorem distinct_eq_self {items : List Value}
    (apart : items.Pairwise fun earlier later => earlier.looseEq later = false) :
    distinct items = items :=
  foldl_keep_eq_append items [] apart

end Value
end DotScript
