import DotScript.Proofs.Number.Order
import DotScript.Proofs.Value.Hereditary
import Mathlib.Data.List.Forall2

/-!
# Laws of the equality of values

Two sets are equal if they are of the same length and each item of the first one equals an item of
the second one.  This turns around where equality is transitive among the items: then no two items
of the first set share a partner, and none of the second set is left over.  So symmetry for sets
needs symmetry and transitivity for their items, and `IsLawful` carries both through the induction.

Among values without doubles equality is an equivalence, whatever the order of the items of sets.
With doubles the sides can matter, but only where one double in the sets equals two integers in
them.
-/

namespace DotScript
namespace Value

/-! ## How values are equal -/

/-- How two values can be equal. -/
inductive Agrees : Value → Value → Prop
  | none : Agrees .none .none
  | string (text : String) : Agrees (.string text) (.string text)
  | list {items others : List Value} (equal : looseEqItems items others = true) :
      Agrees (.list items) (.list others)
  | set {items others : List Value} (size : items.length = others.length)
      (included : ∀ item ∈ items, ∃ other ∈ others, item.looseEq other = true) :
      Agrees (.set items) (.set others)
  | function {functions others : FunctionSet} (same : functions.sameDeclarations others = true) :
      Agrees (.function functions) (.function others)
  | number {value other : Value} {a b : Number} (left : value.number? = some a)
      (right : other.number? = some b) (equal : a.compare? b = some .eq) : Agrees value other

theorem includedIn_iff (items others : List Value) :
    includedIn items others = true ↔
      ∀ item ∈ items, ∃ other ∈ others, item.looseEq other = true := by
  induction items with
  | nil => simp [includedIn]
  | cons item rest ih => simp [includedIn, ih]

theorem numericEq_iff (left right : Value) :
    numericEq left right = true ↔
      ∃ a b, left.number? = some a ∧ right.number? = some b ∧ a.compare? b = some .eq := by
  rw [numericEq]
  cases left.number? with
  | none => simp
  | some a =>
      cases right.number? with
      | none => simp
      | some b => simp

/-- Two values are equal if and only if they agree. -/
theorem looseEq_iff_agrees (left right : Value) :
    left.looseEq right = true ↔ left.Agrees right := by
  constructor
  · intro equal
    rw [looseEq.eq_def] at equal
    split at equal
    · exact .none
    · rename_i a b
      obtain rfl : a = b := by simpa using equal
      exact .string a
    · exact .list equal
    · rename_i items others
      rw [Bool.and_eq_true, beq_iff_eq, includedIn_iff] at equal
      exact .set equal.1 equal.2
    · exact .function equal
    · obtain ⟨a, b, left_number, right_number, same⟩ := (numericEq_iff _ _).1 equal
      exact .number left_number right_number same
  · intro agrees
    cases agrees with
    | none => rfl
    | string text => simp [looseEq]
    | list equal => exact equal
    | set size included =>
        rw [looseEq, Bool.and_eq_true, beq_iff_eq, includedIn_iff]
        exact ⟨size, included⟩
    | function same => exact same
    | number left_number right_number equal =>
        rw [looseEq.eq_def]
        split
        · cases left_number
        · cases left_number
        · cases left_number
        · cases left_number
        · cases left_number
        · exact (numericEq_iff _ _).2 ⟨_, _, left_number, right_number, equal⟩

/-- Equality with a value without items can be turned around. -/
theorem looseEq_symm_of_flat {value other : Value} (no_list : ∀ items, value ≠ .list items)
    (no_set : ∀ items, value ≠ .set items) (equal : value.looseEq other = true) :
    other.looseEq value = true := by
  rw [looseEq_iff_agrees] at equal ⊢
  cases equal with
  | none => exact .none
  | string text => exact .string text
  | list equal => exact (no_list _ rfl).elim
  | set size included => exact (no_set _ rfl).elim
  | function same => exact .function (BEq.symm same)
  | number left right equal => exact .number right left (Number.compare?_eq_comm equal)

theorem looseEqItems_symm {items others : List Value}
    (symm : ∀ item ∈ items, ∀ other ∈ others, item.looseEq other = true → other.looseEq item = true)
    (equal : looseEqItems items others = true) : looseEqItems others items = true := by
  induction items generalizing others with
  | nil =>
      cases others with
      | nil => rfl
      | cons other others => cases equal
  | cons item items ih =>
      cases others with
      | nil => cases equal
      | cons other others =>
          rw [looseEqItems, Bool.and_eq_true] at equal ⊢
          refine ⟨symm item List.mem_cons_self other List.mem_cons_self equal.1, ih ?_ equal.2⟩
          intro item inside other also_inside
          exact symm item (List.mem_cons_of_mem _ inside) other (List.mem_cons_of_mem _ also_inside)

theorem looseEqItems_trans {items middle others : List Value}
    (trans : ∀ item ∈ items, ∀ between ∈ middle, ∀ other ∈ others,
      item.looseEq between = true → between.looseEq other = true → item.looseEq other = true)
    (first : looseEqItems items middle = true) (second : looseEqItems middle others = true) :
    looseEqItems items others = true := by
  induction items generalizing middle others with
  | nil =>
      cases middle with
      | nil => exact second
      | cons between middle => cases first
  | cons item items ih =>
      cases middle with
      | nil => cases first
      | cons between middle =>
          cases others with
          | nil => cases second
          | cons other others =>
              rw [looseEqItems, Bool.and_eq_true] at first second ⊢
              refine ⟨trans item List.mem_cons_self between List.mem_cons_self other
                List.mem_cons_self first.1 second.1, ih ?_ first.2 second.2⟩
              intro item inside between in_middle other in_others
              exact trans item (List.mem_cons_of_mem _ inside) between
                (List.mem_cons_of_mem _ in_middle) other (List.mem_cons_of_mem _ in_others)

/-- No two items of a set equal the same value, if they would then equal each other. -/
theorem apart_of_distinct {items others : List Value}
    (distinct : items.Pairwise fun earlier later => earlier.looseEq later = false)
    (meet : ∀ earlier ∈ items, ∀ later ∈ items, ∀ other ∈ others,
      earlier.looseEq other = true → later.looseEq other = true → earlier.looseEq later = true) :
    items.Pairwise fun earlier later =>
      ∀ other ∈ others, earlier.looseEq other = true → ¬ later.looseEq other = true := by
  refine distinct.imp_of_mem fun {earlier later} earlier_in later_in different => ?_
  intro other member equal also
  rw [meet earlier earlier_in later later_in other member equal also] at different
  cases different

/-- Items with partners of which no two have the same, and no fewer of them than partners, leave no
partner without an item. -/
theorem exists_partner_of_length_le {α β : Type} {partner : α → β → Prop} {items : List α}
    {others : List β}
    (apart : items.Pairwise fun earlier later =>
      ∀ other ∈ others, partner earlier other → ¬ partner later other)
    (total : ∀ item ∈ items, ∃ other ∈ others, partner item other)
    (few : others.length ≤ items.length) :
    ∀ other ∈ others, ∃ item ∈ items, partner item other := by
  induction items generalizing others with
  | nil =>
      rw [List.length_eq_zero_iff.1 (Nat.le_zero.1 few)]
      nofun
  | cons item rest ih =>
      obtain ⟨image, inside, matched⟩ := total item List.mem_cons_self
      obtain ⟨front, back, rfl⟩ := List.append_of_mem inside
      obtain ⟨first_apart, rest_apart⟩ := List.pairwise_cons.1 apart
      -- The other items find their partners among the rest.
      have covered : ∀ other ∈ front ++ back, ∃ item ∈ rest, partner item other := by
        apply ih
        · exact rest_apart.imp fun separate other member => separate other (by grind)
        · intro later member
          obtain ⟨other, found, related⟩ := total later (List.mem_cons_of_mem item member)
          have different : other ≠ image := by
            rintro rfl
            exact first_apart later member other found matched related
          exact ⟨other, by grind, related⟩
        · simp only [List.length_append, List.length_cons] at few ⊢
          omega
      intro other member
      by_cases same : other = image
      · exact ⟨item, List.mem_cons_self, same ▸ matched⟩
      · obtain ⟨later, found, related⟩ := covered other (by grind)
        exact ⟨later, List.mem_cons_of_mem item found, related⟩

/-! ## Laws of equality -/

/-- Numbers among which equality is transitive. -/
def AreCoherent (numbers : Number → Prop) : Prop :=
  ∀ a b c, numbers a → numbers b → numbers c →
    a.compare? b = some .eq → b.compare? c = some .eq → a.compare? c = some .eq

/-- A number is one of the given ones, and a set holds no item twice. -/
def IsOver (numbers : Number → Prop) (value : Value) : Prop :=
  (∀ number, value.number? = some number → numbers number) ∧ value.HasDistinctItems

/-- Equality with a value can be turned around and goes on to the next value. -/
structure IsLawful (numbers : Number → Prop) (value : Value) : Prop where
  symm : ∀ {other : Value}, other.Every (IsOver numbers) →
    value.looseEq other = true → other.looseEq value = true
  trans : ∀ {middle other : Value}, middle.Every (IsOver numbers) → other.Every (IsOver numbers) →
    value.looseEq middle = true → middle.looseEq other = true → value.looseEq other = true

section Laws

variable {numbers : Number → Prop}

/-- Values without items are lawful. -/
theorem isLawful_of_flat (coherent : AreCoherent numbers) {value : Value}
    (is_over : value.Every (IsOver numbers)) (no_list : ∀ items, value ≠ .list items)
    (no_set : ∀ items, value ≠ .set items) : IsLawful numbers value := by
  constructor
  · intro other _ equal
    exact looseEq_symm_of_flat no_list no_set equal
  · intro middle other middle_over other_over first second
    rw [looseEq_iff_agrees] at first second ⊢
    cases first with
    | none => exact second
    | string text => exact second
    | list equal => exact (no_list _ rfl).elim
    | set size included => exact (no_set _ rfl).elim
    | function same =>
        cases second with
        | function also => exact .function (BEq.trans same also)
        | number left => cases left
    | number left right equal =>
        cases second with
        | number middle_left other_right also =>
            obtain rfl := Option.some.inj (right.symm.trans middle_left)
            have meets := coherent _ _ _ (is_over.here.1 _ left) (middle_over.here.1 _ right)
              (other_over.here.1 _ other_right)
            exact .number left other_right (meets equal also)
        | _ => cases right

theorem isLawful_list {items : List Value} (lawful : ∀ item ∈ items, IsLawful numbers item) :
    IsLawful numbers (.list items) := by
  constructor
  · intro other other_over equal
    rw [looseEq_iff_agrees] at equal ⊢
    cases equal with
    | number left => cases left
    | list equal =>
        have others_over := ((every_list _).1 other_over).2
        exact .list (looseEqItems_symm (fun item inside other member =>
          (lawful item inside).symm (others_over other member)) equal)
  · intro middle other middle_over other_over first second
    rw [looseEq_iff_agrees] at first second ⊢
    cases first with
    | number left => cases left
    | list equal =>
        cases second with
        | number left => cases left
        | list also =>
            have between_over := ((every_list _).1 middle_over).2
            have others_over := ((every_list _).1 other_over).2
            refine .list (looseEqItems_trans ?_ equal also)
            intro item inside between in_middle other in_others
            exact (lawful item inside).trans (between_over between in_middle)
              (others_over other in_others)

/-- Sets are compared one way only, but a set without an item twice that is as long as another one
and lies in it is all of it. -/
theorem isLawful_set {items : List Value} (is_over : (Value.set items).Every (IsOver numbers))
    (lawful : ∀ item ∈ items, IsLawful numbers item) : IsLawful numbers (.set items) := by
  obtain ⟨⟨_, distinct⟩, items_over⟩ := (every_set items).1 is_over
  constructor
  · intro other other_over equal
    rw [looseEq_iff_agrees] at equal ⊢
    cases equal with
    | number left => cases left
    | @set _ others size included =>
        have others_over := ((every_set others).1 other_over).2
        have apart := apart_of_distinct distinct fun earlier earlier_in later later_in other
            (member : other ∈ others) equal also =>
          (lawful earlier earlier_in).trans (others_over other member) (items_over later later_in)
            equal ((lawful later later_in).symm (others_over other member) also)
        refine .set size.symm fun other member => ?_
        obtain ⟨item, inside, equal⟩ :=
          exists_partner_of_length_le apart included (Nat.le_of_eq size.symm) other member
        exact ⟨item, inside, (lawful item inside).symm (others_over other member) equal⟩
  · intro middle other middle_over other_over first second
    rw [looseEq_iff_agrees] at first second ⊢
    cases first with
    | number left => cases left
    | set size included =>
        cases second with
        | number left => cases left
        | set also_size also_included =>
            refine .set (size.trans also_size) fun item inside => ?_
            obtain ⟨between, in_middle, equal⟩ := included item inside
            obtain ⟨other, in_others, also⟩ := also_included between in_middle
            exact ⟨other, in_others, (lawful item inside).trans
              (((every_set _).1 middle_over).2 between in_middle)
              (((every_set _).1 other_over).2 other in_others) equal also⟩

/-- Equality is symmetric and transitive among values over coherent numbers. -/
theorem isLawful_of_coherent (coherent : AreCoherent numbers) {value : Value}
    (is_over : value.Every (IsOver numbers)) : IsLawful numbers value := by
  induction value using Value.induction with
  | list items ih =>
      have inside := ((every_list items).1 is_over).2
      exact isLawful_list fun item member => ih item member (inside item member)
  | set items ih =>
      have inside := ((every_set items).1 is_over).2
      exact isLawful_set is_over fun item member => ih item member (inside item member)
  | _ => exact isLawful_of_flat coherent is_over nofun nofun

end Laws

/-! ## Equality as an equivalence -/

/-- No double, and no set with an item twice. -/
def IsExact (value : Value) : Prop :=
  value.kind ≠ .float ∧ value.HasDistinctItems

/-- The values with no double and no set with an item twice at any depth. -/
def ExactValue : Type :=
  { value : Value // value.Every IsExact }

/-- Two values that differ at most in the order of the items of sets, at any depth. -/
inductive Reorders : Value → Value → Prop
  | refl (value : Value) : Reorders value value
  | list {items others : List Value} (each : List.Forall₂ Reorders items others) :
      Reorders (.list items) (.list others)
  | set {items others shuffled : List Value} (each : List.Forall₂ Reorders items others)
      (order : others.Perm shuffled) : Reorders (.set items) (.set shuffled)

theorem areCoherent_integers : AreCoherent fun number => ∃ value, number = .int value := by
  rintro a b c _ ⟨value, is_int⟩ _ first second
  refine Number.compare?_eq_trans (fun m n x _ is_float _ => ?_) first second
  rw [is_int] at is_float
  cases is_float

theorem exists_int_of_number? {value : Value} {number : Number} (no_double : value.kind ≠ .float)
    (is_number : value.number? = some number) : ∃ integer, number = .int integer := by
  cases value with
  | bool value => exact ⟨_, (Option.some.inj is_number).symm⟩
  | int value => exact ⟨_, (Option.some.inj is_number).symm⟩
  | float value => exact (no_double rfl).elim
  | _ => cases is_number

theorem IsExact.isOver {value : Value} (is_exact : value.IsExact) :
    value.IsOver fun number => ∃ integer, number = .int integer :=
  ⟨fun _ is_number => exists_int_of_number? is_exact.1 is_number, is_exact.2⟩

namespace ExactValue

theorem isOver (value : ExactValue) :
    value.1.Every (IsOver fun number => ∃ integer, number = .int integer) :=
  value.2.mono fun _ => IsExact.isOver

theorem floatFree (value : ExactValue) : value.1.FloatFree :=
  value.2.mono fun _ is_exact => is_exact.1

theorem looseEq_equivalence :
    Equivalence fun left right : ExactValue => left.1.looseEq right.1 = true where
  refl value := looseEq_self value.floatFree
  symm {left right} := (isLawful_of_coherent areCoherent_integers left.isOver).symm right.isOver
  trans {left middle right} :=
    (isLawful_of_coherent areCoherent_integers left.isOver).trans middle.isOver right.isOver

end ExactValue

theorem forall₂_equal {items others : List Value}
    (equal : ∀ item ∈ items, ∀ {other}, item.Reorders other → item.looseEq other = true)
    (each : List.Forall₂ Reorders items others) :
    List.Forall₂ (fun item other => item.looseEq other = true) items others := by
  have both := (List.forall₂_and_left _ _).2 ⟨equal, each⟩
  exact both.imp fun item other ⟨equals, reorders⟩ => equals reorders

theorem looseEqItems_of_forall₂ {items others : List Value}
    (each : List.Forall₂ (fun item other => item.looseEq other = true) items others) :
    looseEqItems items others = true := by
  induction each with
  | nil => rfl
  | cons first _ ih => rw [looseEqItems, first, ih]; rfl

theorem exists_equal_of_forall₂ {items others : List Value}
    (each : List.Forall₂ (fun item other => item.looseEq other = true) items others) :
    ∀ item ∈ items, ∃ other ∈ others, item.looseEq other = true := by
  induction each with
  | nil => nofun
  | cons first _ ih => grind

/-- The order of the items of sets does not matter to equality. -/
theorem Reorders.looseEq {value other : Value} (reorders : value.Reorders other)
    (no_double : value.FloatFree) : value.looseEq other = true := by
  induction value using Value.induction generalizing other with
  | list items ih =>
      have inside := no_double.of_mem_list
      cases reorders with
      | refl => exact looseEq_self no_double
      | list each =>
          have equal := forall₂_equal
            (fun item member _ reordered => ih item member reordered (inside item member)) each
          exact looseEqItems_of_forall₂ equal
  | set items ih =>
      have inside := no_double.of_mem_set
      cases reorders with
      | refl => exact looseEq_self no_double
      | set each order =>
          have equal := forall₂_equal
            (fun item member _ reordered => ih item member reordered (inside item member)) each
          rw [looseEq_iff_agrees]
          refine .set (each.length_eq.trans order.length_eq) fun item member => ?_
          obtain ⟨other, found, same⟩ := exists_equal_of_forall₂ equal item member
          exact ⟨other, order.mem_iff.1 found, same⟩
  | _ =>
      cases reorders
      exact looseEq_self no_double

/-- Among values without doubles whose sets hold no item twice, equality is reflexive, symmetric and
transitive, although sets are compared by their lengths and one way only; and values that differ in
the order of the items of sets, at any depth, are equal to the same values. -/
theorem equality_is_an_equivalence :
    (Equivalence fun left right : ExactValue => left.1.looseEq right.1 = true) ∧
    ∀ left right shuffled shuffled' : ExactValue,
      left.1.Reorders shuffled.1 → right.1.Reorders shuffled'.1 →
      left.1.looseEq right.1 = shuffled.1.looseEq shuffled'.1 := by
  have equivalence := ExactValue.looseEq_equivalence
  refine ⟨equivalence, fun left right shuffled shuffled' left_order right_order => ?_⟩
  have left_equal := left_order.looseEq left.floatFree
  have right_equal := right_order.looseEq right.floatFree
  rw [Bool.eq_iff_iff]
  constructor
  · intro equal
    have back : shuffled.1.looseEq left.1 = true := equivalence.symm left_equal
    exact equivalence.trans (equivalence.trans back equal) right_equal
  · intro equal
    have back : shuffled'.1.looseEq right.1 = true := equivalence.symm right_equal
    exact equivalence.trans (equivalence.trans left_equal equal) back

/-- The items of sets in lists and in sets may stand in any order. -/
theorem nested_sets_are_equal_in_any_order :
    let first : Value := .list [.set [.set [.int 1, .int 2], .int 3]]
    let second : Value := .list [.set [.int 3, .set [.int 2, .int 1]]]
    first.Every IsExact ∧ second.Every IsExact ∧ first.Reorders second ∧
      second.looseEq first = true := by
  intro first second
  have first_exact : first.Every IsExact := by
    simp only [first, Every, EveryItem, IsExact, HasDistinctItems, kind]
    decide
  have second_exact : second.Every IsExact := by
    simp only [second, Every, EveryItem, IsExact, HasDistinctItems, kind]
    decide
  have inner : (Value.set [.int 1, .int 2]).Reorders (.set [.int 2, .int 1]) :=
    .set (.cons (.refl _) (.cons (.refl _) .nil)) (.swap ..)
  have outer : (Value.set [.set [.int 1, .int 2], .int 3]).Reorders
      (.set [.int 3, .set [.int 2, .int 1]]) :=
    .set (.cons inner (.cons (.refl _) .nil)) (.swap ..)
  have reorders : first.Reorders second := .list (.cons outer .nil)
  obtain ⟨equivalence, unmoved⟩ := equality_is_an_equivalence
  have equal := unmoved ⟨first, first_exact⟩ ⟨first, first_exact⟩ ⟨second, second_exact⟩
    ⟨first, first_exact⟩ reorders (.refl first)
  exact ⟨first_exact, second_exact, reorders,
    equal.symm.trans (equivalence.refl ⟨first, first_exact⟩)⟩

/-! ## Doubles that equal two integers -/

mutual

/-- The numbers in a value, at any depth. -/
def numbers : Value → List Number
  | .list items | .set items => itemNumbers items
  | value => value.number?.toList

/-- The numbers in some values, at any depth. -/
def itemNumbers : List Value → List Number
  | [] => []
  | item :: rest => item.numbers ++ itemNumbers rest

end

mutual

/-- The numbers in the sets in a value, at any depth. -/
def setNumbers : Value → List Number
  | .list items => itemSetNumbers items
  | .set items => itemNumbers items
  | _ => []

/-- The numbers in the sets in some values, at any depth. -/
def itemSetNumbers : List Value → List Number
  | [] => []
  | item :: rest => item.setNumbers ++ itemSetNumbers rest

end

/-- No double among the numbers equals two different integers among them. -/
def AreUnambiguous (numbers : List Number) : Prop :=
  ∀ x m n, .float x ∈ numbers → .int m ∈ numbers → .int n ∈ numbers →
    (Number.int m).compare? (.float x) = some .eq →
    (Number.int n).compare? (.float x) = some .eq → m = n

theorem mem_itemNumbers {number : Number} {items : List Value} :
    number ∈ itemNumbers items ↔ ∃ item ∈ items, number ∈ item.numbers := by
  induction items with
  | nil => simp [itemNumbers]
  | cons item rest ih => simp [itemNumbers, ih]

theorem mem_itemSetNumbers {number : Number} {items : List Value} :
    number ∈ itemSetNumbers items ↔ ∃ item ∈ items, number ∈ item.setNumbers := by
  induction items with
  | nil => simp [itemSetNumbers]
  | cons item rest ih => simp [itemSetNumbers, ih]

theorem AreUnambiguous.areCoherent {numbers : List Number} (unambiguous : AreUnambiguous numbers) :
    AreCoherent (· ∈ numbers) := by
  intro a b c a_in b_in c_in first second
  refine Number.compare?_eq_trans ?_ first second
  rintro m n x rfl rfl rfl
  exact unambiguous x m n b_in a_in c_in first (Number.compare?_eq_comm second)

theorem isOver_of_no_number (allowed : Number → Prop) {value : Value}
    (no_number : value.number? = Option.none) (distinct : value.HasDistinctItems) :
    value.IsOver allowed := by
  refine ⟨fun number is_number => ?_, distinct⟩
  rw [no_number] at is_number
  cases is_number

/-- A value is over the numbers in it. -/
theorem every_isOver {allowed : Number → Prop} {value : Value}
    (distinct : value.Every HasDistinctItems) (inside : ∀ number ∈ value.numbers, allowed number) :
    value.Every (IsOver allowed) := by
  induction value using Value.induction with
  | list items ih =>
      obtain ⟨here, items_distinct⟩ := (every_list items).1 distinct
      refine (every_list items).2 ⟨isOver_of_no_number allowed rfl here, fun item member => ?_⟩
      refine ih item member (items_distinct item member) fun number found => ?_
      exact inside number (mem_itemNumbers.2 ⟨item, member, found⟩)
  | set items ih =>
      obtain ⟨here, items_distinct⟩ := (every_set items).1 distinct
      refine (every_set items).2 ⟨isOver_of_no_number allowed rfl here, fun item member => ?_⟩
      refine ih item member (items_distinct item member) fun number found => ?_
      exact inside number (mem_itemNumbers.2 ⟨item, member, found⟩)
  | _ =>
      refine ⟨fun number is_number => inside number ?_, distinct⟩
      simp [numbers, is_number]

/-- Equality can be turned around if it is transitive among the numbers in sets. -/
theorem looseEq_symm_of_coherent {allowed : Number → Prop} (coherent : AreCoherent allowed)
    {left right : Value} (left_distinct : left.Every HasDistinctItems)
    (right_distinct : right.Every HasDistinctItems)
    (left_inside : ∀ number ∈ left.setNumbers, allowed number)
    (right_inside : ∀ number ∈ right.setNumbers, allowed number)
    (equal : left.looseEq right = true) : right.looseEq left = true := by
  induction left using Value.induction generalizing right with
  | list items ih =>
      rw [looseEq_iff_agrees] at equal ⊢
      cases equal with
      | number is_number => cases is_number
      | @list _ others equal =>
          have items_distinct := ((every_list items).1 left_distinct).2
          have others_distinct := ((every_list others).1 right_distinct).2
          refine .list (looseEqItems_symm (fun item inside other also_inside => ?_) equal)
          apply ih item inside (items_distinct item inside) (others_distinct other also_inside)
          · intro number found
            exact left_inside number (mem_itemSetNumbers.2 ⟨item, inside, found⟩)
          · intro number found
            exact right_inside number (mem_itemSetNumbers.2 ⟨other, also_inside, found⟩)
  | set items =>
      have lawful := isLawful_of_coherent coherent (every_isOver left_distinct left_inside)
      cases (looseEq_iff_agrees _ _).1 equal with
      | number is_number => cases is_number
      | set => exact lawful.symm (every_isOver right_distinct right_inside) equal
  | _ => exact looseEq_symm_of_flat nofun nofun equal

/-- Equality does not depend on the order of its operands unless a double in their sets equals two
different integers in their sets. -/
theorem operand_order_matters_at_ambiguous_doubles_only {left right : Value}
    (left_distinct : left.Every HasDistinctItems) (right_distinct : right.Every HasDistinctItems)
    (unambiguous : AreUnambiguous (left.setNumbers ++ right.setNumbers)) :
    left.looseEq right = right.looseEq left := by
  have coherent := unambiguous.areCoherent
  have left_inside : ∀ number ∈ left.setNumbers, number ∈ left.setNumbers ++ right.setNumbers :=
    fun _ found => List.mem_append_left _ found
  have right_inside : ∀ number ∈ right.setNumbers, number ∈ left.setNumbers ++ right.setNumbers :=
    fun _ found => List.mem_append_right _ found
  rw [Bool.eq_iff_iff]
  constructor
  · exact looseEq_symm_of_coherent coherent left_distinct right_distinct left_inside right_inside
  · exact looseEq_symm_of_coherent coherent right_distinct left_distinct right_inside left_inside

/-- Truth values, integers and doubles meet in these sets. -/
theorem sets_of_half_and_one_are_equal_both_ways :
    let left : Value := .list [.float 0.5, .set [.int 1, .float 2.5]]
    let right : Value := .list [.float 0.5, .set [.float 2.5, .bool true]]
    left.Every HasDistinctItems ∧ right.Every HasDistinctItems ∧
      AreUnambiguous (left.setNumbers ++ right.setNumbers) ∧ left.looseEq right = true ∧
      left.looseEq right = right.looseEq left := by
  intro left right
  have left_distinct : left.Every HasDistinctItems := by
    simp only [left, Every, EveryItem, HasDistinctItems]
    decide
  have right_distinct : right.Every HasDistinctItems := by
    simp only [right, Every, EveryItem, HasDistinctItems]
    decide
  have unambiguous : AreUnambiguous (left.setNumbers ++ right.setNumbers) := by
    intro x m n _ m_inside n_inside _ _
    simp [left, right, setNumbers, itemSetNumbers, itemNumbers, numbers, number?]
      at m_inside n_inside
    rw [m_inside, n_inside]
  exact ⟨left_distinct, right_distinct, unambiguous, by decide,
    operand_order_matters_at_ambiguous_doubles_only left_distinct right_distinct unambiguous⟩

/-- A double that equals two integers makes a set with it include both of them, in one order of the
operands only. -/
theorem looseEq_of_ambiguous {x : Float} {m n : Integer} (different : m ≠ n)
    (first : (Number.int m).compare? (.float x) = some .eq)
    (second : (Number.int n).compare? (.float x) = some .eq) :
    (Value.set [.int m, .int n]).Every HasDistinctItems ∧
      (Value.set [.float x, .none]).Every HasDistinctItems ∧
      (Value.set [.int m, .int n]).looseEq (.set [.float x, .none]) = true ∧
      (Value.set [.float x, .none]).looseEq (.set [.int m, .int n]) = false := by
  have apart : (Value.int m).looseEq (.int n) = false := by
    rw [Bool.eq_false_iff, ne_eq, looseEq_iff_agrees]
    rintro ⟨⟩
    rename_i same left right
    cases left
    cases right
    exact different (Integer.eq_of_order (Option.some.inj same))
  have first_equal : (Value.int m).looseEq (.float x) = true :=
    (looseEq_iff_agrees _ _).2 (.number rfl rfl first)
  have second_equal : (Value.int n).looseEq (.float x) = true :=
    (looseEq_iff_agrees _ _).2 (.number rfl rfl second)
  have none_apart : (Value.float x).looseEq .none = false := rfl
  refine ⟨?_, ?_, ?_, ?_⟩
  · simp [Every, EveryItem, HasDistinctItems, apart]
  · simp [Every, EveryItem, HasDistinctItems, none_apart]
  · exact (looseEq_iff_agrees _ _).2 (.set rfl (by simp [first_equal, second_equal]))
  · rw [Bool.eq_false_iff, ne_eq, looseEq_iff_agrees]
    intro agrees
    cases agrees with
    | number is_number => cases is_number
    | set _ included =>
        obtain ⟨integer, inside, equal⟩ := included .none (by simp)
        rcases List.mem_pair.1 inside with rfl | rfl
        · cases equal
        · cases equal

theorem equality_depends_on_operand_order :
    let integers : Value := .set [.int 9007199254740992, .int 9007199254740993]
    let others : Value := .set [.float 9007199254740992.0, .none]
    integers.Every HasDistinctItems ∧ others.Every HasDistinctItems ∧
      integers.looseEq others = true ∧ others.looseEq integers = false :=
  looseEq_of_ambiguous (by decide) (by decide) (by decide)

end Value
end DotScript
