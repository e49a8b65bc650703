import DotScript.Builtin.Call
import DotScript.Method.Call
import DotScript.Proofs.Value.Hereditary

/-!
# Functions among values

The operators, the built-ins and the methods know a function by its name and by the declarations it
comes from.  Whatever else is changed in the functions among their operands is changed in the
result and nowhere else: `Value.mapFunctions` commutes with all of them.
-/

namespace DotScript

/-- What is done to functions leaves their names and declarations as they are. -/
class FunctionSet.Faithful (change : FunctionSet → FunctionSet) : Prop where
  name : ∀ functions, (change functions).name = functions.name
  labels : ∀ functions, (change functions).overloads.map (·.declaration.label) =
    functions.overloads.map (·.declaration.label)

namespace Value

mutual

/-- Changes the functions among a value and the values in it. -/
def mapFunctions (change : FunctionSet → FunctionSet) : Value → Value
  | .none => .none
  | .bool value => .bool value
  | .int value => .int value
  | .float value => .float value
  | .string value => .string value
  | .list items => .list (mapItems change items)
  | .set items => .set (mapItems change items)
  | .function functions => .function (change functions)

/-- Changes the functions among some values. -/
def mapItems (change : FunctionSet → FunctionSet) : List Value → List Value
  | [] => []
  | item :: rest => item.mapFunctions change :: mapItems change rest

end

section Plain

variable (change : FunctionSet → FunctionSet)

theorem mapItems_eq_map (items : List Value) :
    mapItems change items = items.map (mapFunctions change) := by
  induction items with
  | nil => rfl
  | cons item rest ih => rw [mapItems, ih, List.map_cons]

@[simp] theorem mapFunctions_none : mapFunctions change .none = .none := rfl

@[simp] theorem mapFunctions_bool (value : Bool) :
    mapFunctions change (.bool value) = .bool value := rfl

@[simp] theorem mapFunctions_int (value : Integer) :
    mapFunctions change (.int value) = .int value := rfl

@[simp] theorem mapFunctions_float (value : Float) :
    mapFunctions change (.float value) = .float value := rfl

@[simp] theorem mapFunctions_string (value : String) :
    mapFunctions change (.string value) = .string value := rfl

@[simp] theorem mapFunctions_list (items : List Value) :
    mapFunctions change (.list items) = .list (items.map (mapFunctions change)) := by
  rw [mapFunctions, mapItems_eq_map]

@[simp] theorem mapFunctions_set (items : List Value) :
    mapFunctions change (.set items) = .set (items.map (mapFunctions change)) := by
  rw [mapFunctions, mapItems_eq_map]

@[simp] theorem mapFunctions_function (functions : FunctionSet) :
    mapFunctions change (.function functions) = .function (change functions) := rfl

@[simp] theorem mapFunctions_flag (holds : Bool) : mapFunctions change (flag holds) = flag holds :=
  rfl

@[simp] theorem mapFunctions_ofChars (chars : List Char) :
    mapFunctions change (ofChars chars) = ofChars chars := rfl

@[simp] theorem mapFunctions_toValue (number : Number) :
    mapFunctions change number.toValue = number.toValue := by
  cases number <;> rfl

@[simp] theorem kind_mapFunctions (value : Value) : (value.mapFunctions change).kind = value.kind := by
  cases value <;> rfl

@[simp] theorem isNone_mapFunctions (value : Value) :
    (value.mapFunctions change).isNone = value.isNone := by
  cases value <;> rfl

@[simp] theorem number?_mapFunctions (value : Value) :
    (value.mapFunctions change).number? = value.number? := by
  cases value <;> rfl

@[simp] theorem truthy_mapFunctions (value : Value) :
    (value.mapFunctions change).truthy = value.truthy := by
  cases value <;> simp [truthy]

@[simp] theorem elements?_mapFunctions (value : Value) :
    (value.mapFunctions change).elements? = value.elements?.map (List.map (mapFunctions change)) := by
  cases value <;> simp [elements?]

end Plain

/-! ## Texts, equality and order -/

section Faithful

variable (change : FunctionSet → FunctionSet) [faithful : FunctionSet.Faithful change]

@[simp] theorem render_mapFunctions (quoted : Bool) (value : Value) :
    (value.mapFunctions change).render quoted = value.render quoted := by
  have items_eq {items : List Value}
      (known : ∀ item ∈ items, (item.mapFunctions change).render true = item.render true) :
      renderItems (items.map (mapFunctions change)) = renderItems items := by
    induction items with
    | nil => rfl
    | cons item rest ih =>
        obtain ⟨first, later⟩ := List.forall_mem_cons.1 known
        rw [List.map_cons, renderItems, renderItems, first, ih later]
  induction value using Value.induction generalizing quoted with
  | list items ih => simp only [mapFunctions_list, render, items_eq fun item member => ih item member true]
  | set items ih => simp only [mapFunctions_set, render, items_eq fun item member => ih item member true]
  | function functions => simp only [mapFunctions_function, render, faithful.name]
  | _ => rfl

@[simp] theorem display_mapFunctions (value : Value) :
    (value.mapFunctions change).display = value.display :=
  render_mapFunctions change false value

@[simp] theorem repr_mapFunctions (value : Value) : (value.mapFunctions change).repr = value.repr :=
  render_mapFunctions change true value

theorem sameDeclarations_change (left right : FunctionSet) :
    (change left).sameDeclarations (change right) = left.sameDeclarations right := by
  rw [FunctionSet.sameDeclarations, FunctionSet.sameDeclarations, faithful.labels, faithful.labels]

@[simp] theorem looseEq_mapFunctions (left right : Value) :
    (left.mapFunctions change).looseEq (right.mapFunctions change) = left.looseEq right := by
  induction left using Value.induction generalizing right with
  | list items ih =>
      cases right with
      | list others =>
          simp only [mapFunctions_list, looseEq]
          induction items generalizing others with
          | nil => cases others <;> rfl
          | cons item items items_ih =>
              obtain ⟨first, later⟩ := List.forall_mem_cons.1 ih
              cases others with
              | nil => rfl
              | cons other others =>
                  simp only [List.map_cons, looseEqItems, first other, items_ih later others]
      | _ => simp [looseEq, numericEq, number?]
  | set items ih =>
      cases right with
      | set others =>
          simp only [mapFunctions_set, looseEq, List.length_map]
          congr 1
          induction items with
          | nil => rfl
          | cons item items items_ih =>
              obtain ⟨first, later⟩ := List.forall_mem_cons.1 ih
              simp only [List.map_cons, includedIn, List.any_map, Function.comp_def, first,
                items_ih later]
      | _ => simp [looseEq, numericEq, number?]
  | function functions =>
      cases right with
      | function others => exact sameDeclarations_change change functions others
      | _ => simp [looseEq, numericEq, number?]
  | _ => cases right <;> simp [looseEq, numericEq, number?]

@[simp] theorem identical_mapFunctions (left right : Value) :
    (left.mapFunctions change).identical (right.mapFunctions change) = left.identical right := by
  simp [identical]

@[simp] theorem memberOf_mapFunctions (value : Value) (items : List Value) :
    (value.mapFunctions change).memberOf (items.map (mapFunctions change)) = value.memberOf items := by
  simp [memberOf, List.any_map, Function.comp_def]

theorem distinct_map (items : List Value) :
    distinct (items.map (mapFunctions change)) = (distinct items).map (mapFunctions change) := by
  have step (kept : List Value) : (items.map (mapFunctions change)).foldl
      (fun kept item => if memberOf item kept then kept else kept ++ [item])
        (kept.map (mapFunctions change)) =
      (items.foldl (fun kept item => if memberOf item kept then kept else kept ++ [item])
        kept).map (mapFunctions change) := by
    induction items generalizing kept with
    | nil => rfl
    | cons item rest ih =>
        rw [List.map_cons, List.foldl_cons, List.foldl_cons, memberOf_mapFunctions, ← ih]
        split <;> simp
  exact step []

@[simp] theorem mapFunctions_ofSet (items : List Value) :
    mapFunctions change (ofSet items) = ofSet (items.map (mapFunctions change)) := by
  rw [ofSet, ofSet, mapFunctions_set, distinct_map]

omit faithful in
@[simp] theorem compare?_mapFunctions (left right : Value) :
    (left.mapFunctions change).compare? (right.mapFunctions change) = left.compare? right := by
  induction left using Value.induction generalizing right with
  | list items ih =>
      cases right with
      | list others =>
          simp only [mapFunctions_list, compare?]
          induction items generalizing others with
          | nil => cases others <;> rfl
          | cons item items items_ih =>
              obtain ⟨first, later⟩ := List.forall_mem_cons.1 ih
              cases others with
              | nil => rfl
              | cons other others =>
                  simp only [List.map_cons, compareItems?, first other, items_ih later others]
      | _ => simp [compare?, numericOrder?, number?]
  | _ => cases right <;> simp [compare?, numericOrder?, number?]

/-! ## Operators -/

omit faithful in
theorem unsupported_mapFunctions (op : BinaryOp) (left right : Value) :
    unsupported op (left.mapFunctions change) (right.mapFunctions change) =
      unsupported op left right := by
  simp [unsupported]

omit faithful in
theorem arithmetic_mapFunctions (op : BinaryOp) (left right : Value) :
    arithmetic op (left.mapFunctions change) (right.mapFunctions change) =
      (arithmetic op left right).map (mapFunctions change) := by
  simp only [arithmetic, number?_mapFunctions, unsupported_mapFunctions]
  split
  · split
    · rfl
    · cases numberArithmetic op _ _ <;> simp [Except.map]
  · rfl

omit faithful in
theorem add_mapFunctions (left right : Value) :
    add (left.mapFunctions change) (right.mapFunctions change) =
      (add left right).map (mapFunctions change) := by
  have numbers := arithmetic_mapFunctions change .add left right
  cases left with
  | string a => cases right <;> simp [add, number?, unsupported, kind, Except.map, display, render]
  | list a =>
      cases right with
      | list b => simp [add, Except.map]
      | string b => simp [add, number?, unsupported, kind, Except.map]
      | _ => exact numbers
  | _ =>
      cases right with
      | string b => simp [add, number?, unsupported, kind, Except.map, display, render]
      | _ => exact numbers

omit faithful in
theorem repeated_map (items : List Value) (times : Nat) :
    repeated (items.map (mapFunctions change)) times =
      (repeated items times).map (mapFunctions change) := by
  unfold repeated
  rw [List.isEmpty_map]
  split
  · rfl
  · rw [List.map_flatten, List.map_replicate]

omit faithful in
theorem multiply_mapFunctions (left right : Value) :
    multiply (left.mapFunctions change) (right.mapFunctions change) =
      (multiply left right).map (mapFunctions change) := by
  have numbers := arithmetic_mapFunctions change .mul left right
  cases left with
  | string text =>
      cases right with
      | int count =>
          simp only [mapFunctions_string, mapFunctions_int, multiply]
          cases repetitions (.string text) (.int count) false text.utf8ByteSize count <;> rfl
      | _ => exact numbers
  | int count =>
      cases right with
      | string text =>
          simp only [mapFunctions_string, mapFunctions_int, multiply]
          cases repetitions (.int count) (.string text) false text.utf8ByteSize count <;> rfl
      | _ => exact numbers
  | list items =>
      cases right with
      | int count =>
          have same : repetitions (.list (items.map (mapFunctions change))) (.int count) true
              (items.map (mapFunctions change)).length count =
              repetitions (.list items) (.int count) true items.length count := by
            simp [repetitions, kind]
          simp only [mapFunctions_list, mapFunctions_int, multiply, same]
          cases repetitions (.list items) (.int count) true items.length count with
          | error => rfl
          | ok times => simp [Except.map, repeated_map]
      | _ => exact numbers
  | _ => exact numbers

omit faithful in
theorem ordered_mapFunctions (op : BinaryOp) (holds : Ordering → Bool) (left right : Value) :
    ordered op holds (left.mapFunctions change) (right.mapFunctions change) =
      (ordered op holds left right).map (mapFunctions change) := by
  simp only [ordered, compare?_mapFunctions, unsupported_mapFunctions]
  cases left.compare? right <;> rfl

theorem binary_mapFunctions (op : BinaryOp) (left right : Value) :
    binary op (left.mapFunctions change) (right.mapFunctions change) =
      (binary op left right).map (mapFunctions change) := by
  cases op <;>
    simp only [binary, add_mapFunctions, multiply_mapFunctions, arithmetic_mapFunctions,
      ordered_mapFunctions, looseEq_mapFunctions, identical_mapFunctions, truthy_mapFunctions] <;>
    rfl

omit faithful in
theorem unary_mapFunctions (op : UnaryOp) (operand : Value) :
    unary op (operand.mapFunctions change) = (unary op operand).map (mapFunctions change) := by
  cases op with
  | negate =>
      simp only [unary, number?_mapFunctions, kind_mapFunctions]
      split <;> rfl
  | not =>
      simp only [unary, truthy_mapFunctions]
      rfl

/-! ## Sorting and extremes -/

omit faithful

theorem place_map (item : Value) (items : List Value) :
    place (item.mapFunctions change) (items.map (mapFunctions change)) =
      ((place item items).1.map (mapFunctions change), (place item items).2) := by
  induction items with
  | nil => rfl
  | cons other rest ih =>
      simp only [List.map_cons, place, compare?_mapFunctions, kind_mapFunctions, ih]
      split <;> simp

theorem insertionSort_map (function : String) (items : List Value) :
    insertionSort function (items.map (mapFunctions change)) =
      (insertionSort function items).map (List.map (mapFunctions change)) := by
  have step (sorting : Sorting) :
      (items.map (mapFunctions change)).foldl Sorting.insert
          { sorting with descending := sorting.descending.map (mapFunctions change) } =
        { items.foldl Sorting.insert sorting with
          descending := (items.foldl Sorting.insert sorting).descending.map (mapFunctions change) } := by
    induction items generalizing sorting with
    | nil => rfl
    | cons item rest ih =>
        have inserted : Sorting.insert
            { sorting with descending := sorting.descending.map (mapFunctions change) }
            (item.mapFunctions change) =
            { sorting.insert item with
              descending := (sorting.insert item).descending.map (mapFunctions change) } := by
          simp [Sorting.insert, place_map]
        rw [List.map_cons, List.foldl_cons, inserted, ih, List.foldl_cons]
  have whole := step { descending := [], unordered? := Option.none }
  rw [List.map_nil] at whole
  simp only [insertionSort, whole]
  split <;> simp_all [Except.map]

/-- A sorter sees no functions, because it sees nothing but comparisons. -/
theorem arrange_map (sorter : Sorter) (function : String) (items : List Value) :
    arrange sorter function (items.map (mapFunctions change)) =
      (arrange sorter function items).map (List.map (mapFunctions change)) := by
  have item_map (place : Nat) : itemAt (items.map (mapFunctions change)).toArray place =
      (itemAt items.toArray place).mapFunctions change := by
    rw [itemAt, itemAt, Array.getD_eq_getD_getElem?, Array.getD_eq_getD_getElem?,
      List.getElem?_toArray, List.getElem?_toArray, List.getElem?_map,
      ← mapFunctions_none change, Option.getD_map, mapFunctions_none]
  have compare_map : compareAt (items.map (mapFunctions change)).toArray =
      compareAt items.toArray := by
    funext left right
    rw [compareAt, compareAt, item_map, item_map, compare?_mapFunctions]
  simp only [arrange, item_map, compare_map, kind_mapFunctions, List.length_map]
  split <;> simp [Except.map, item_map]

theorem sort_map (sorter : Sorter) (function : String) (items : List Value) :
    sort sorter function (items.map (mapFunctions change)) =
      (sort sorter function items).map (List.map (mapFunctions change)) := by
  rw [sort, sort, List.length_map]
  split
  · rw [insertionSort_map]
    cases insertionSort function items <;> rfl
  · exact arrange_map change sorter function items

theorem extremeFrom_map (function : String) (wanted : Ordering) (best : Value) (items : List Value) :
    extremeFrom function wanted (best.mapFunctions change) (items.map (mapFunctions change)) =
      (extremeFrom function wanted best items).map (mapFunctions change) := by
  induction items generalizing best with
  | nil => rfl
  | cons item rest ih =>
      simp only [List.map_cons, extremeFrom, compare?_mapFunctions, kind_mapFunctions]
      split
      · rw [← ih]
        split <;> rfl
      · rfl

theorem extreme_map (function : String) (wanted : Ordering) (items : List Value) :
    extreme function wanted (items.map (mapFunctions change)) =
      (extreme function wanted items).map (mapFunctions change) := by
  cases items with
  | nil => rfl
  | cons first rest => exact extremeFrom_map change function wanted first rest

/-! ## Arguments -/

@[simp] theorem misfit_mapFunctions (function wanted : String) (value : Value) :
    misfit function wanted (value.mapFunctions change) = misfit function wanted value := by
  simp [misfit]

@[simp] theorem expectString_mapFunctions (function : String) (value : Value) :
    (value.mapFunctions change).expectString function = value.expectString function := by
  cases value <;> simp [expectString, misfit, kind]

@[simp] theorem expectNumber_mapFunctions (function : String) (value : Value) :
    (value.mapFunctions change).expectNumber function = value.expectNumber function := by
  simp [expectNumber]

@[simp] theorem expectItems_mapFunctions (function : String) (value : Value) :
    (value.mapFunctions change).expectItems function =
      (value.expectItems function).map (List.map (mapFunctions change)) := by
  cases value <;> simp [expectItems, misfit, kind, Except.map]

@[simp] theorem expectElements_mapFunctions (function : String) (value : Value) :
    (value.mapFunctions change).expectElements function =
      (value.expectElements function).map (List.map (mapFunctions change)) := by
  simp only [expectElements, elements?_mapFunctions, misfit_mapFunctions]
  cases value.elements? <;> rfl

/-- Two sequences of operations, of which the second one works on changed results. -/
theorem map_bind_map {α β γ δ : Type} {change : α → β} {change' : γ → δ} {first : Except Fault α}
    {next : α → Except Fault γ} {next' : β → Except Fault δ}
    (same : ∀ value, next' (change value) = (next value).map change') :
    (first.map change >>= next') = (first >>= next).map change' := by
  cases first with
  | error fault => rfl
  | ok value => exact same value

/-- The answer to changed arguments is the changed answer. -/
def Respects (answer : Value → Except Fault Value) : Prop :=
  ∀ value, answer (value.mapFunctions change) = (answer value).map (mapFunctions change)

/-- The answer to two changed arguments is the changed answer. -/
def RespectsBoth (answer : Value → Value → Except Fault Value) : Prop :=
  ∀ left right, answer (left.mapFunctions change) (right.mapFunctions change) =
    (answer left right).map (mapFunctions change)

/-! ## Collections -/

theorem length_respects : Respects change length := by
  intro value
  cases value <;> simp [length, Except.map, kind]

theorem toList_respects : Respects change toList := by
  intro value
  simp only [toList, elements?_mapFunctions, kind_mapFunctions]
  cases value.elements? <;> simp [Except.map]

theorem toSet_respects [FunctionSet.Faithful change] : Respects change toSet := by
  intro value
  simp only [toSet, elements?_mapFunctions, kind_mapFunctions]
  cases value.elements? <;> simp [Except.map]

theorem append_respects [FunctionSet.Faithful change] : RespectsBoth change append := by
  intro collection item
  cases collection <;> simp [append, misfit, kind, Except.map]

theorem pop_respects : Respects change pop := by
  intro value
  cases value with
  | list items =>
      simp only [mapFunctions_list, pop, List.getLast?_map]
      cases items.getLast? <;> rfl
  | _ => simp [pop, misfit, kind, Except.map]

theorem sum_respects : RespectsBoth change sum := by
  intro collection start
  have step (items : List Value) : (items.map (mapFunctions change)).foldlM add
      (start.mapFunctions change) = (items.foldlM add start).map (mapFunctions change) := by
    induction items generalizing start with
    | nil => rfl
    | cons item rest ih =>
        rw [List.map_cons, List.foldlM_cons, add_mapFunctions, List.foldlM_cons]
        cases add start item with
        | error fault => rfl
        | ok total => exact ih total
  rw [sum, sum, expectItems_mapFunctions]
  exact map_bind_map step

theorem reversed_respects : Respects change reversed := by
  intro value
  cases value <;> simp [reversed, Except.map, kind]

theorem allTruthy_respects : Respects change allTruthy := by
  intro value
  rw [allTruthy, allTruthy, expectItems_mapFunctions]
  refine map_bind_map fun items => ?_
  simp [List.all_map, Function.comp_def, Except.map, pure, Except.pure]

theorem anyTruthy_respects : Respects change anyTruthy := by
  intro value
  rw [anyTruthy, anyTruthy, expectItems_mapFunctions]
  refine map_bind_map fun items => ?_
  simp [List.any_map, Function.comp_def, Except.map, pure, Except.pure]

theorem rangeList_respects : RespectsBoth change rangeList := by
  intro first last
  rw [rangeList, rangeList, expectNumber_mapFunctions, expectNumber_mapFunctions]
  cases first.expectNumber "range_list" with
  | error fault => rfl
  | ok first =>
      cases last.expectNumber "range_list" with
      | error fault => rfl
      | ok last => cases first <;> cases last <;> simp [bind, Except.bind, pure, Except.pure, Except.map]

theorem enumerate_respects : Respects change enumerate := by
  intro value
  rw [enumerate, enumerate, expectElements_mapFunctions]
  refine map_bind_map fun items => ?_
  simp [List.zipIdx_map, Except.map, pure, Except.pure, Function.comp_def]

theorem zip_respects : RespectsBoth change zip := by
  intro left right
  rw [zip, zip, expectElements_mapFunctions, expectElements_mapFunctions]
  refine map_bind_map fun items => map_bind_map fun others => ?_
  simp [List.zip_map, Except.map, pure, Except.pure, Function.comp_def]

theorem extremeOf_map (function : String) (wanted : Ordering) (values : List Value) :
    extremeOf function wanted (values.map (mapFunctions change)) =
      (extremeOf function wanted values).map (mapFunctions change) := by
  match values with
  | [] => rfl
  | [collection] =>
      rw [List.map_singleton, extremeOf, extremeOf, expectItems_mapFunctions]
      exact map_bind_map fun items => extreme_map change function wanted items
  | first :: second :: rest => exact extreme_map change function wanted (first :: second :: rest)

/-! ## Conversions -/

theorem toInt_respects : Respects change toInt := by
  intro value
  cases value with
  | float number =>
      simp only [mapFunctions_float, toInt]
      split <;> rfl
  | string text =>
      simp only [mapFunctions_string, toInt]
      split <;> rfl
  | _ => simp [toInt, Except.map, kind]

theorem toFloat_respects : Respects change toFloat := by
  intro value
  cases value with
  | string text =>
      simp only [mapFunctions_string, toFloat]
      split <;> rfl
  | _ => simp [toFloat, Except.map, kind, number?]

theorem isInstance_respects : RespectsBoth change isInstance := by
  intro value kind
  rw [isInstance, isInstance, expectString_mapFunctions, kind_mapFunctions]
  cases kind.expectString "isinstance" <;> rfl

theorem absolute_respects : Respects change absolute := by
  intro value
  rw [absolute, absolute, expectNumber_mapFunctions]
  cases value.expectNumber "abs" with
  | error fault => rfl
  | ok number => cases number <;> rfl

theorem rounded_respects [FunctionSet.Faithful change] (function : String) (rounding : Rounding) :
    Respects change (rounded function rounding) := by
  intro value
  rw [rounded, rounded, expectNumber_mapFunctions, display_mapFunctions]
  cases value.expectNumber function with
  | error fault => rfl
  | ok number =>
      cases number with
      | int number => rfl
      | float number =>
          simp only [bind, Except.bind]
          split <;> rfl

end Faithful
end Value

/-! ## Built-ins -/

namespace Builtin

open Value

variable (change : FunctionSet → FunctionSet) (builtin : Builtin) (args : List Value)

theorem unary_map {answer : Value → Except Fault Value} (respects : Respects change answer) :
    builtin.unary (args.map (mapFunctions change)) answer =
      (builtin.unary args answer).map (mapFunctions change) := by
  match args with
  | [] => rfl
  | [value] => exact respects value
  | _ :: _ :: rest => simp [unary, Except.map]

theorem binary_map {answer : Value → Value → Except Fault Value}
    (respects : RespectsBoth change answer) :
    builtin.binary (args.map (mapFunctions change)) answer =
      (builtin.binary args answer).map (mapFunctions change) := by
  match args with
  | [] | [_] => rfl
  | [left, right] => exact respects left right
  | _ :: _ :: _ :: rest => simp [binary, Except.map]

theorem optional_map {absent : Value} (same : absent.mapFunctions change = absent)
    {answer : Value → Except Fault Value} (respects : Respects change answer) :
    builtin.optional (args.map (mapFunctions change)) absent answer =
      (builtin.optional args absent answer).map (mapFunctions change) := by
  match args with
  | [] => simp [optional, same, Except.map]
  | [value] => exact respects value
  | _ :: _ :: rest => simp [optional, Except.map]

theorem withDefault_map {absent : Value} (same : absent.mapFunctions change = absent)
    {answer : Value → Value → Except Fault Value} (respects : RespectsBoth change answer) :
    builtin.withDefault (args.map (mapFunctions change)) absent answer =
      (builtin.withDefault args absent answer).map (mapFunctions change) := by
  match args with
  | [] => rfl
  | [left] =>
      have answered := respects left absent
      rwa [same] at answered
  | [left, right] => exact respects left right
  | _ :: _ :: _ :: rest => simp [withDefault, Except.map]

theorem variadic_map {answer : List Value → Except Fault Value}
    (respects : ∀ values, answer (values.map (mapFunctions change)) =
      (answer values).map (mapFunctions change)) :
    builtin.variadic (args.map (mapFunctions change)) answer =
      (builtin.variadic args answer).map (mapFunctions change) := by
  rw [variadic, variadic, List.isEmpty_map]
  split
  · rfl
  · exact respects args

theorem compute_map [FunctionSet.Faithful change] :
    builtin.compute (args.map (mapFunctions change)) =
      (builtin.compute args).map (mapFunctions change) := by
  have number_respects (function : RealFunction) : Respects change fun value =>
      (value.expectNumber function.name).map fun number => .float (function.apply number.toFloat) := by
    intro value
    simp only [expectNumber_mapFunctions]
    cases value.expectNumber function.name <;> rfl
  have text_respects (text : Value → String)
      (same : ∀ value, text (value.mapFunctions change) = text value) :
      Respects change fun value => .ok (.string (text value)) := by
    intro value
    simp only [same]
    rfl
  have bool_respects : Respects change fun value => .ok (.bool value.truthy) := by
    intro value
    simp only [truthy_mapFunctions]
    rfl
  cases builtin with
  | len => exact unary_map change _ args (length_respects change)
  | list => exact optional_map change _ args rfl (toList_respects change)
  | set => exact optional_map change _ args rfl (toSet_respects change)
  | append => exact binary_map change _ args (append_respects change)
  | pop => exact unary_map change _ args (pop_respects change)
  | sum => exact withDefault_map change _ args rfl (sum_respects change)
  | reversed => exact unary_map change _ args (reversed_respects change)
  | all => exact unary_map change _ args (allTruthy_respects change)
  | any => exact unary_map change _ args (anyTruthy_respects change)
  | rangeList => exact binary_map change _ args (rangeList_respects change)
  | enumerate => exact unary_map change _ args (enumerate_respects change)
  | zip => exact binary_map change _ args (zip_respects change)
  | min => exact variadic_map change _ args (extremeOf_map change "min" .lt)
  | max => exact variadic_map change _ args (extremeOf_map change "max" .gt)
  | str => exact unary_map change _ args (text_respects _ (display_mapFunctions change))
  | int => exact unary_map change _ args (toInt_respects change)
  | float => exact unary_map change _ args (toFloat_respects change)
  | bool => exact unary_map change _ args bool_respects
  | type =>
      exact unary_map change _ args
        (text_respects (fun value => value.kind.name) fun value => by rw [kind_mapFunctions])
  | repr => exact unary_map change _ args (text_respects _ (repr_mapFunctions change))
  | isInstance => exact binary_map change _ args (isInstance_respects change)
  | abs => exact unary_map change _ args (absolute_respects change)
  | ceil => exact unary_map change _ args (rounded_respects change "ceil" .up)
  | floor => exact unary_map change _ args (rounded_respects change "floor" .down)
  | round => exact unary_map change _ args (rounded_respects change "round" .nearest)
  | pow => exact binary_map change _ args (binary_mapFunctions change .pow)
  | real function => exact unary_map change _ args (number_respects function)
  | _ => simp [compute, Except.map]

end Builtin

/-! ## Methods -/

open Value

variable (change : FunctionSet → FunctionSet)

namespace StringMethod

/-- An answer that is made of a text holds no functions. -/
theorem map_bind_pure {α : Type} {first : Except Fault α} {answer : α → Value}
    (same : ∀ value, (answer value).mapFunctions change = answer value) :
    (do return answer (← first) : Except Fault Value).map (mapFunctions change) =
      (do return answer (← first)) := by
  cases first with
  | error fault => rfl
  | ok value => exact congrArg Except.ok (same value)

@[simp] theorem mapFunctions_texts (pieces : List (List Char)) :
    (texts pieces).mapFunctions change = texts pieces := by
  simp [texts, Function.comp_def]

theorem sliceBound_mapFunctions [FunctionSet.Faithful change] (length : Nat) (value : Value) :
    sliceBound length (value.mapFunctions change) = sliceBound length value := by
  simp [sliceBound]

theorem call_map [FunctionSet.Faithful change] (method : StringMethod) (text : List Char)
    (args : List Value) :
    method.call text (args.map (mapFunctions change)) =
      (method.call text args).map (mapFunctions change) := by
  match args with
  | [] => cases method <;> simp [call, Except.map]
  | [value] =>
      cases method with
      | split =>
          simp only [List.map_cons, List.map_nil, call, expectString_mapFunctions]
          cases value.expectString "split" with
          | error fault => rfl
          | ok separator =>
              simp only [bind, Except.bind, splitAt]
              split
              · rfl
              · simp [Except.map]
      | find | count | contains | startsWith | endsWith =>
          simp only [List.map_cons, List.map_nil, call, expectString_mapFunctions]
          exact (map_bind_pure change fun _ => rfl).symm
      | _ => simp [call, Except.map]
  | [first, second] =>
      cases method with
      | replace =>
          simp only [List.map_cons, List.map_nil, call, expectString_mapFunctions]
          cases first.expectString "replace" with
          | error fault => rfl
          | ok needle => exact (map_bind_pure change fun _ => rfl).symm
      | slice =>
          simp only [List.map_cons, List.map_nil, call, sliceBound_mapFunctions]
          cases sliceBound text.length first with
          | error fault => rfl
          | ok start => exact (map_bind_pure change fun _ => rfl).symm
      | _ => simp [call, Except.map]
  | _ :: _ :: _ :: rest => cases method <;> simp [call, Except.map]

end StringMethod

theorem ListMethod.call_map [FunctionSet.Faithful change] (method : ListMethod)
    (items args : List Value) :
    method.call (items.map (mapFunctions change)) (args.map (mapFunctions change)) =
      (method.call items args).map (mapFunctions change) := by
  match args with
  | [] => cases method <;> simp [call, Except.map]
  | [value] =>
      cases method <;>
        simp [call, Except.map, indexOf, List.findIdx?_map, List.countP_map, Function.comp_def]
  | _ :: _ :: rest => cases method <;> simp [call, Except.map]

theorem SetMethod.call_map [FunctionSet.Faithful change] (method : SetMethod)
    (items args : List Value) :
    method.call (items.map (mapFunctions change)) (args.map (mapFunctions change)) =
      (method.call items args).map (mapFunctions change) := by
  match args with
  | [] => cases method <;> rfl
  | [value] =>
      cases method with
      | remove =>
          simp only [List.map_cons, List.map_nil, call, without, memberOf_mapFunctions,
            repr_mapFunctions]
          split
          · simp [Except.map, List.filter_map, Function.comp_def]
          · rfl
      | _ => simp [call, Except.map]
  | _ :: _ :: rest => cases method <;> simp [call, Except.map]

namespace Value

theorem callCommon_mapFunctions [FunctionSet.Faithful change] (receiver : Value) (name : String)
    (args : List Value) :
    callCommon (receiver.mapFunctions change) name (args.map (mapFunctions change)) =
      (callCommon receiver name args).map (mapFunctions change) := by
  simp only [callCommon, List.isEmpty_map, kind_mapFunctions, List.length_map]
  cases CommonMethod.ofName? name with
  | none => rfl
  | some method =>
      simp only
      split
      · cases method with
        | type => simp [CommonMethod.call, Except.map]
        | str => simp [CommonMethod.call, Except.map]
        | len => exact length_respects change receiver
      · rfl

/-- A method called on a changed receiver with changed arguments. -/
theorem callMethod_mapFunctions [FunctionSet.Faithful change] (receiver : Value) (name : String)
    (args : List Value) :
    (receiver.mapFunctions change).callMethod name (args.map (mapFunctions change)) =
      (receiver.callMethod name args).map (mapFunctions change) := by
  have common := callCommon_mapFunctions change receiver name args
  cases receiver with
  | string text =>
      simp only [mapFunctions_string, callMethod, callString] at common ⊢
      cases StringMethod.ofName? name with
      | none => exact common
      | some method => exact StringMethod.call_map change method text.toList args
  | list items =>
      simp only [mapFunctions_list, callMethod, callList] at common ⊢
      cases ListMethod.ofName? name with
      | none => exact common
      | some method => exact ListMethod.call_map change method items args
  | set items =>
      simp only [mapFunctions_set, callMethod, callSet] at common ⊢
      cases SetMethod.ofName? name with
      | none => exact common
      | some method => exact SetMethod.call_map change method items args
  | _ => exact common

theorem toSort?_mapFunctions (receiver : Value) (name : String) (args : List Value) :
    (receiver.mapFunctions change).toSort? name (args.map (mapFunctions change)) =
      (receiver.toSort? name args).map (List.map (mapFunctions change)) := by
  cases receiver with
  | list items =>
      cases args with
      | nil =>
          rw [mapFunctions_list, List.map_nil, toSort?, toSort?]
          split <;> rfl
      | cons arg args => rfl
  | _ => rfl

end Value
end DotScript
