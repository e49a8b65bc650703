import DotScript.Builtin.Conversions
import DotScript.Value.Operator
import DotScript.Value.Sort

/-!
# Built-ins on lists, sets and strings

None of them changes its argument; each gives a new value.
-/

namespace DotScript
namespace Value

/-- The number of items or characters. -/
def length : Value → Except Fault Value
  | .string text => .ok (.int (.ofInt text.length))
  | .list items | .set items => .ok (.int (.ofInt items.length))
  | value => .error (.mistyped (.undefinedFor "len" value.kind))

/-- The list of the elements of a value. -/
def toList (value : Value) : Except Fault Value :=
  match value.elements? with
  | some items => .ok (.list items)
  | Option.none => .error (.mistyped (.notBuildable "list" value.kind))

/-- The set of the elements of a value. -/
def toSet (value : Value) : Except Fault Value :=
  match value.elements? with
  | some items => .ok (ofSet items)
  | Option.none => .error (.mistyped (.notBuildable "set" value.kind))

/-- A list or a set with one more item. -/
def append (collection item : Value) : Except Fault Value :=
  match collection with
  | .list items => .ok (.list (items ++ [item]))
  | .set items => .ok (ofSet (items ++ [item]))
  | value => .error (misfit "append" "a list" value)

/-- The last item of a list. -/
def pop : Value → Except Fault Value
  | .list items =>
    match items.getLast? with
    | some item => .ok item
    | Option.none => .error (.running .emptyPop)
  | value => .error (misfit "pop" "a list" value)

/-- The sum of items, added to a first value one after the other. -/
def sum (collection start : Value) : Except Fault Value := do
  (← expectItems "sum" collection).foldlM add start

/-- A list or a string from its end to its start. -/
def reversed : Value → Except Fault Value
  | .list items => .ok (.list items.reverse)
  | .string text => .ok (ofChars text.toList.reverse)
  | value => .error (.mistyped (.undefinedFor "reversed" value.kind))

/-- Whether all items count as true. -/
def allTruthy (collection : Value) : Except Fault Value := do
  return flag ((← expectItems "all" collection).all truthy)

/-- Whether some item counts as true. -/
def anyTruthy (collection : Value) : Except Fault Value := do
  return flag ((← expectItems "any" collection).any truthy)

/-- Adds an integer and those after it, one up or down at a time, to the terms so far, as long as
they are not past the last one. -/
def collectIntegers (up : Bool) (last : Integer) (terms : List Integer) (term : Integer) :
    List Integer :=
  if term.notPast up last then
    collectIntegers up last (term :: terms) (term.add (.unit up))
  else terms.reverse
termination_by (if up then last.toInt + 1 - term.toInt else term.toInt + 1 - last.toInt).toNat
decreasing_by
  rename_i inside
  rw [Integer.notPast_iff] at inside
  rw [Integer.toInt_add, Integer.toInt_unit]
  cases up with
  | true =>
      simp only [if_true] at inside ⊢
      omega
  | false =>
      simp only [Bool.false_eq_true, if_false] at inside ⊢
      omega

/-- The integers from one to another, both included, in either direction. -/
def integersBetween (first last : Integer) : List Integer :=
  collectIntegers (first.order last).isLE last [] first

/-- The list of the integers from one to another. -/
def rangeList (first last : Value) : Except Fault Value := do
  match ← expectNumber "range_list" first, ← expectNumber "range_list" last with
  | .int first, .int last => return .list ((integersBetween first last).map .int)
  | _, _ => .error (.mistyped .rangeListBounds)

/-- The list of the elements of a value, each after its place. -/
def enumerate (value : Value) : Except Fault Value := do
  let items ← expectElements "enumerate" value
  return .list (items.zipIdx.map fun (item, index) => .list [.int (.ofInt index), item])

/-- The pairs of elements at equal places. -/
def zip (left right : Value) : Except Fault Value := do
  let left ← expectElements "zip" left
  let right ← expectElements "zip" right
  return .list ((left.zip right).map fun (a, b) => .list [a, b])

/-- The least or greatest of several values, or of the items of one. -/
def extremeOf (function : String) (wanted : Ordering) : List Value → Except Fault Value
  | [collection] => do extreme function wanted (← expectItems function collection)
  | values => extreme function wanted values

end Value
end DotScript
