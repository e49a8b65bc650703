import DotScript.Builtin.Call
import DotScript.Method.Call

/-!
# Faults of operations

Operators, built-ins and methods are at fault with the values they are given, never with the text of
the program.  `InRun` says so of a result, and follows the shape of the operation that gives it.
-/

namespace DotScript

/-- Whether a fault comes up while a program runs and not while it is read. -/
def Fault.inRun : Fault → Bool
  | .malformed _ => false
  | _ => true

/-- If an operation is at fault, the fault comes up while the program runs. -/
class InRun {α : Type} (result : Except Fault α) : Prop where
  fault : ∀ cause, result = .error cause → cause.inRun = true

namespace InRun

variable {α β : Type}

instance ok (value : α) : InRun (.ok value : Except Fault α) := ⟨nofun⟩

instance pure (value : α) : InRun (pure value : Except Fault α) := ⟨nofun⟩

theorem error {cause : Fault} (arises : cause.inRun = true) :
    InRun (.error cause : Except Fault α) := by
  constructor
  intro found same
  cases same
  exact arises

instance undefined (cause : ScopeFault) : InRun (.error (.undefined cause) : Except Fault α) :=
  .error rfl

instance miscounted (cause : ArityFault) : InRun (.error (.miscounted cause) : Except Fault α) :=
  .error rfl

instance mistyped (cause : TypeFault) : InRun (.error (.mistyped cause) : Except Fault α) :=
  .error rfl

instance zeroDivision (cause : ZeroFault) :
    InRun (.error (.zeroDivision cause) : Except Fault α) :=
  .error rfl

instance running (cause : RunFault) : InRun (.error (.running cause) : Except Fault α) :=
  .error rfl

instance ite {condition : Prop} [Decidable condition] {yes no : Except Fault α} [InRun yes]
    [InRun no] : InRun (if condition then yes else no) := by
  split <;> infer_instance

instance bind {first : Except Fault α} {next : α → Except Fault β} [first_in : InRun first]
    [∀ value, InRun (next value)] : InRun (first >>= next) := by
  cases first with
  | ok value => exact inferInstanceAs (InRun (next value))
  | error cause => exact .error (first_in.fault cause rfl)

instance map {first : Except Fault α} {change : α → β} [first_in : InRun first] :
    InRun (first.map change) := by
  cases first with
  | ok value => exact .ok (change value)
  | error cause => exact .error (first_in.fault cause rfl)

end InRun

namespace Value

/-! ## Operators -/

instance unsupported_inRun {α : Type} (op : BinaryOp) (left right : Value) :
    InRun (.error (unsupported op left right) : Except Fault α) :=
  .mistyped _

instance misfit_inRun {α : Type} (function wanted : String) (value : Value) :
    InRun (.error (misfit function wanted value) : Except Fault α) :=
  .mistyped _

instance integerPow_inRun (a b : Integer) : InRun (integerPow a b) := by
  unfold integerPow
  infer_instance

instance integerArithmetic_inRun (op : BinaryOp) (a b : Integer) :
    InRun (integerArithmetic op a b) := by
  unfold integerArithmetic
  split <;> infer_instance

instance numberArithmetic_inRun (op : BinaryOp) (a b : Number) :
    InRun (numberArithmetic op a b) := by
  unfold numberArithmetic
  split <;> infer_instance

instance arithmetic_inRun (op : BinaryOp) (left right : Value) :
    InRun (arithmetic op left right) := by
  unfold arithmetic
  split
  · split <;> infer_instance
  · infer_instance

instance add_inRun (left right : Value) : InRun (left.add right) := by
  rw [add.eq_def]
  split <;> infer_instance

instance repetitions_inRun (left right : Value) (ofList : Bool) (length : Nat) (count : Integer) :
    InRun (repetitions left right ofList length count) := by
  unfold repetitions
  infer_instance

instance multiply_inRun (left right : Value) : InRun (left.multiply right) := by
  rw [multiply.eq_def]
  split <;> infer_instance

instance ordered_inRun (op : BinaryOp) (holds : Ordering → Bool) (left right : Value) :
    InRun (ordered op holds left right) := by
  unfold ordered
  split <;> infer_instance

instance binary_inRun (op : BinaryOp) (left right : Value) : InRun (left.binary op right) := by
  unfold binary
  split <;> infer_instance

instance unary_inRun (op : UnaryOp) (operand : Value) : InRun (operand.unary op) := by
  unfold unary
  split
  · split <;> infer_instance
  · infer_instance

/-! ## Arguments and items -/

instance expectString_inRun (function : String) (value : Value) :
    InRun (value.expectString function) := by
  unfold expectString
  split <;> infer_instance

instance expectNumber_inRun (function : String) (value : Value) :
    InRun (value.expectNumber function) := by
  unfold expectNumber
  split <;> infer_instance

instance expectItems_inRun (function : String) (value : Value) :
    InRun (value.expectItems function) := by
  unfold expectItems
  split <;> infer_instance

instance expectElements_inRun (function : String) (value : Value) :
    InRun (value.expectElements function) := by
  unfold expectElements
  split <;> infer_instance

instance insertionSort_inRun (function : String) (items : List Value) :
    InRun (insertionSort function items) := by
  unfold insertionSort
  dsimp only
  split <;> infer_instance

instance extremeFrom_inRun (function : String) (wanted : Ordering) (best : Value)
    (items : List Value) : InRun (extremeFrom function wanted best items) := by
  induction items generalizing best with
  | nil => exact .ok best
  | cons item rest ih =>
      unfold extremeFrom
      split
      · exact ih _
      · infer_instance

instance extreme_inRun (function : String) (wanted : Ordering) (items : List Value) :
    InRun (extreme function wanted items) := by
  unfold extreme
  split <;> infer_instance

/-! ## Built-ins -/

instance length_inRun (value : Value) : InRun value.length := by
  unfold length
  split <;> infer_instance

instance toList_inRun (value : Value) : InRun value.toList := by
  unfold toList
  split <;> infer_instance

instance toSet_inRun (value : Value) : InRun value.toSet := by
  unfold toSet
  split <;> infer_instance

instance append_inRun (collection item : Value) : InRun (collection.append item) := by
  unfold append
  split <;> infer_instance

instance pop_inRun (value : Value) : InRun value.pop := by
  unfold pop
  split
  · split <;> infer_instance
  · infer_instance

instance foldlM_add_inRun (items : List Value) (start : Value) : InRun (items.foldlM add start) := by
  induction items generalizing start with
  | nil => exact .pure start
  | cons item rest ih =>
      rw [List.foldlM_cons]
      infer_instance

instance sum_inRun (collection start : Value) : InRun (collection.sum start) := by
  unfold sum
  infer_instance

instance reversed_inRun (value : Value) : InRun value.reversed := by
  unfold reversed
  split <;> infer_instance

instance allTruthy_inRun (value : Value) : InRun value.allTruthy := by
  unfold allTruthy
  infer_instance

instance anyTruthy_inRun (value : Value) : InRun value.anyTruthy := by
  unfold anyTruthy
  infer_instance

instance rangeList_inRun (first last : Value) : InRun (first.rangeList last) := by
  unfold rangeList
  have here (first last : Number) : InRun (match first, last with
      | .int first, .int last =>
        pure (.list ((integersBetween first last).map .int))
      | _, _ => .error (.mistyped .rangeListBounds) : Except Fault Value) := by
    split <;> infer_instance
  infer_instance

instance enumerate_inRun (value : Value) : InRun value.enumerate := by
  unfold enumerate
  infer_instance

instance zip_inRun (left right : Value) : InRun (left.zip right) := by
  unfold zip
  infer_instance

instance extremeOf_inRun (function : String) (wanted : Ordering) (values : List Value) :
    InRun (extremeOf function wanted values) := by
  unfold extremeOf
  split <;> infer_instance

instance toInt_inRun (value : Value) : InRun value.toInt := by
  unfold toInt
  split
  · infer_instance
  · infer_instance
  · split <;> infer_instance
  · split <;> infer_instance
  · infer_instance

instance toFloat_inRun (value : Value) : InRun value.toFloat := by
  unfold toFloat
  split
  · split <;> infer_instance
  · split <;> infer_instance

instance isInstance_inRun (value kind : Value) : InRun (value.isInstance kind) := by
  unfold isInstance
  infer_instance

instance absolute_inRun (value : Value) : InRun value.absolute := by
  unfold absolute
  refine @InRun.bind _ _ _ _ inferInstance fun number => ?_
  cases number <;> infer_instance

instance rounded_inRun (function : String) (rounding : Rounding) (value : Value) :
    InRun (value.rounded function rounding) := by
  unfold rounded
  refine @InRun.bind _ _ _ _ inferInstance fun number => ?_
  cases number with
  | int number => infer_instance
  | float number =>
      dsimp only
      split <;> infer_instance

end Value

namespace Builtin

instance miscounted_inRun {α : Type} (builtin : Builtin) (received : Nat) :
    InRun (.error (builtin.miscounted received) : Except Fault α) :=
  .miscounted _

instance unary_inRun (builtin : Builtin) (args : List Value) (answer : Value → Except Fault Value)
    [∀ value, InRun (answer value)] : InRun (builtin.unary args answer) := by
  unfold unary
  split <;> infer_instance

instance binary_inRun (builtin : Builtin) (args : List Value)
    (answer : Value → Value → Except Fault Value) [∀ left right, InRun (answer left right)] :
    InRun (builtin.binary args answer) := by
  unfold binary
  split <;> infer_instance

instance optional_inRun (builtin : Builtin) (args : List Value) (absent : Value)
    (answer : Value → Except Fault Value) [∀ value, InRun (answer value)] :
    InRun (builtin.optional args absent answer) := by
  unfold optional
  split <;> infer_instance

instance withDefault_inRun (builtin : Builtin) (args : List Value) (absent : Value)
    (answer : Value → Value → Except Fault Value) [∀ left right, InRun (answer left right)] :
    InRun (builtin.withDefault args absent answer) := by
  unfold withDefault
  split <;> infer_instance

instance variadic_inRun (builtin : Builtin) (args : List Value)
    (answer : List Value → Except Fault Value) [∀ values, InRun (answer values)] :
    InRun (builtin.variadic args answer) := by
  unfold variadic
  infer_instance

/-- Built-ins are at fault with their arguments. -/
instance compute_inRun (builtin : Builtin) (args : List Value) : InRun (builtin.compute args) := by
  unfold compute
  split <;> infer_instance

instance appends_inRun (mode : Option Value) : InRun (appends mode) := by
  unfold appends
  split <;> infer_instance

end Builtin

/-! ## Methods -/

instance StringMethod.miscounted_inRun {α : Type} (method : StringMethod) (received : Nat) :
    InRun (.error (method.miscounted received) : Except Fault α) :=
  .miscounted _

instance StringMethod.splitAt_inRun (text : List Char) (separator : String) :
    InRun (splitAt text separator) := by
  unfold splitAt
  infer_instance

instance StringMethod.sliceBound_inRun (length : Nat) (value : Value) :
    InRun (sliceBound length value) := by
  unfold sliceBound
  refine @InRun.bind _ _ _ _ inferInstance fun number => ?_
  cases number <;> infer_instance

instance StringMethod.call_inRun (method : StringMethod) (text : List Char) (args : List Value) :
    InRun (method.call text args) := by
  unfold call
  split <;> infer_instance

instance ListMethod.miscounted_inRun {α : Type} (method : ListMethod) (received : Nat) :
    InRun (.error (method.miscounted received) : Except Fault α) :=
  .miscounted _

instance ListMethod.call_inRun (method : ListMethod) (items args : List Value) :
    InRun (method.call items args) := by
  unfold call
  split <;> infer_instance

instance SetMethod.miscounted_inRun {α : Type} (method : SetMethod) (received : Nat) :
    InRun (.error (method.miscounted received) : Except Fault α) :=
  .miscounted _

instance SetMethod.without_inRun (items : List Value) (value : Value) :
    InRun (without items value) := by
  unfold without
  infer_instance

instance SetMethod.call_inRun (method : SetMethod) (items args : List Value) :
    InRun (method.call items args) := by
  unfold call
  split <;> infer_instance

instance CommonMethod.call_inRun (method : CommonMethod) (receiver : Value) :
    InRun (method.call receiver) := by
  unfold call
  split <;> infer_instance

namespace Value

instance callCommon_inRun (receiver : Value) (name : String) (args : List Value) :
    InRun (receiver.callCommon name args) := by
  unfold callCommon
  split <;> infer_instance

instance callString_inRun (text name : String) (args : List Value) :
    InRun (callString text name args) := by
  unfold callString
  split <;> infer_instance

instance callList_inRun (items : List Value) (name : String) (args : List Value) :
    InRun (callList items name args) := by
  unfold callList
  split <;> infer_instance

instance callSet_inRun (items : List Value) (name : String) (args : List Value) :
    InRun (callSet items name args) := by
  unfold callSet
  split <;> infer_instance

/-- Methods are at fault with their receiver and their arguments. -/
instance callMethod_inRun (receiver : Value) (name : String) (args : List Value) :
    InRun (receiver.callMethod name args) := by
  unfold callMethod
  split <;> infer_instance

end Value
end DotScript
