import DotScript.Value.Comparison

/-!
# Laws of the order of numbers

Doubles are compared as the standard prescribes: a double that is not a number is ordered against
nothing, and both zeros are equal.  So the order of two doubles, and with it the order of any two
numbers, turns around with its sides, and equal doubles compare alike with everything.  Equality of
numbers is symmetric, but not transitive: one double may equal two different integers.
-/

namespace DotScript

open Float.Model

/-! ## Doubles -/

/-- The order of two unpacked doubles turns around with its sides. -/
theorem unpacked_compare_swap (x y : UnpackedFloat) :
    y.compare x = (x.compare y).map Ordering.swap := by
  cases x with
  | notANumber => cases y <;> rfl
  | infinity sign =>
      cases y with
      | infinity other => cases sign <;> cases other <;> rfl
      | _ => cases sign <;> rfl
  | zero sign =>
      cases y with
      | infinity other => cases other <;> rfl
      | finite other => cases other <;> rfl
      | _ => rfl
  | finite sign mantissa exponent =>
      cases y with
      | finite other n e =>
          have turned : (compare e exponent).then (compare n mantissa) =
              ((compare exponent e).then (compare mantissa n)).swap := by
            rw [Ordering.swap_then, Int.compare_swap, Nat.compare_swap]
          cases sign <;> cases other
          · exact congrArg (fun order => some order.swap) turned
          · rfl
          · rfl
          · exact congrArg some turned
      | infinity other => cases other <;> rfl
      | _ => cases sign <;> rfl

/-- Doubles that are equal are the same, or both zero. -/
theorem eq_or_zeros_of_compare {x y : UnpackedFloat} (equal : x.compare y = some .eq) :
    x = y ∨ ∃ sign other, x = .zero sign ∧ y = .zero other := by
  cases x with
  | notANumber => cases equal
  | infinity sign =>
      cases y with
      | infinity other =>
          cases sign <;> cases other
          · exact .inl rfl
          · cases equal
          · cases equal
          · exact .inl rfl
      | _ => cases sign <;> cases equal
  | zero sign =>
      cases y with
      | zero other => exact .inr ⟨sign, other, rfl, rfl⟩
      | infinity other => cases other <;> cases equal
      | finite other => cases other <;> cases equal
      | notANumber => cases equal
  | finite sign m e =>
      cases y with
      | finite other n f =>
          have same (both : (compare e f).then (compare m n) = .eq) : e = f ∧ m = n := by
            obtain ⟨exponents, mantissas⟩ := Ordering.then_eq_eq.1 both
            exact ⟨Int.compare_eq_eq.1 exponents, Nat.compare_eq_eq.1 mantissas⟩
          cases sign <;> cases other
          · obtain ⟨rfl, rfl⟩ := same (Ordering.swap_eq_eq.1 (Option.some.inj equal))
            exact .inl rfl
          · cases equal
          · cases equal
          · obtain ⟨rfl, rfl⟩ := same (Option.some.inj equal)
            exact .inl rfl
      | infinity other => cases sign <;> cases other <;> cases equal
      | _ => cases sign <;> cases equal

/-- The sign of a zero does not matter to its order. -/
theorem zero_compare (sign other : UnpackedFloat.Sign) (x : UnpackedFloat) :
    (UnpackedFloat.zero sign).compare x = (UnpackedFloat.zero other).compare x := by
  cases x with
  | infinity third => cases third <;> rfl
  | finite third => cases third <;> rfl
  | _ => rfl

/-- The order of two doubles is the one of the standard. -/
theorem floatOrder?_eq_compare (x y : Float) :
    floatOrder? x y = x.toModel.unpack.compare y.toModel.unpack := by
  have less (x y : Float) : x < y ↔ x.toModel.unpack.compare y.toModel.unpack = some .lt := by
    simp [LT.lt, Float.lt, Float.Model.lt, UnpackedFloat.lt]
  have equal : (x == y) = true ↔ x.toModel.unpack.compare y.toModel.unpack = some .eq := by
    change (x.toModel.unpack.compare y.toModel.unpack == some .eq) = true ↔ _
    exact beq_iff_eq
  have swapped := unpacked_compare_swap x.toModel.unpack y.toModel.unpack
  simp only [floatOrder?, less, equal, swapped]
  rcases x.toModel.unpack.compare y.toModel.unpack with _ | _ | _ | _ <;> rfl

/-- The order of two doubles turns around with its sides. -/
theorem floatOrder?_swap (x y : Float) :
    floatOrder? y x = (floatOrder? x y).map Ordering.swap := by
  rw [floatOrder?_eq_compare, floatOrder?_eq_compare]
  exact unpacked_compare_swap x.toModel.unpack y.toModel.unpack

/-- Equal doubles compare alike with every double. -/
theorem floatOrder?_congr {x y : Float} (equal : floatOrder? x y = some .eq) (z : Float) :
    floatOrder? x z = floatOrder? y z := by
  rw [floatOrder?_eq_compare] at equal ⊢
  rw [floatOrder?_eq_compare]
  rcases eq_or_zeros_of_compare equal with same | ⟨sign, other, is_zero, also_zero⟩
  · rw [same]
  · rw [is_zero, also_zero]
    exact zero_compare sign other z.toModel.unpack

/-! ## Numbers -/

/-- In a total order, comparisons that do not give `gt` go on. -/
theorem compare_then {α : Type} [Ord α] [Std.TransOrd α] {a b c : α}
    (first : (compare a b).isLE = true) (second : (compare b c).isLE = true) :
    compare a c = (compare a b).then (compare b c) := by
  cases ordered : compare a b with
  | lt => exact Std.TransCmp.lt_of_lt_of_isLE ordered second
  | eq => exact Std.TransCmp.congr_left ordered
  | gt =>
      rw [ordered] at first
      cases first

/-- The order of two integers turns around with its sides. -/
theorem Integer.order_swap (a b : Integer) : b.order a = (a.order b).swap := by
  rw [order_eq, order_eq, Int.compare_swap]

/-- Integers of equal order are the same. -/
theorem Integer.eq_of_order {a b : Integer} (equal : a.order b = .eq) : a = b := by
  rw [order_eq, Int.compare_eq_eq] at equal
  rw [← ofInt_toInt a, equal, ofInt_toInt]

namespace Number

/-- The order of two numbers turns around with its sides. -/
theorem compare?_swap (a b : Number) : b.compare? a = (a.compare? b).map Ordering.swap := by
  cases a with
  | float x => cases b <;> exact floatOrder?_swap _ _
  | int m =>
      cases b with
      | float y => exact floatOrder?_swap _ _
      | int n => simp [compare?, m.order_swap n]

/-- Equality of numbers does not depend on the sides. -/
theorem compare?_eq_comm {a b : Number} (equal : a.compare? b = some .eq) :
    b.compare? a = some .eq := by
  rw [compare?_swap, equal]
  rfl

/-- Equality of numbers is transitive, unless two different integers meet in a double. -/
theorem compare?_eq_trans {a b c : Number}
    (apart : ∀ m n x, a = .int m → b = .float x → c = .int n → m = n)
    (first : a.compare? b = some .eq) (second : b.compare? c = some .eq) :
    a.compare? c = some .eq := by
  cases b with
  | int k =>
      cases a with
      | int m => rwa [Integer.eq_of_order (Option.some.inj first)]
      | float x =>
          cases c with
          | int n => rwa [← Integer.eq_of_order (Option.some.inj second)]
          | float z => exact (floatOrder?_congr first z).trans second
  | float y =>
      cases a with
      | float x => exact (floatOrder?_congr first c.toFloat).trans (by cases c <;> exact second)
      | int m =>
          cases c with
          | float z => exact (floatOrder?_congr first z).trans second
          | int n =>
              obtain rfl := apart m n y rfl rfl rfl
              simp [compare?, Integer.order_eq]

/-- The order of integers is transitive. -/
theorem compare?_then {a b c : Integer} {first second : Ordering}
    (ranked : (Number.int a).compare? (.int b) = some first)
    (also : (Number.int b).compare? (.int c) = some second) (first_le : first.isLE = true)
    (second_le : second.isLE = true) :
    (Number.int a).compare? (.int c) = some (first.then second) := by
  simp only [compare?, Integer.order_eq, Option.some.injEq] at ranked also ⊢
  obtain rfl := ranked
  obtain rfl := also
  exact compare_then first_le second_le

end Number

end DotScript
