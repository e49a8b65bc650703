import DotScript.Proofs.Source.Numerals
import DotScript.Value.Operator

/-!
# Integers are exact

Every integer operation gives the number that the operation on numbers gives, and gives it in the
one form that this number has: as a word exactly if a word holds it.  Division of values builds on
the exact quotient and rest, and refuses a zero before either is formed.
-/

namespace DotScript
namespace Integer

/-- An integer stands for a number, and is a word exactly if a word holds the number. -/
structure StandsFor (integer : Integer) (number : Int) : Prop where
  value : integer.toInt = number
  canonical : integer.word?.isSome = true ↔ -2 ^ 63 ≤ number ∧ number < 2 ^ 63

theorem isSome_word?_iff (integer : Integer) :
    integer.word?.isSome = true ↔ -2 ^ 63 ≤ integer.toInt ∧ integer.toInt < 2 ^ 63 := by
  cases integer with
  | word value => simpa [word?, toInt] using fitsWord_iff.1 (fitsWord_toInt value)
  | wide value beyond =>
      have outside := mt fitsWord_iff.2 (Bool.eq_false_iff.1 beyond)
      simpa [word?, toInt] using outside

theorem StandsFor.of_toInt {integer : Integer} {number : Int} (value : integer.toInt = number) :
    integer.StandsFor number where
  value := value
  canonical := value ▸ isSome_word?_iff integer

/-- A number has one form only. -/
theorem toInt_inj {a b : Integer} : a.toInt = b.toInt ↔ a = b := by
  refine ⟨fun same => ?_, congrArg toInt⟩
  rw [← ofInt_toInt a, same, ofInt_toInt]

theorem toInt_eq_zero_iff {integer : Integer} : integer.toInt = 0 ↔ integer = 0 := by
  rw [← toInt_inj]
  exact Eq.congr_right (toInt_ofInt 0).symm

/-- A text is read exactly if it denotes a number, and as the integer that stands for it. -/
theorem read_eq_ok_iff_standsFor {text : String} {integer : Integer} :
    Integer.read text = .ok integer ↔
      ∃ number, IntegerText.Denotes text.toList number ∧ integer.StandsFor number := by
  rw [read_eq_ok_iff]
  constructor
  · intro denotes
    exact ⟨_, denotes, .of_toInt rfl⟩
  · rintro ⟨number, denotes, stands⟩
    rwa [stands.value]

/-! ## Division -/

theorem quotient_mul_add_remainder (a b : Integer) :
    (a.quotient b).toInt * b.toInt + (a.remainder b).toInt = a.toInt := by
  rw [toInt_quotient, toInt_remainder, Int.tdiv_mul_add_tmod]

theorem natAbs_remainder_lt {b : Integer} (nonzero : b ≠ 0) (a : Integer) :
    (a.remainder b).toInt.natAbs < b.toInt.natAbs := by
  rw [toInt_remainder, Int.natAbs_tmod]
  exact Nat.mod_lt _ (Int.natAbs_pos.2 (mt toInt_eq_zero_iff.1 nonzero))

theorem sign_remainder (a b : Integer) :
    (a.remainder b).toInt = 0 ∨ (a.remainder b).toInt.sign = a.toInt.sign := by
  rw [toInt_remainder, Int.sign_tmod]
  by_cases divides : b.toInt ∣ a.toInt
  · exact .inl (Int.tmod_eq_zero_of_dvd divides)
  · exact .inr (if_neg divides)

theorem isZero_remainder_iff (a b : Integer) :
    (a.remainder b).isZero = true ↔ b.toInt ∣ a.toInt := by
  rw [isZero_iff, toInt_remainder, Int.dvd_iff_tmod_eq_zero]

end Integer

/-! ## Division of values -/

namespace Value

section Division

variable {left right : Value} {a b : Integer}

/-- Arithmetic on integers and truth values is arithmetic on integers, past the test for zero. -/
theorem arithmetic_eq (left_is : left.number? = some (.int a))
    (right_is : right.number? = some (.int b)) (op : BinaryOp) :
    arithmetic op left right =
      match zeroFault? op, b.isZero with
      | some fault, true => .error (.zeroDivision fault)
      | _, _ => (integerArithmetic op a b).map Number.toValue := by
  rw [arithmetic, left_is, right_is]
  rfl

theorem arithmetic_of_zero (left_is : left.number? = some (.int a))
    (right_is : right.number? = some (.int 0)) {op : BinaryOp} {fault : ZeroFault}
    (minds : zeroFault? op = some fault) :
    arithmetic op left right = .error (.zeroDivision fault) := by
  rw [arithmetic_eq left_is right_is, minds]
  rfl

theorem arithmetic_of_ne_zero (left_is : left.number? = some (.int a))
    (right_is : right.number? = some (.int b)) (nonzero : b ≠ 0) (op : BinaryOp) :
    arithmetic op left right = (integerArithmetic op a b).map Number.toValue := by
  have other : b.isZero = false := by
    rw [Bool.eq_false_iff, Ne, Integer.isZero_iff, Integer.toInt_eq_zero_iff]
    exact nonzero
  rw [arithmetic_eq left_is right_is, other]
  cases zeroFault? op <;> rfl

/-- A quotient is an integer exactly if the division leaves no rest. -/
theorem integerQuotient_toValue_eq_int_iff (nonzero : b ≠ 0) {q : Integer} :
    (integerQuotient a b).toValue = .int q ↔ q.toInt * b.toInt = a.toInt := by
  have b_ne : b.toInt ≠ 0 := mt Integer.toInt_eq_zero_iff.1 nonzero
  unfold integerQuotient
  split
  next even =>
    have divides := (Integer.isZero_remainder_iff a b).1 even
    rw [Number.toValue, Value.int.injEq, ← Integer.toInt_inj, Integer.toInt_quotient]
    constructor
    · intro same
      rw [← same, Int.tdiv_mul_cancel divides]
    · intro product
      rw [← product, Int.mul_tdiv_cancel _ b_ne]
  next rest =>
    refine ⟨nofun, fun product => absurd ?_ rest⟩
    exact (Integer.isZero_remainder_iff a b).2 (Dvd.intro_left _ product)

end Division

/-- Integers are computed with exactly at every magnitude, and divided as values accordingly. -/
theorem integer_arithmetic_is_exact (a b : Integer) :
    (a.add b).StandsFor (a.toInt + b.toInt) ∧
    (a.sub b).StandsFor (a.toInt - b.toInt) ∧
    (a.mul b).StandsFor (a.toInt * b.toInt) ∧
    a.neg.StandsFor (-a.toInt) ∧
    a.abs.StandsFor a.toInt.natAbs ∧
    (∀ exponent, (a.pow exponent).StandsFor (a.toInt ^ exponent)) ∧
    (b ≠ 0 → ∃ q r, (a.quotient b).StandsFor q ∧ (a.remainder b).StandsFor r ∧
      q * b.toInt + r = a.toInt ∧ r.natAbs < b.toInt.natAbs ∧ (r = 0 ∨ r.sign = a.toInt.sign)) ∧
    (∀ text integer, Integer.read text = .ok integer ↔
      ∃ number, IntegerText.Denotes text.toList number ∧ integer.StandsFor number) ∧
    Integer.read a.write = .ok a ∧
    a.order b = compare a.toInt b.toInt ∧
    (a = b ↔ a.toInt = b.toInt) ∧
    ∀ left right : Value, left.number? = some (.int a) → right.number? = some (.int b) →
      (b = 0 → binary .div left right = .error (.zeroDivision .division) ∧
        binary .mod left right = .error (.zeroDivision .modulo)) ∧
      (b ≠ 0 →
        (∀ q, binary .div left right = .ok (.int q) ↔ q.toInt * b.toInt = a.toInt) ∧
        (¬ b.toInt ∣ a.toInt → binary .div left right = .ok (.float (a.toFloat / b.toFloat))) ∧
        binary .mod left right = .ok (.int (a.remainder b))) := by
  refine ⟨.of_toInt (a.toInt_add b), .of_toInt (a.toInt_sub b), .of_toInt (a.toInt_mul b),
    .of_toInt a.toInt_neg, .of_toInt a.toInt_abs, fun exponent => .of_toInt (a.toInt_pow exponent),
    fun nonzero => ?_, fun text integer => Integer.read_eq_ok_iff_standsFor, a.read_write,
    a.order_eq b, Integer.toInt_inj.symm, fun left right left_is right_is => ⟨?_, fun nonzero => ?_⟩⟩
  · exact ⟨_, _, .of_toInt rfl, .of_toInt rfl, a.quotient_mul_add_remainder b,
      Integer.natAbs_remainder_lt nonzero a, a.sign_remainder b⟩
  · rintro rfl
    exact ⟨arithmetic_of_zero left_is right_is rfl, arithmetic_of_zero left_is right_is rfl⟩
  · have done := arithmetic_of_ne_zero left_is right_is nonzero
    have quotient : binary .div left right = .ok (integerQuotient a b).toValue := done .div
    refine ⟨fun q => ?_, fun rest => ?_, done .mod⟩
    · rw [quotient, Except.ok.injEq, integerQuotient_toValue_eq_int_iff nonzero]
    · rw [quotient, integerQuotient, if_neg (mt (a.isZero_remainder_iff b).1 rest)]
      rfl

theorem least_word_is_divided_by_minus_one :
    let least : Integer := .word Int64.minValue
    (-1 : Integer) ≠ 0 ∧ least.neg.StandsFor (2 ^ 63) ∧
      binary .div (.int least) (.int (-1)) = .ok (.int (.ofInt (2 ^ 63))) ∧
      binary .mod (.int least) (.int (-1)) = .ok (.int 0) ∧
      binary .mod (.bool true) (.bool false) = .error (.zeroDivision .modulo) := by
  intro least
  have nonzero : (-1 : Integer) ≠ 0 := by decide
  obtain ⟨-, -, -, opposite, -, -, -, -, -, -, -, values⟩ := integer_arithmetic_is_exact least (-1)
  obtain ⟨quotient, -, rest⟩ := (values (.int least) (.int (-1)) rfl rfl).2 nonzero
  have flags := (integer_arithmetic_is_exact 1 0).2.2.2.2.2.2.2.2.2.2.2 (.bool true) (.bool false)
  exact ⟨nonzero, opposite, (quotient _).2 (by decide), rest, (flags rfl rfl).1 rfl |>.2⟩

end Value
end DotScript
