import DotScript.Number.Integer
import Mathlib.Algebra.Ring.Parity
import Mathlib.Tactic.Ring

/-!
# Words and numbers without a bound

Powers are taken and texts are read on words as long as these do not overflow, and on numbers
without a bound otherwise.  Either way comes to the same number: `toInt_pow` and `read_eq`.
-/

namespace DotScript
namespace Integer

/-! ## Powers -/

/-- A square stands for two factors, so half of the exponent remains. -/
theorem mul_pow_eq (product base : Int) (exponent : Nat) :
    (if exponent % 2 = 1 then product * base else product) * (base * base) ^ (exponent / 2) =
      product * base ^ exponent := by
  have whole := Nat.div_add_mod exponent 2
  rcases Nat.mod_two_eq_zero_or_one exponent with even | odd
  · rw [even] at whole
    rw [if_neg (by omega), ← pow_two, ← pow_mul, ← whole, Nat.add_zero,
      Nat.mul_div_cancel_left _ (by decide)]
  · rw [odd] at whole
    rw [if_pos odd, ← pow_two, ← pow_mul]
    conv_rhs => rw [← whole]
    ring

/-- A power that is found by squaring words is the exact one. -/
theorem toInt_of_mulPower {product base result : Int64} {exponent : Nat}
    (done : mulPower product base exponent = some result) :
    result.toInt = product.toInt * base.toInt ^ exponent := by
  induction exponent using Nat.strong_induction_on generalizing product base with
  | _ exponent ih =>
      rw [mulPower] at done
      split at done
      next zero =>
        cases done
        rw [zero, pow_zero, mul_one]
      next positive =>
        split at done
        next one => rw [one, pow_one, toInt_of_mulWords done]
        next several =>
          obtain ⟨next, multiplied, done⟩ := Option.bind_eq_some_iff.1 done
          obtain ⟨square, squared, later⟩ := Option.bind_eq_some_iff.1 done
          have found := ih (exponent / 2) (by omega) later
          have next_eq : next.toInt =
              if exponent % 2 = 1 then product.toInt * base.toInt else product.toInt := by
            by_cases odd : exponent % 2 = 1
            · rw [if_pos odd] at multiplied ⊢
              exact toInt_of_mulWords multiplied
            · rw [if_neg odd] at multiplied ⊢
              exact congrArg Int64.toInt (Option.some.inj multiplied).symm
          rw [found, next_eq, toInt_of_mulWords squared, mul_pow_eq]

/-- A power is negative if its base is and its exponent is odd. -/
theorem integerPower_eq (base : Int) (exponent : Nat) :
    integerPower base exponent = base ^ exponent := by
  have magnitude : ((Nat.pow base.natAbs exponent : Nat) : Int) = (base.natAbs : Int) ^ exponent :=
    Int.natCast_pow base.natAbs exponent
  simp only [integerPower, Bool.and_eq_true, decide_eq_true_eq, beq_iff_eq]
  rw [magnitude]
  rcases Int.lt_or_le base 0 with below | above
  · have opposite : (base.natAbs : Int) = -base := by omega
    rcases Nat.mod_two_eq_zero_or_one exponent with even | odd
    · rw [if_neg (by omega), opposite, (Nat.even_iff.2 even).neg_pow]
    · rw [if_pos ⟨below, odd⟩, opposite, (Nat.odd_iff.2 odd).neg_pow, neg_neg]
  · rw [if_neg (by omega), Int.natAbs_of_nonneg above]

@[simp]
theorem toInt_pow (base : Integer) (exponent : Nat) :
    (base.pow exponent).toInt = base.toInt ^ exponent := by
  unfold pow
  split
  next result done =>
    obtain ⟨word, is_word, powered⟩ := Option.bind_eq_some_iff.1 done
    cases base with
    | wide value beyond => cases is_word
    | word value =>
        cases is_word
        have found := toInt_of_mulPower powered
        rwa [Int64.toInt_one, one_mul] at found
  next => rw [toInt_ofInt, integerPower_eq]

/-! ## Reading -/

end Integer

/-- What starts with a digit has no sign. -/
theorem IntegerText.readChars_of_isDigit {c : Char} (digit : c.isDigit = true) (rest : List Char) :
    readChars (c :: rest) = (readMagnitude (c :: rest)).map fun n : Nat => (n : Int) := by
  unfold readChars
  split
  next sign =>
    cases sign
    exact absurd digit (by decide)
  next sign =>
    cases sign
    exact absurd digit (by decide)
  next => rfl

namespace Integer

/-- The number of a magnitude on one side of zero. -/
def signed (negative : Bool) (magnitude : Nat) : Int :=
  if negative then -(magnitude : Int) else magnitude

theorem toInt_ofNat_digit {c : Char} (digit : c.isDigit = true) :
    (Int64.ofNat (IntegerText.digit c)).toInt = IntegerText.digit c := by
  have small : IntegerText.digit c < 2 ^ 63 := by
    have high : c.toNat ≤ '9'.toNat := by
      simp only [Char.isDigit, Bool.and_eq_true, decide_eq_true_eq] at digit
      exact digit.2
    have nine : '9'.toNat = 57 := rfl
    unfold IntegerText.digit
    omega
  exact Int64.toInt_ofNat_of_lt small

theorem toInt_of_appendDigit {negative : Bool} {value result : Int64} {magnitude : Nat} {c : Char}
    (digit : c.isDigit = true) (before : value.toInt = signed negative magnitude)
    (done : appendDigit negative value c = some result) :
    result.toInt = signed negative (10 * magnitude + IntegerText.digit c) := by
  simp only [appendDigit, Option.bind_eq_bind, Option.bind_eq_some_iff] at done
  obtain ⟨tens, shifted, added⟩ := done
  have tens_eq : tens.toInt = value.toInt * 10 := toInt_of_mulWords shifted
  cases negative with
  | true =>
      have difference := toInt_of_subWords added
      rw [toInt_ofNat_digit digit] at difference
      simp only [signed, if_true] at before ⊢
      omega
  | false =>
      have sum := toInt_of_addWords added
      rw [toInt_ofNat_digit digit] at sum
      simp only [signed, Bool.false_eq_true, if_false] at before ⊢
      omega

/-- The digits that are read into a word denote its number. -/
theorem digitsFrom_of_wordFrom {negative : Bool} {digits : List Char} {value result : Int64}
    {magnitude : Nat} (before : value.toInt = signed negative magnitude)
    (done : wordFrom negative value digits = some result) :
    ∃ total, IntegerText.digitsFrom magnitude digits = .ok total ∧
      result.toInt = signed negative total := by
  induction digits generalizing value magnitude with
  | nil =>
      cases done
      exact ⟨magnitude, rfl, before⟩
  | cons c rest ih =>
      rw [wordFrom] at done
      split at done
      next digit =>
        obtain ⟨next, appended, later⟩ := Option.bind_eq_some_iff.1 done
        obtain ⟨total, read, found⟩ := ih (toInt_of_appendDigit digit before appended) later
        exact ⟨total, by rw [IntegerText.digitsFrom, if_pos digit, read], found⟩
      next => cases done

/-- What is read into a word is read as the same magnitude otherwise. -/
theorem readMagnitude_of_wordFrom {negative : Bool} {c : Char} {rest : List Char} {value : Int64}
    (done : wordFrom negative 0 (c :: rest) = some value) :
    c.isDigit = true ∧ ∃ total, IntegerText.readMagnitude (c :: rest) = .ok total ∧
      value.toInt = signed negative total := by
  have start : Int64.toInt 0 = signed negative 0 := by cases negative <;> rfl
  obtain ⟨total, read, found⟩ := digitsFrom_of_wordFrom start done
  have digit : c.isDigit = true := by
    rw [wordFrom] at done
    split at done
    next digit => exact digit
    next => cases done
  refine ⟨digit, total, ?_, found⟩
  rw [IntegerText.digitsFrom, if_pos digit, Nat.mul_zero, Nat.zero_add] at read
  rw [IntegerText.readMagnitude, if_pos digit, read]

/-- A word that is read holds the number that is read without a bound. -/
theorem readChars_of_readWord {chars : List Char} {value : Int64}
    (done : readWord chars = some value) : IntegerText.readChars chars = .ok value.toInt := by
  unfold readWord at done
  split at done
  next c rest =>
    obtain ⟨-, total, read, found⟩ := readMagnitude_of_wordFrom done
    rw [IntegerText.readChars, read, found]
    rfl
  next c rest =>
    obtain ⟨-, total, read, found⟩ := readMagnitude_of_wordFrom done
    rw [IntegerText.readChars, read, found]
    rfl
  next c rest _ _ =>
    obtain ⟨digit, total, read, found⟩ := readMagnitude_of_wordFrom done
    rw [IntegerText.readChars_of_isDigit digit, read, found]
    rfl
  next => cases done

/-- Reading a word first makes no difference. -/
theorem read_eq (text : String) : read text = (IntegerText.read text).map ofInt := by
  unfold read
  split
  next value done =>
    rw [IntegerText.read, readChars_of_readWord done]
    exact congrArg Except.ok (ofInt_toInt (.word value)).symm
  next => rfl

end Integer
end DotScript
