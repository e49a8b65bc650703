import DotScript.Run.Execute

/-!
# Loops over integers

A loop over integers goes on until a term is past the last one.  How many terms that takes is known
beforehand: `countRange_eq` replaces the loop by one that counts its terms down, on which statements
about runs can be proved by induction.
-/

namespace DotScript
namespace Run

/-- Whether an integer is not past the last term of a loop. -/
def inRange (last step term : Int) : Bool :=
  if step < 0 then last ≤ term else term ≤ last

/-- The number of terms from `first` on, `step` apart, that are not past `last`.  A step of zero
leads to none. -/
def termCount (first last step : Int) : Nat :=
  if 0 < step then ((last - first) / step + 1).toNat
  else if step < 0 then ((first - last) / -step + 1).toNat
  else 0

/-- Runs a body with a name bound to a number of terms, `step` apart, until the body gives. -/
def countFrom (name : String) (body : Run Flow) (step : Int) : Nat → Int → Run Flow
  | 0, _ => return .next
  | terms + 1, term => do
    define name (.int (.ofInt term))
    match ← body with
    | .give result => return .give result
    | _ => countFrom name body step terms (term + step)

/-- One stride less fits into a distance that is one stride shorter. -/
theorem toNat_ediv_add_one {stride : Int} (positive : 0 < stride) (distance : Int) :
    (distance / stride + 1).toNat =
      if 0 ≤ distance then ((distance - stride) / stride + 1).toNat + 1 else 0 := by
  have shorter : (distance - stride) / stride = distance / stride - 1 := by
    rw [Int.sub_ediv_of_dvd distance (Int.dvd_refl stride), Int.ediv_self (Int.ne_of_gt positive)]
  split
  next ahead =>
    have reached := Int.ediv_nonneg ahead (Int.le_of_lt positive)
    omega
  next behind =>
    have passed := Int.ediv_neg_of_neg_of_pos (Int.not_le.1 behind) positive
    omega

/-- A term that is not past the last one is one of the terms, and the others follow it. -/
theorem termCount_eq {step : Int} (moves : step ≠ 0) (first last : Int) :
    termCount first last step =
      if inRange last step first then termCount (first + step) last step + 1 else 0 := by
  unfold termCount inRange
  rcases Int.lt_or_gt_of_ne moves with down | up
  · have shorter : first + step - last = first - last - -step := by omega
    have not_up := Int.not_lt.2 (Int.le_of_lt down)
    simp only [not_up, down, if_true, if_false, shorter, decide_eq_true_eq]
    rw [toNat_ediv_add_one (Int.neg_pos_of_neg down)]
    simp only [Int.sub_nonneg]
  · have shorter : last - (first + step) = last - first - step := by omega
    have not_down := Int.not_lt.2 (Int.le_of_lt up)
    simp only [not_down, up, if_true, if_false, shorter, decide_eq_true_eq]
    rw [toNat_ediv_add_one up]
    simp only [Int.sub_nonneg]

/-- The loop goes on exactly while a step that is not zero has not led past the last term. -/
theorem goesOn_iff (last step term : Integer) :
    (!step.isZero && term.notPast (!step.isNegative) last) = true ↔
      step.toInt ≠ 0 ∧ inRange last.toInt step.toInt term.toInt = true := by
  have downward := step.isNegative_iff
  rw [Bool.and_eq_true, Bool.not_eq_true', Bool.eq_false_iff, ne_eq, Integer.isZero_iff,
    Integer.notPast_iff, inRange]
  cases down : step.isNegative with
  | true => simp [downward.1 down]
  | false =>
      have upward : ¬ step.toInt < 0 := by simp [← downward, down]
      simp [upward]

theorem termCount_zero (first last : Int) : termCount first last 0 = 0 := rfl

/-- A loop over integers runs its body for the terms that it will come to. -/
theorem countIntegers_eq_countFrom (name : String) (body : Run Flow) (last step first : Integer) :
    countIntegers name body last step first =
      countFrom name body step.toInt (termCount first.toInt last.toInt step.toInt) first.toInt := by
  induction count : termCount first.toInt last.toInt step.toInt generalizing first with
  | zero =>
      rw [countIntegers, if_neg, countFrom]
      rw [goesOn_iff]
      rintro ⟨moves, inside⟩
      rw [termCount_eq moves, if_pos inside] at count
      cases count
  | succ terms ih =>
      have moves : step.toInt ≠ 0 := by
        intro still
        rw [still, termCount_zero] at count
        cases count
      rw [termCount_eq moves] at count
      split at count
      next inside =>
        have later := ih (first.add step) (by rw [Integer.toInt_add]; omega)
        rw [Integer.toInt_add] at later
        rw [countIntegers, if_pos ((goesOn_iff last step first).2 ⟨moves, inside⟩), countFrom,
          Integer.ofInt_toInt]
        exact later ▸ rfl
      next => cases count

/-- A range runs its body for a known number of integers, or for doubles. -/
theorem countRange_eq (turns : Nat) (name : String) (body : Run Flow) (first last : Number)
    (step : Option Number) :
    countRange turns name body first last step =
      match first, last, step with
      | .int first, .int last, none =>
        let step := defaultStep first.toInt last.toInt
        countFrom name body step (termCount first.toInt last.toInt step) first.toInt
      | .int first, .int last, some (.int step) =>
        countFrom name body step.toInt (termCount first.toInt last.toInt step.toInt) first.toInt
      | first, last, step =>
        countFloats name body last.toFloat
          ((step.map Number.toFloat).getD (defaultFloatStep first.toFloat last.toFloat)) turns
          first.toFloat := by
  match first, last, step with
  | .int first, .int last, none => rw [countRange, countIntegers_eq_countFrom, Integer.toInt_ofInt]
  | .int first, .int last, some (.int step) => rw [countRange, countIntegers_eq_countFrom]
  | .float _, _, _ => rfl
  | .int _, .float _, _ => rfl
  | .int _, .int _, some (.float _) => rfl

end Run
end DotScript
