import DotScript.Proofs.Run.Frames
import Mathlib.Algebra.Ring.Int.Defs

/-!
# Progressions of integers

A loop over integers visits the terms of an arithmetic progression, and so does a loop over the list
of the integers between two of them: `countFrom_eq_forEach` and `integersBetween_eq` lead both back
to `progression`.  What it means to visit items is said by `Visits`, in which a body may do what it
likes, the name that the items are bound to included.
-/

namespace DotScript

/-- A number of integers from the first on, a step apart. -/
def progression (first step : Int) (count : Nat) : List Integer :=
  (List.range count).map fun index : Nat => .ofInt (first + step * index)

theorem progression_succ (first step : Int) (count : Nat) :
    progression first step (count + 1) = .ofInt first :: progression (first + step) step count := by
  have shifted (index : Nat) : first + step * (index + 1 : Nat) = first + step + step * index := by
    rw [Nat.cast_succ, mul_add, mul_one]
    omega
  simp only [progression, List.range_succ_eq_map, List.map_cons, List.map_map, Nat.cast_zero,
    mul_zero, add_zero]
  congr 1
  exact List.map_congr_left fun index _ => congrArg Integer.ofInt (shifted index)

namespace Run

/-! ## How many terms there are -/

theorem termCount_eq_fdiv {step : Int} (moves : step ≠ 0) (first last : Int) :
    termCount first last step = ((last - first).fdiv step + 1).toNat := by
  unfold termCount
  rcases Int.lt_or_gt_of_ne moves with down | up
  · rw [if_neg (by omega), if_pos down, ← Int.neg_fdiv_neg, neg_sub,
      Int.fdiv_eq_ediv_of_nonneg _ (by omega)]
  · rw [if_pos up, Int.fdiv_eq_ediv_of_nonneg _ (by omega)]

theorem lt_toNat_ediv_add_one {stride : Int} (positive : 0 < stride) (distance : Int)
    (index : Nat) : index < (distance / stride + 1).toNat ↔ index * stride ≤ distance := by
  rw [Int.lt_toNat, Int.lt_add_one_iff, Int.le_ediv_iff_mul_le positive]

/-- The terms that are counted are those that are not past the last one. -/
theorem lt_termCount_iff {step : Int} (moves : step ≠ 0) (first last : Int) (index : Nat) :
    index < termCount first last step ↔
      if 0 < step then first + step * index ≤ last else last ≤ first + step * index := by
  unfold termCount
  rcases Int.lt_or_gt_of_ne moves with down | up
  · rw [if_neg (by omega), if_pos down, if_neg (by omega),
      lt_toNat_ediv_add_one (Int.neg_pos_of_neg down), mul_neg, mul_comm]
    omega
  · rw [if_pos up, if_pos up, lt_toNat_ediv_add_one up, mul_comm]
    omega

/-- Without a step every integer between the bounds is a term. -/
theorem termCount_defaultStep (first last : Int) :
    termCount first last (defaultStep first last) = (last - first).natAbs + 1 := by
  unfold termCount defaultStep
  split
  next upward =>
    rw [if_pos (by decide), Int.ediv_one]
    omega
  next downward =>
    rw [if_neg (by decide), if_pos (by decide), neg_neg, Int.ediv_one]
    omega

/-! ## Visiting items -/

/-- A body runs for one item after the other, each of which is bound to a name before its turn,
until it gives or halts. -/
inductive Visits (name : String) (body : Run Flow) :
    List Value → Machine → Except Halt Flow × Machine → Prop
  | done {machine : Machine} : Visits name body [] machine (.ok .next, machine)
  | next {item : Value} {items : List Value} {machine after : Machine} {flow : Flow}
      {result : Except Halt Flow × Machine}
      (ran : body.on (machine.define name item) = (.ok flow, after))
      (goes_on : ∀ value, flow ≠ .give value) (later : Visits name body items after result) :
      Visits name body (item :: items) machine result
  | gives {item value : Value} {items : List Value} {machine after : Machine}
      (ran : body.on (machine.define name item) = (.ok (.give value), after)) :
      Visits name body (item :: items) machine (.ok (.give value), after)
  | halts {item : Value} {items : List Value} {machine after : Machine} {halt : Halt}
      (ran : body.on (machine.define name item) = (.error halt, after)) :
      Visits name body (item :: items) machine (.error halt, after)

theorem forEach_visits (name : String) (body : Run Flow) (items : List Value) (machine : Machine) :
    Visits name body items machine ((forEach name body items).on machine) := by
  induction items generalizing machine with
  | nil => exact .done
  | cons item rest ih =>
      rw [forEach, on_bind_of_ok (on_define name item machine), on_bind]
      cases ran : body.on (machine.define name item) with
      | mk outcome after =>
          cases outcome with
          | error halt => exact .halts ran
          | ok flow =>
              cases flow with
              | next => exact .next ran nofun (ih after)
              | value result => exact .next ran nofun (ih after)
              | give result => exact .gives ran

/-- Items can be visited in one way only. -/
theorem Visits.unique {name : String} {body : Run Flow} {items : List Value} {machine : Machine}
    {result other : Except Halt Flow × Machine} (visits : Visits name body items machine result)
    (also : Visits name body items machine other) : other = result := by
  induction visits with
  | done =>
      cases also
      rfl
  | next ran goes_on later ih =>
      cases also with
      | next also_ran also_on also_later =>
          cases ran.symm.trans also_ran
          exact ih also_later
      | gives also_ran =>
          cases ran.symm.trans also_ran
          exact (goes_on _ rfl).elim
      | halts also_ran => cases ran.symm.trans also_ran
  | gives ran =>
      cases also with
      | next also_ran also_on =>
          cases ran.symm.trans also_ran
          exact (also_on _ rfl).elim
      | gives also_ran =>
          cases ran.symm.trans also_ran
          rfl
      | halts also_ran => cases ran.symm.trans also_ran
  | halts ran =>
      cases also with
      | next also_ran => cases ran.symm.trans also_ran
      | gives also_ran => cases ran.symm.trans also_ran
      | halts also_ran =>
          cases ran.symm.trans also_ran
          rfl

/-- A loop over items is what visiting them comes to. -/
theorem forEach_on_eq_iff {name : String} {body : Run Flow} {items : List Value} {machine : Machine}
    {result : Except Halt Flow × Machine} :
    (forEach name body items).on machine = result ↔ Visits name body items machine result := by
  have visits := forEach_visits name body items machine
  constructor
  · rintro rfl
    exact visits
  · intro also
    exact also.unique visits

/-- A loop that counts its terms visits the terms of a progression. -/
theorem countFrom_eq_forEach (name : String) (body : Run Flow) (step : Int) (terms : Nat)
    (term : Int) :
    countFrom name body step terms term =
      forEach name body ((progression term step terms).map .int) := by
  induction terms generalizing term with
  | zero => rw [countFrom, progression, List.range_zero, List.map_nil, List.map_nil, forEach]
  | succ terms ih =>
      rw [progression_succ, List.map_cons, countFrom, forEach]
      exact ih (term + step) ▸ rfl

/-! ## The integers between two integers -/

theorem notPast_iff_inRange {up : Bool} {step : Int} (is_step : (Integer.unit up).toInt = step)
    (term last : Integer) :
    term.notPast up last = true ↔ inRange last.toInt step term.toInt = true := by
  rw [Integer.notPast_iff, inRange, ← is_step, Integer.toInt_unit]
  cases up <;> simp

/-- The integers that are collected are those so far and the terms that are not past the last. -/
theorem collectIntegers_eq {up : Bool} {step : Int} (is_step : (Integer.unit up).toInt = step)
    (last : Integer) (terms : List Integer) (term : Integer) :
    Value.collectIntegers up last terms term =
      terms.reverse ++ progression term.toInt step (termCount term.toInt last.toInt step) := by
  have moves : step ≠ 0 := by
    rw [← is_step, Integer.toInt_unit]
    cases up <;> decide
  induction count : termCount term.toInt last.toInt step generalizing terms term with
  | zero =>
      rw [termCount_eq moves] at count
      split at count
      next => cases count
      next past =>
        rw [Value.collectIntegers, if_neg (mt (notPast_iff_inRange is_step term last).1 past)]
        simp [progression]
  | succ later ih =>
      rw [termCount_eq moves] at count
      split at count
      next inside =>
        have next_eq : (term.add (.unit up)).toInt = term.toInt + step := by
          rw [Integer.toInt_add, is_step]
        have later_eq := ih (term :: terms) (term.add (.unit up)) (by rw [next_eq]; omega)
        rw [Value.collectIntegers, if_pos ((notPast_iff_inRange is_step term last).2 inside),
          later_eq, next_eq, progression_succ, Integer.ofInt_toInt]
        simp
      next => cases count

theorem integersBetween_eq (first last : Integer) :
    Value.integersBetween first last =
      progression first.toInt (defaultStep first.toInt last.toInt)
        (termCount first.toInt last.toInt (defaultStep first.toInt last.toInt)) := by
  have is_step : (Integer.unit (first.order last).isLE).toInt =
      defaultStep first.toInt last.toInt := by
    rw [Integer.toInt_unit, defaultStep, Integer.order_eq]
    simp only [Int.isLE_compare]
  exact collectIntegers_eq is_step last [] first

/-! ## Loops over ranges -/

section Bounds

variable {run : BodyRunner} {first last bound : Expr} {machine between after : Machine}
  {start stop value : Value} {a b : Integer}

theorem rangeBound_on {number : Number}
    (evaluated : (evaluate run bound).on machine = (.ok value, after))
    (is_number : value.number? = some number) :
    (rangeBound run bound).on machine = (.ok number, after) := by
  rw [rangeBound, on_bind_of_ok evaluated, is_number]
  rfl

theorem rangeStep_on {step : Integer}
    (evaluated : (evaluate run bound).on machine = (.ok value, after))
    (is_step : value.number? = some (.int step)) (moves : step.toInt ≠ 0) (span : Span) :
    (rangeStep run (some bound) span).on machine = (.ok (some (.int step)), after) := by
  have nonzero : step.isZero = false := by
    rw [Bool.eq_false_iff, ne_eq, Integer.isZero_iff]
    exact moves
  rw [rangeStep, on_bind_of_ok (rangeBound_on evaluated is_step), Number.isZero, nonzero]
  rfl

theorem evaluateAll_pair (first_ends : (evaluate run first).on machine = (.ok start, between))
    (last_ends : (evaluate run last).on between = (.ok stop, after)) :
    (evaluateAll run [first, last]).on machine = (.ok [start, stop], after) := by
  rw [evaluateAll, on_bind_of_ok first_ends, evaluateAll]
  simp only [bind_assoc]
  rw [on_bind_of_ok last_ends]
  rfl

theorem compute_rangeList (start_is : start.number? = some (.int a))
    (stop_is : stop.number? = some (.int b)) :
    Builtin.rangeList.compute [start, stop] =
      .ok (.list ((Value.integersBetween a b).map .int)) := by
  change Value.rangeList start stop = _
  rw [Value.rangeList, Value.expectNumber, Value.expectNumber, start_is, stop_is]
  rfl

/-- A call for the list of the integers between two bounds evaluates to it. -/
theorem evaluate_rangeList (first_ends : (evaluate run first).on machine = (.ok start, between))
    (last_ends : (evaluate run last).on between = (.ok stop, after))
    (start_is : start.number? = some (.int a)) (stop_is : stop.number? = some (.int b))
    (span : Span) :
    (evaluate run (.call "range_list" [first, last] span)).on machine =
      (.ok (.list ((Value.integersBetween a b).map .int)), after) := by
  have builtin : call run "range_list" [start, stop] span =
      ofHost span (HostM.ofExcept (Builtin.rangeList.compute [start, stop])) := rfl
  rw [evaluate, on_bind_of_ok (evaluateAll_pair first_ends last_ends), builtin,
    compute_rangeList start_is stop_is]
  rfl

end Bounds

/-- A loop over integers runs its body for the terms of its progression that are not past the end,
however the body changes the machine; without a step it goes by one towards its end, and does what a
loop over the list of the integers between its bounds does. -/
theorem integer_loops_follow_progressions (turns : Nat) (run : BodyRunner) (name : String)
    (first last : Expr) (body : List Stmt) (span : Span) (machine between after : Machine)
    (start stop : Value) (a b : Integer)
    (first_ends : (evaluate run first).on machine = (.ok start, between))
    (last_ends : (evaluate run last).on between = (.ok stop, after))
    (start_is : start.number? = some (.int a)) (stop_is : stop.number? = some (.int b)) :
    (∀ (step : Expr) (value : Value) (s : Integer) (ready : Machine),
      (evaluate run step).on after = (.ok value, ready) → value.number? = some (.int s) →
      s.toInt ≠ 0 → ∃ count : Nat,
        count = ((b.toInt - a.toInt).fdiv s.toInt + 1).toNat ∧
        (∀ index : Nat, index < count ↔
          if 0 < s.toInt then a.toInt + s.toInt * index ≤ b.toInt
          else b.toInt ≤ a.toInt + s.toInt * index) ∧
        ∀ result,
          (execute turns run (.forRange name first last (some step) body span)).on machine = result ↔
            Visits name (executeBlock turns run body) ((progression a.toInt s.toInt count).map .int)
              ready result) ∧
    (∀ result,
      (execute turns run (.forRange name first last none body span)).on machine = result ↔
        Visits name (executeBlock turns run body)
          ((progression a.toInt (if a.toInt ≤ b.toInt then 1 else -1)
            ((b.toInt - a.toInt).natAbs + 1)).map .int)
          after result) ∧
    ∀ call_span loop_span,
      (execute turns run (.forRange name first last none body span)).on machine =
        (execute turns run
          (.forIn name (.call "range_list" [first, last] call_span) body loop_span)).on machine := by
  have first_bound := rangeBound_on first_ends start_is
  have last_bound := rangeBound_on last_ends stop_is
  have no_step : (rangeStep run none span).on after = (.ok none, after) := rfl
  refine ⟨?_, fun result => ?_, fun call_span loop_span => ?_⟩
  · intro step value s ready step_ends is_step moves
    refine ⟨termCount a.toInt b.toInt s.toInt, termCount_eq_fdiv moves _ _,
      lt_termCount_iff moves _ _, fun result => ?_⟩
    rw [execute, on_bind_of_ok first_bound, on_bind_of_ok last_bound,
      on_bind_of_ok (rangeStep_on step_ends is_step moves span), countRange_eq]
    simp only [countFrom_eq_forEach]
    exact forEach_on_eq_iff
  · rw [execute, on_bind_of_ok first_bound, on_bind_of_ok last_bound, on_bind_of_ok no_step,
      countRange_eq]
    simp only [countFrom_eq_forEach, termCount_defaultStep]
    exact forEach_on_eq_iff
  · have elements := evaluate_rangeList first_ends last_ends start_is stop_is call_span
    rw [execute, on_bind_of_ok first_bound, on_bind_of_ok last_bound, on_bind_of_ok no_step,
      countRange_eq, execute, on_bind_of_ok elements, integersBetween_eq]
    simp only [countFrom_eq_forEach]
    rfl

/-- A loop goes past the largest word, and rebinding its variable does not disturb it. -/
theorem range_crosses_the_largest_word :
    let number (digits : String) : Expr := .literal (.int digits) default
    let first := number "9223372036854775806"
    let last := number "9223372036854775809"
    let body : List Stmt := [.assign "i" none (number "0") default]
    let run : BodyRunner := fun _ => return .next
    let machine := Machine.start (.start .closed .empty false .strict)
    (evaluate run first).on machine = (.ok (.int (.ofInt 9223372036854775806)), machine) ∧
      (evaluate run last).on machine = (.ok (.int (.ofInt 9223372036854775809)), machine) ∧
      (evaluate run (number "2")).on machine = (.ok (.int 2), machine) ∧
      Visits "i" (executeBlock 0 run body)
        [.int (.ofInt 9223372036854775806), .int (.ofInt 9223372036854775808)] machine
        ((execute 0 run (.forRange "i" first last (some (number "2")) body default)).on machine) := by
  intro number first last body run machine
  have first_ends :
      (evaluate run first).on machine = (.ok (.int (.ofInt 9223372036854775806)), machine) := by rfl
  have last_ends :
      (evaluate run last).on machine = (.ok (.int (.ofInt 9223372036854775809)), machine) := by rfl
  have step_ends : (evaluate run (number "2")).on machine = (.ok (.int 2), machine) := by rfl
  have follows := integer_loops_follow_progressions 0 run "i" first last body default machine machine
    machine _ _ _ _ first_ends last_ends rfl rfl
  obtain ⟨count, count_eq, -, visits⟩ := follows.1 (number "2") _ 2 machine step_ends rfl (by decide)
  have two : count = 2 := count_eq.trans (by decide)
  rw [two] at visits
  exact ⟨first_ends, last_ends, step_ends, (visits _).1 rfl⟩

end Run
end DotScript
