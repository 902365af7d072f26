import LoopLesson.Proofs.Loop.Visits

/-!
The visits of a loop in closed form.

The counter runs through an arithmetic progression.  It leaves the loop after a number of steps that
only the distance to the bound and the size of the step decide, or never.  The visits can be derived
exactly when that number is within the limit and the value at the end is a word: all values before
it then are words, since they lie between the start and the end.
-/

namespace LoopLesson
namespace Visits

/-- A number of values from a start on, each a step further, and the value after them. -/
def progression (start step : Int) (count : Nat) : Visits where
  values := (List.range count).map fun k : Nat => start + k * step
  exit := start + count * step

/-- The number of iterations that a step needs to pass the bound. -/
def iterations (start bound step : Int) : Nat := (bound - start).natAbs / step.natAbs + 1

theorem add_step (start step : Int) (k : Nat) :
    start + step + k * step = start + ((k + 1 : Nat) : Int) * step := by
  rw [Int.natCast_succ, Int.add_mul, Int.one_mul]
  omega

theorem progression_zero (start step : Int) :
    progression start step 0 = { values := [], exit := start } := by
  unfold progression
  rw [Int.natCast_zero, Int.zero_mul, Int.add_zero]
  rfl

theorem visit_progression (start step : Int) (count : Nat) :
    (progression (start + step) step count).visit start = progression start step (count + 1) := by
  unfold progression visit
  simp only [add_step, List.range_succ_eq_map, List.map_cons, List.map_map, Int.natCast_zero,
    Int.zero_mul, Int.add_zero]
  rfl

variable {comparison : Comparison} {start bound step : Int}

section Following

theorem follow_of_fails {room : Nat} (fails : comparison.holds start bound = false) :
    follow comparison bound step room start = .ok { values := [], exit := start } := by
  cases room with
  | zero => rw [follow, if_neg (Bool.eq_false_iff.mp fails)]
  | succ room => rw [follow, if_neg (Bool.eq_false_iff.mp fails)]

theorem follow_of_fits {room : Nat} (holds : comparison.holds start bound = true)
    (fits : Number.FitsWord (start + step)) :
    follow comparison bound step (room + 1) start =
      (follow comparison bound step room (start + step)).map (visit start) := by
  rw [follow, if_pos holds, if_pos fits]

/-- The condition holds of a number of values and fails of the next one. -/
structure LeavesAfter (comparison : Comparison) (start bound step : Int) (count : Nat) : Prop where
  holds : ∀ k < count, comparison.holds (start + k * step) bound = true
  fails : comparison.holds (start + count * step) bound = false

theorem holds_next {count : Nat}
    (holds : ∀ k < count + 1, comparison.holds (start + k * step) bound = true) :
    comparison.holds start bound = true ∧
      ∀ k < count, comparison.holds (start + step + k * step) bound = true := by
  constructor
  · have first := holds 0 (Nat.zero_lt_succ count)
    rwa [Int.natCast_zero, Int.zero_mul, Int.add_zero] at first
  · intro k before
    rw [add_step]
    exact holds (k + 1) (Nat.succ_lt_succ before)

theorem follow_of_leavesAfter {room count : Nat} (enough : count ≤ room)
    (leaves : LeavesAfter comparison start bound step count)
    (fits : ∀ k < count, Number.FitsWord (start + ((k + 1 : Nat) : Int) * step)) :
    follow comparison bound step room start = .ok (progression start step count) := by
  induction count generalizing room start with
  | zero =>
      have fails := leaves.fails
      rw [Int.natCast_zero, Int.zero_mul, Int.add_zero] at fails
      rw [follow_of_fails fails, progression_zero]
  | succ count ih =>
      obtain ⟨room, rfl⟩ : ∃ less, room = less + 1 := ⟨room - 1, by omega⟩
      obtain ⟨holdsHere, holdsLater⟩ := holds_next leaves.holds
      have fitsHere := fits 0 (Nat.zero_lt_succ count)
      rw [Int.natCast_succ, Int.natCast_zero, Int.zero_add, Int.one_mul] at fitsHere
      have later : LeavesAfter comparison (start + step) bound step count :=
        ⟨holdsLater, by rw [add_step]; exact leaves.fails⟩
      have fitsLater : ∀ k < count,
          Number.FitsWord (start + step + ((k + 1 : Nat) : Int) * step) := by
        intro k before
        rw [add_step]
        exact fits (k + 1) (Nat.succ_lt_succ before)
      rw [follow_of_fits holdsHere fitsHere, ih (Nat.le_of_succ_le_succ enough) later fitsLater]
      exact congrArg Except.ok (visit_progression start step count)

/-- A loop that has more values than there is room for runs too often, unless it leaves the words
before that. -/
theorem follow_of_room_lt {room : Nat}
    (holds : ∀ k < room + 1, comparison.holds (start + k * step) bound = true) :
    follow comparison bound step room start = .error .tooManyIterations := by
  induction room generalizing start with
  | zero => rw [follow, if_pos (holds_next holds).1]
  | succ room ih =>
      obtain ⟨holdsHere, holdsLater⟩ := holds_next holds
      by_cases fits : Number.FitsWord (start + step)
      · rw [follow_of_fits holdsHere fits, ih holdsLater]
        rfl
      · rw [follow, if_pos holdsHere, if_neg fits]

theorem follow_of_not_fitsWord {room count : Nat}
    (holds : ∀ k < count + 1, comparison.holds (start + k * step) bound = true)
    (leavesWords : ¬Number.FitsWord (start + ((count + 1 : Nat) : Int) * step)) :
    follow comparison bound step room start = .error .tooManyIterations := by
  induction room generalizing start count with
  | zero => rw [follow, if_pos (holds_next holds).1]
  | succ room ih =>
      obtain ⟨holdsHere, holdsLater⟩ := holds_next holds
      by_cases fits : Number.FitsWord (start + step)
      · cases count with
        | zero =>
            rw [Int.natCast_succ, Int.natCast_zero, Int.zero_add, Int.one_mul] at leavesWords
            exact absurd fits leavesWords
        | succ count =>
            rw [← add_step] at leavesWords
            rw [follow_of_fits holdsHere fits, ih holdsLater leavesWords]
            rfl
      · rw [follow, if_pos holdsHere, if_neg fits]

end Following

section Distance

/-- A step toward the bound keeps the condition as long as the distance lasts. -/
theorem holds_iff_within (accepts : comparison.acceptsStep step = true)
    (holds : comparison.holds start bound = true) (k : Nat) :
    comparison.holds (start + k * step) bound = true ↔
      k * step.natAbs ≤ (bound - start).natAbs := by
  cases comparison with
  | atMost =>
      have positive : 0 < step := of_decide_eq_true accepts
      have near : start ≤ bound := of_decide_eq_true holds
      have size : (step.natAbs : Int) = step := Int.natAbs_of_nonneg (Int.le_of_lt positive)
      have distance : ((bound - start).natAbs : Int) = bound - start :=
        Int.natAbs_of_nonneg (by omega)
      rw [Comparison.holds, decide_eq_true_iff, ← Int.ofNat_le, Int.natCast_mul, size, distance]
      omega
  | atLeast =>
      have negative : step < 0 := of_decide_eq_true accepts
      have near : bound ≤ start := of_decide_eq_true holds
      have size : (step.natAbs : Int) = -step := Int.ofNat_natAbs_of_nonpos (Int.le_of_lt negative)
      have distance : ((bound - start).natAbs : Int) = -(bound - start) :=
        Int.ofNat_natAbs_of_nonpos (by omega)
      rw [Comparison.holds, decide_eq_true_iff, ← Int.ofNat_le, Int.natCast_mul, size, distance,
        Int.mul_neg]
      omega

theorem leavesAfter_iterations (accepts : comparison.acceptsStep step = true)
    (holds : comparison.holds start bound = true) :
    LeavesAfter comparison start bound step (iterations start bound step) := by
  have positive : 0 < step.natAbs := by
    cases comparison with
    | atMost =>
        have upward : 0 < step := of_decide_eq_true accepts
        omega
    | atLeast =>
        have downward : step < 0 := of_decide_eq_true accepts
        omega
  constructor
  · intro k before
    rw [holds_iff_within accepts holds, ← Nat.le_div_iff_mul_le positive]
    exact Nat.le_of_lt_succ before
  · apply Bool.eq_false_iff.mpr
    rw [ne_eq, holds_iff_within accepts holds, ← Nat.le_div_iff_mul_le positive, Nat.not_le]
    exact Nat.lt_succ_self _

/-- A step that does not move toward the bound never ends the loop. -/
theorem holds_of_not_acceptsStep (rejects : comparison.acceptsStep step = false)
    (holds : comparison.holds start bound = true) (k : Nat) :
    comparison.holds (start + k * step) bound = true := by
  cases comparison with
  | atMost =>
      have backward : step ≤ 0 := Int.not_lt.mp (of_decide_eq_false rejects)
      have near : start ≤ bound := of_decide_eq_true holds
      have moved : (k : Int) * step ≤ 0 :=
        Int.mul_nonpos_of_nonneg_of_nonpos (Int.natCast_nonneg k) backward
      exact decide_eq_true (by omega)
  | atLeast =>
      have backward : 0 ≤ step := Int.not_lt.mp (of_decide_eq_false rejects)
      have near : bound ≤ start := of_decide_eq_true holds
      have moved : 0 ≤ (k : Int) * step := Int.mul_nonneg (Int.natCast_nonneg k) backward
      exact decide_eq_true (by omega)

/-- The values between two words of a progression are words. -/
theorem fitsWord_between {count k : Nat} (early : k ≤ count) (first : Number.FitsWord start)
    (last : Number.FitsWord (start + count * step)) : Number.FitsWord (start + k * step) := by
  have order : (k : Int) ≤ count := Int.ofNat_le.mpr early
  have nonneg : (0 : Int) ≤ k := Int.natCast_nonneg k
  unfold Number.FitsWord at first last ⊢
  rcases Int.le_total 0 step with upward | downward
  · have above := Int.mul_nonneg nonneg upward
    have below := Int.mul_le_mul_of_nonneg_right order upward
    omega
  · have below := Int.mul_nonpos_of_nonneg_of_nonpos nonneg downward
    have above := Int.mul_le_mul_of_nonpos_right order downward
    omega

end Distance

theorem derive_of_acceptsStep (fits : Number.FitsWord start)
    (holds : comparison.holds start bound = true) (accepts : comparison.acceptsStep step = true) :
    derive start bound comparison step =
      if iterations start bound step ≤ limit ∧
          Number.FitsWord (start + iterations start bound step * step) then
        .ok (progression start step (iterations start bound step))
      else .error .tooManyIterations := by
  have leaves := leavesAfter_iterations accepts holds
  unfold derive
  split
  next within =>
    obtain ⟨few, ends⟩ := within
    refine follow_of_leavesAfter few leaves fun k before => ?_
    exact fitsWord_between (Nat.succ_le_of_lt before) fits ends
  next beyond =>
    by_cases few : iterations start bound step ≤ limit
    · have leavesWords : ¬Number.FitsWord (start + iterations start bound step * step) :=
        fun ends => beyond ⟨few, ends⟩
      exact follow_of_not_fitsWord leaves.holds leavesWords
    · refine follow_of_room_lt fun k before => leaves.holds k ?_
      omega

/-- The visits of a loop in closed form, for every start that is a word.  A loop that is left at
all runs, over the integers, through the values that are derived, and no step of it leaves the
words. -/
theorem derive_eq_progression (fits : Number.FitsWord start) (bound : Int)
    (comparison : Comparison) (step : Int) :
    (comparison.holds start bound = false →
      derive start bound comparison step = .ok { values := [], exit := start }) ∧
    (comparison.holds start bound = true → comparison.acceptsStep step = true →
      let count : Nat := (bound - start).natAbs / step.natAbs + 1
      derive start bound comparison step =
        if count ≤ 200 ∧ Number.FitsWord (start + count * step) then
          .ok { values := (List.range count).map fun k : Nat => start + k * step
                exit := start + count * step }
        else .error .tooManyIterations) ∧
    (comparison.holds start bound = true → comparison.acceptsStep step = false →
      derive start bound comparison step = .error .tooManyIterations) ∧
    ∀ visits, derive start bound comparison step = .ok visits →
      RunsThrough comparison bound step start visits.values visits.exit ∧
        visits.values.length ≤ 200 ∧
        ∀ value ∈ visits.values, Number.FitsWord (value + step) := by
  refine ⟨?_, ?_, ?_, ?_⟩
  · intro fails
    exact follow_of_fails fails
  · intro holds accepts
    exact derive_of_acceptsStep fits holds accepts
  · intro holds rejects
    exact follow_of_room_lt fun k _before => holds_of_not_acceptsStep rejects holds k
  · intro visits derived
    exact follow_ok derived

/-- Two hundred values are few enough, but the last step may still leave the words. -/
theorem progression_to_the_greatest_word :
    Number.FitsWord 9223372036854775608 ∧
    derive 9223372036854775608 9223372036854775807 .atMost 1 = .error .tooManyIterations ∧
    derive 9223372036854775608 9223372036854775806 .atMost 1 =
      .ok { values := (List.range 199).map fun k : Nat => 9223372036854775608 + (k : Int) * 1
            exit := 9223372036854775807 } := by
  have fits : Number.FitsWord 9223372036854775608 := by decide
  have atEnd := (derive_eq_progression fits 9223372036854775807 .atMost 1).2.1
    (by decide) (by decide)
  have before := (derive_eq_progression fits 9223372036854775806 .atMost 1).2.1
    (by decide) (by decide)
  exact ⟨fits, atEnd, before⟩

end Visits
end LoopLesson
