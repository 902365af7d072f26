import LoopLesson.Loop.Visits

/-!
The values that a counter takes, as the loop is written: the body runs for a value as long as the
condition holds of it, and the next value is one step further.  Whenever the visits of a loop can be
derived, they are these values, there are no more of them than the limit allows, and no step leaves
the range of words.
-/

namespace LoopLesson

/-- From a value on, the loop runs for the given values and is left with the last one. -/
inductive Visits.RunsThrough (comparison : Comparison) (bound step : Int) : Int → List Int → Int → Prop
  | leave {value : Int} (fails : comparison.holds value bound = false) :
      RunsThrough comparison bound step value [] value
  | again {value exit : Int} {values : List Int} (holds : comparison.holds value bound = true)
      (rest : RunsThrough comparison bound step (value + step) values exit) :
      RunsThrough comparison bound step value (value :: values) exit

namespace Visits

variable {comparison : Comparison} {bound step : Int}

/-- Every successful derivation follows the loop within its room and within the words. -/
theorem follow_ok {room : Nat} {current : Int} {visits : Visits}
    (followed : follow comparison bound step room current = .ok visits) :
    RunsThrough comparison bound step current visits.values visits.exit ∧
      visits.values.length ≤ room ∧
      ∀ value ∈ visits.values, Number.FitsWord (value + step) := by
  -- The room bounds the number of values, one less for each that is visited.
  induction room generalizing current visits with
  | zero =>
      rw [follow] at followed
      split at followed
      · cases followed
      · rename_i fails
        cases followed
        exact ⟨.leave (Bool.eq_false_iff.mpr fails), Nat.le_refl 0, fun value member => by cases member⟩
  | succ room ih =>
      rw [follow] at followed
      split at followed
      · rename_i holds
        split at followed
        · rename_i fits
          cases later : follow comparison bound step room (current + step) with
          | error fault =>
              rw [later] at followed
              cases followed
          | ok rest =>
              rw [later] at followed
              cases followed
              obtain ⟨follows, short, within⟩ := ih later
              refine ⟨.again holds follows, Nat.succ_le_succ short, ?_⟩
              intro value member
              rcases List.mem_cons.mp member with same | further
              · subst value
                exact fits
              · exact within value further
        · cases followed
      · rename_i fails
        cases followed
        exact ⟨.leave (Bool.eq_false_iff.mpr fails), Nat.zero_le _, fun value member => by cases member⟩

theorem follow_error {room : Nat} {current : Int} {fault : LessonFault}
    (failed : follow comparison bound step room current = .error fault) :
    fault = .tooManyIterations := by
  induction room generalizing current with
  | zero =>
      rw [follow] at failed
      split at failed
      · cases failed
        rfl
      · cases failed
  | succ room ih =>
      rw [follow] at failed
      split at failed
      · split at failed
        · cases later : follow comparison bound step room (current + step) with
          | error laterFault =>
              rw [later] at failed
              cases failed
              exact ih later
          | ok rest =>
              rw [later] at failed
              cases failed
        · cases failed
          rfl
      · cases failed

end Visits

end LoopLesson
