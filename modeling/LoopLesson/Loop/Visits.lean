import LoopLesson.Lesson.Fault
import LoopLesson.Number.Integer

/-!
The values that a counter takes while the condition of its loop holds, and the value with which the
loop is left.
-/

namespace LoopLesson

/-- The values for which the body runs, and the first value for which it does not. -/
structure Visits where
  values : List Int
  exit : Int
deriving DecidableEq, Repr

namespace Visits

/-- The greatest number of values that a lesson visits. -/
def limit : Nat := 200

/-- Adds a value in front. -/
def visit (value : Int) (visits : Visits) : Visits := { visits with values := value :: visits.values }

/-- Follows the counter from its current value as long as there is room for one more.  A counter
that leaves the range of words counts as one that runs too often. -/
def follow (comparison : Comparison) (bound step : Int) : Nat → Int → Except LessonFault Visits
  | 0, current =>
      if comparison.holds current bound then .error .tooManyIterations
      else .ok { values := [], exit := current }
  | room + 1, current =>
      if comparison.holds current bound then
        if Number.FitsWord (current + step) then
          (follow comparison bound step room (current + step)).map (visit current)
        else
          .error .tooManyIterations
      else
        .ok { values := [], exit := current }

/-- The visits of a loop that starts at a value and goes on by a step. -/
def derive (start bound : Int) (comparison : Comparison) (step : Int) : Except LessonFault Visits :=
  follow comparison bound step limit start

end Visits

end LoopLesson
