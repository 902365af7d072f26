import LoopLesson.Lesson.Comparison

/-!
The reasons why a script describes no loop that can be played, and the sentence for each.
-/

namespace LoopLesson

/-- Why a script cannot be played. -/
inductive LessonFault where
  | startUnreadable
  | conditionUnreadable
  | stepUnreadable
  | stepZero
  | stepDirection (comparison : Comparison)
  | tooManyIterations
  | arrayUnreadable
  | arrayEmpty
  | itemNotANumber
deriving DecidableEq, Repr

/-- The sentence that the learner sees. -/
def LessonFault.message : LessonFault → String
  | .startUnreadable => "Could not read the starting value. Try something like: let i = 1"
  | .conditionUnreadable => "Could not read the condition. Try something like: i <= 5"
  | .stepUnreadable => "Could not read the step. Try something like: i = i + 1"
  | .stepZero => "The step must change the counter."
  | .stepDirection comparison =>
      "A " ++ comparison.sign ++ " comparison needs a " ++ comparison.direction ++ " step."
  | .tooManyIterations => "This loop would run too many times. Adjust the numbers."
  | .arrayUnreadable => "Could not read the array. Try something like: [2, 4, 6]"
  | .arrayEmpty => "Add at least one number inside the brackets."
  | .itemNotANumber => "Only numbers are supported inside the array."

end LoopLesson
