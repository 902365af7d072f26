import LoopLesson.Lesson.Part

/-!
The script of a lesson: the text that the learner has written for each part of the loop.
-/

namespace LoopLesson

/-- The text of each part of a loop. -/
structure Script where
  start : String := ""
  condition : String := ""
  step : String := ""
  body : String := ""
deriving DecidableEq, Repr, Inhabited

namespace Script

def get (script : Script) : Part → String
  | .start => script.start
  | .condition => script.condition
  | .step => script.step
  | .body => script.body

def set (script : Script) (part : Part) (text : String) : Script :=
  match part with
  | .start => { script with start := text }
  | .condition => { script with condition := text }
  | .step => { script with step := text }
  | .body => { script with body := text }

/-- The script with the blanks at the ends of every part removed. -/
def trimmed (script : Script) : Script where
  start := Text.trimmed script.start
  condition := Text.trimmed script.condition
  step := Text.trimmed script.step
  body := Text.trimmed script.body

end Script

end LoopLesson
