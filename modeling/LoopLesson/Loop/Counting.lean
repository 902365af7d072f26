import LoopLesson.Lesson.Script
import LoopLesson.Loop.Phrase
import LoopLesson.Loop.Visits

/-!
Counting loops, and how a script describes one.

The clauses are read in the order start, condition, step; then the step has to change the counter,
to move it toward the bound, and to get there within the limit.  The first of these that fails is
the fault of the script.  The body never makes a script faulty.
-/

namespace LoopLesson

/-- A loop that counts, ready to be played. -/
structure CountingLoop where
  name : String
  start : Int
  comparison : Comparison
  bound : Int
  step : Int
  /-- The values for which the body runs. -/
  values : List Int
  /-- The value with which the loop is left. -/
  exit : Int
  message : String
  script : Script
deriving DecidableEq, Repr

namespace CountingLoop

/-- The message of a body that logs no quoted text. -/
def defaultMessage : String := "Looping is learning"

/-- The message that a body logs. -/
def messageOf (body : String) : String :=
  ((loggedText? body.toList).map String.ofList).getD defaultMessage

/-- Reads the loop that a script describes. -/
def read (raw : Script) : Except LessonFault CountingLoop :=
  let script := raw.trimmed
  match StartClause.read? script.start.toList with
  | none => .error .startUnreadable
  | some start =>
      match ConditionClause.read? start.name.toList script.condition.toList with
      | none => .error .conditionUnreadable
      | some condition =>
          match StepClause.read? start.name.toList script.step.toList with
          | none => .error .stepUnreadable
          | some step =>
              if step.amount = 0 then
                .error .stepZero
              else if condition.comparison.acceptsStep step.delta then
                (Visits.derive start.value condition.bound condition.comparison step.delta).map
                  fun visits =>
                    { name := start.name
                      start := start.value
                      comparison := condition.comparison
                      bound := condition.bound
                      step := step.delta
                      values := visits.values
                      exit := visits.exit
                      message := messageOf script.body
                      script }
              else
                .error (.stepDirection condition.comparison)

end CountingLoop

end LoopLesson
