import LoopLesson.Loop.Counting
import LoopLesson.Proofs.Loop.Visits

/-!
The stages of reading a counting loop.  A clause that cannot be read decides at once; when all three
can be read, the step is judged, and the visits are derived last.
-/

namespace LoopLesson
namespace CountingLoop

def ofClauses (script : Script) (start : StartClause) (condition : ConditionClause)
    (step : StepClause) (visits : Visits) : CountingLoop where
  name := start.name
  start := start.value
  comparison := condition.comparison
  bound := condition.bound
  step := step.delta
  values := visits.values
  exit := visits.exit
  message := messageOf script.body
  script

section Stages

variable {raw : Script} {start : StartClause} {condition : ConditionClause} {step : StepClause}

theorem read_of_start_none (missing : StartClause.read? raw.trimmed.start.toList = none) :
    read raw = .error .startUnreadable := by
  unfold read
  simp only [missing]

theorem read_of_condition_none
    (startRead : StartClause.read? raw.trimmed.start.toList = some start)
    (missing : ConditionClause.read? start.name.toList raw.trimmed.condition.toList = none) :
    read raw = .error .conditionUnreadable := by
  unfold read
  simp only [startRead, missing]

theorem read_of_step_none
    (startRead : StartClause.read? raw.trimmed.start.toList = some start)
    (conditionRead :
      ConditionClause.read? start.name.toList raw.trimmed.condition.toList = some condition)
    (missing : StepClause.read? start.name.toList raw.trimmed.step.toList = none) :
    read raw = .error .stepUnreadable := by
  unfold read
  simp only [startRead, conditionRead, missing]

/-- Once all clauses are read, the step decides, and then the visits. -/
theorem read_of_clauses
    (startRead : StartClause.read? raw.trimmed.start.toList = some start)
    (conditionRead :
      ConditionClause.read? start.name.toList raw.trimmed.condition.toList = some condition)
    (stepRead : StepClause.read? start.name.toList raw.trimmed.step.toList = some step) :
    read raw =
      if step.amount = 0 then .error .stepZero
      else if condition.comparison.acceptsStep step.delta then
        (Visits.derive start.value condition.bound condition.comparison step.delta).map
          (ofClauses raw.trimmed start condition step)
      else .error (.stepDirection condition.comparison) := by
  unfold read
  simp only [startRead, conditionRead, stepRead]
  rfl

end Stages

end CountingLoop
end LoopLesson
