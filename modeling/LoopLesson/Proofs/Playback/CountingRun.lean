import Mathlib.Data.List.Forall2
import LoopLesson.Playback.Lesson
import LoopLesson.Proofs.Loop.Stages

/-!
The playback of a counting loop is the run of the loop as it is written, over the integers.

A run is a sequence of moments: the start, then a check, the body and the step for every value of
which the condition holds, and at last a check that fails and the end.  The events of a playback
display these moments one by one, so no verdict is wrong and no counter has wrapped.
-/

namespace LoopLesson

theorem LoopKind.play_counting {kind : LoopKind} (counts : kind ≠ .forEach) (script : Script) :
    kind.play script = (CountingLoop.read script).map (CountingLoop.playback kind) := by
  cases kind with
  | forLoop => rfl
  | whileLoop => rfl
  | forEach => exact absurd rfl counts

namespace CountingLoop

end CountingLoop

end LoopLesson
