import LoopLesson.Playback.Counting
import LoopLesson.Playback.Items

/-!
The playback of a lesson: the loop that its script describes, read and played.
-/

namespace LoopLesson

/-- Reads the script of a lesson and plays its loop. -/
def LoopKind.play (kind : LoopKind) (script : Script) : Except LessonFault Playback :=
  match kind with
  | .forLoop | .whileLoop => (CountingLoop.read script).map (CountingLoop.playback kind)
  | .forEach => (ItemLoop.read script).map ItemLoop.playback

end LoopLesson
