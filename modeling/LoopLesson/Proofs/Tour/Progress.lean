import LoopLesson.Tour.Basic
import LoopLesson.Tutor.Basic

/-!
The course of one tour.

When its turn comes, a running tour shows some of its pending frames and then waits, stops, or has
shown them all.  That is all that is said here of a turn, whatever the clock and the cancel line
say.  So the actions of a tour are always the first of its frames in order, followed by its end once
it has ended, and it has shown every frame exactly if it ended by itself.
-/

namespace LoopLesson

/-- The action by which a tour of a lesson makes a move. -/
def TourMove.action (kind : LoopKind) : TourMove → Action
  | .show frame => .showTourFrame kind frame
  | .finish => .finishTour kind

namespace Tour

inductive Proceeds (tour : Tour) : Tour → List TourMove → Prop
  | wait {shown rest : List (Option Part)} (due : Nat) (split : tour.pending = shown ++ rest)
      (left : rest ≠ []) :
      Proceeds tour { tour with pending := rest, due } (shown.map .show)
  | stop {shown rest : List (Option Part)} (due : Nat) (split : tour.pending = shown ++ rest)
      (left : rest ≠ []) :
      Proceeds tour { tour with pending := rest, due, completed := some false }
        (shown.map .show ++ [.finish])
  | complete (due : Nat) :
      Proceeds tour { tour with pending := [], due, completed := some true }
        (tour.pending.map .show ++ [.finish])

theorem splitDue_append (delay now due : Nat) (frames : List (Option Part)) :
    (splitDue delay now due frames).1 ++ (splitDue delay now due frames).2.1 = frames := by
  induction frames generalizing due with
  | nil => rfl
  | cons frame rest ih =>
      rw [splitDue]
      split
      · exact congrArg (frame :: ·) (ih (now + delay))
      · rfl

theorem turn_of_ended (now : Nat) {tour : Tour} (ended : tour.isRunning = false) :
    tour.turn now = (tour, []) := by
  unfold turn
  rw [if_pos (by simp [ended])]

theorem proceeds_turn (now : Nat) {tour : Tour} (running : tour.isRunning = true)
    (left : tour.pending ≠ []) : tour.Proceeds (tour.turn now).1 (tour.turn now).2 := by
  have split := splitDue_append tour.delay now tour.due tour.pending
  unfold turn
  rw [if_neg (by simp [running])]
  by_cases stopped : tour.line.asksToStop = true
  · rw [if_pos stopped]
    exact .stop tour.due (List.nil_append tour.pending).symm left
  · rw [if_neg stopped]
    simp only
    split
    · rename_i exhausted
      rw [exhausted, List.append_nil] at split
      rw [split, exhausted]
      exact .complete _
    · rename_i more
      exact .wait _ split.symm more

/-- The actions of a tour so far, against the frames that it has not shown. -/
def Accounted (tour : Tour) (made : List Action) : Prop :=
  ∃ shown, frames = shown ++ tour.pending ∧
    made = shown.map (.showTourFrame tour.kind) ++
      (if tour.isRunning then [] else [.finishTour tour.kind]) ∧
    (tour.completed = some true ↔ tour.pending = [])

theorem accounted_starting (kind : LoopKind) (delay now : Nat) (stopped : Bool) :
    (starting kind delay now stopped).Accounted [] :=
  ⟨[], rfl, rfl, by simp [starting, frames]⟩

namespace Accounted

variable {tour next : Tour} {made : List Action} {moves : List TourMove}

theorem pending_ne_nil (accounted : tour.Accounted made) (running : tour.isRunning = true) :
    tour.pending ≠ [] := by
  obtain ⟨_, _, _, completed⟩ := accounted
  intro exhausted
  rw [isRunning, completed.mpr exhausted] at running
  cases running

theorem proceeds (accounted : tour.Accounted made) (running : tour.isRunning = true)
    (moved : tour.Proceeds next moves) :
    next.Accounted (made ++ moves.map (TourMove.action tour.kind)) := by
  obtain ⟨earlier, all, rfl, _⟩ := accounted
  have unfinished : tour.completed = none := by simpa [isRunning] using running
  rw [if_pos running, List.append_nil]
  cases moved with
  | @wait shown rest due split left =>
      refine ⟨earlier ++ shown, ?_, ?_, ?_⟩
      · rw [all, split, List.append_assoc]
      · simp [isRunning, unfinished, TourMove.action]
      · simp [unfinished, left]
  | @stop shown rest due split left =>
      refine ⟨earlier ++ shown, ?_, ?_, ?_⟩
      · rw [all, split, List.append_assoc]
      · simp [isRunning, TourMove.action]
      · simp [left]
  | complete due =>
      refine ⟨earlier ++ tour.pending, ?_, ?_, ?_⟩
      · rw [all, List.append_nil]
      · simp [isRunning, TourMove.action]
      · simp

end Accounted

end Tour
end LoopLesson
