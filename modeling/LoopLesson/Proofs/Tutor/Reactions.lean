import LoopLesson.Proofs.Tutor.Playhead
import LoopLesson.Tutor.Basic

/-!
What each action does to a tutor, case by case: a script that can be played or cannot, a lesson that
is stepped through or is not, a playhead with events left or without.
-/

namespace LoopLesson
namespace Tutor

theorem modify_of_fixed {tutor : Tutor} {kind : LoopKind} {change : LessonState → LessonState}
    (fixed : change (tutor.lesson kind) = tutor.lesson kind) : tutor.modify kind change = tutor := by
  cases kind with
  | forLoop => exact congrArg (fun lesson => { tutor with forLoop := lesson }) fixed
  | whileLoop => exact congrArg (fun lesson => { tutor with whileLoop := lesson }) fixed
  | forEach => exact congrArg (fun lesson => { tutor with forEach := lesson }) fixed

@[simp] theorem stepping_cancel (tutor : Tutor) : tutor.cancel.1.stepping = none := by
  unfold cancel
  cases owner : tutor.stepping with
  | none => exact owner
  | some kind => rfl

theorem lesson_cancel_of_owner {tutor : Tutor} {kind : LoopKind}
    (owner : tutor.stepping = some kind) :
    tutor.cancel.1.lesson kind = (tutor.lesson kind).cleared := by
  unfold cancel
  rw [owner]
  exact lesson_modify_self tutor kind LessonState.cleared

theorem lesson_cancel_of_not_owner {tutor : Tutor} {kind : LoopKind}
    (notOwner : tutor.stepping ≠ some kind) :
    tutor.cancel.1.lesson kind = tutor.lesson kind := by
  unfold cancel
  cases owner : tutor.stepping with
  | none => rfl
  | some stepped =>
      have different : kind ≠ stepped := by
        intro same
        rw [owner, same] at notOwner
        exact notOwner rfl
      exact lesson_modify_of_ne tutor different LessonState.cleared

@[simp] theorem script_cancel (tutor : Tutor) (kind : LoopKind) :
    (tutor.cancel.1.lesson kind).script = (tutor.lesson kind).script := by
  by_cases owner : tutor.stepping = some kind
  · rw [lesson_cancel_of_owner owner]
    rfl
  · rw [lesson_cancel_of_not_owner owner]

section Tutors

variable (tutor : Tutor) (kind : LoopKind)

theorem tutor_edit (part : Part) (text : String) :
    (tutor.edit kind part text).tutor =
      tutor.cancel.1.modify kind fun lesson =>
        { lesson with script := lesson.script.set part text } := rfl

theorem tutor_load (script : Script) :
    (tutor.load kind script).tutor =
      tutor.cancel.1.modify kind fun lesson => { lesson with script } := rfl

theorem tutor_reset :
    (tutor.reset kind).tutor = tutor.cancel.1.modify kind (LessonState.reset kind) := rfl

theorem tutor_refuse (notices : List Notice) (fault : LessonFault) :
    (tutor.refuse kind notices fault).tutor =
      tutor.modify kind fun lesson => { lesson with highlight := none } := rfl

theorem tutor_select (part : Part) :
    (tutor.select kind part).tutor =
      tutor.modify kind fun lesson => { lesson with highlight := some part } := rfl

theorem tutor_beginTour :
    (tutor.beginTour kind).tutor =
      tutor.modify kind fun lesson => { lesson with touring := true } := by
  unfold beginTour
  split
  · rename_i touring
    symm
    apply modify_of_fixed
    rw [← touring]
  · rfl

theorem tutor_finishTour :
    (tutor.finishTour kind).tutor =
      tutor.modify kind fun lesson => { lesson with touring := false } := rfl

end Tutors

section Playing

variable {tutor : Tutor} {kind : LoopKind} {playback : Playback} {fault : LessonFault}

theorem run_of_ok (plays : kind.play (tutor.lesson kind).script = .ok playback) :
    tutor.run kind =
      { tutor := tutor.cancel.1.modify kind fun lesson => { lesson with highlight := none }
        notices := tutor.cancel.2 ++ [.render kind (finalView playback)]
        answer := .played playback } := by
  rw [← script_cancel] at plays
  unfold run
  simp only [plays]

theorem run_of_error (fails : kind.play (tutor.lesson kind).script = .error fault) :
    tutor.run kind = tutor.cancel.1.refuse kind tutor.cancel.2 fault := by
  rw [← script_cancel] at fails
  unfold run
  simp only [fails]

theorem step_of_ok (plays : kind.play (tutor.lesson kind).script = .ok playback) :
    tutor.step kind =
      { tutor :=
          { tutor.cancel.1.modify kind fun lesson =>
              { lesson with highlight := none, playhead := some (.atStart playback) } with
            stepping := some kind }
        notices := tutor.cancel.2 ++ [.render kind .blank]
        answer := .begun playback.events.length } := by
  rw [← script_cancel] at plays
  unfold step
  simp only [plays]

theorem step_of_error (fails : kind.play (tutor.lesson kind).script = .error fault) :
    tutor.step kind = tutor.cancel.1.refuse kind tutor.cancel.2 fault := by
  rw [← script_cancel] at fails
  unfold step
  simp only [fails]

end Playing

section Advancing

variable {tutor : Tutor} {kind : LoopKind} {playback : Playback} {position : Nat}

theorem advance_of_not_owner (notOwner : tutor.stepping ≠ some kind) :
    tutor.advance kind = { tutor, notices := [], answer := .revealed none } := by
  unfold advance
  rw [if_neg notOwner]

theorem advance_of_lt {frame : Frame} (owner : tutor.stepping = some kind)
    (place : (tutor.lesson kind).playhead = some (.upTo playback position))
    (next : playback.frame? position = some frame) :
    tutor.advance kind =
      { tutor := tutor.modify kind fun lesson =>
          { lesson with
            highlight := frame.highlight, playhead := some (.upTo playback (position + 1)) }
        notices := [.render kind (Playhead.upTo playback (position + 1)).view]
        answer := .revealed (some frame) } := by
  have left : position < playback.events.length := Playback.lt_length_of_frame? next
  have moves := Playhead.advance_upTo_of_lt playback left
  rw [next] at moves
  unfold advance
  simp only [owner, if_true, place, moves]

theorem advance_of_le (owner : tutor.stepping = some kind)
    (place : (tutor.lesson kind).playhead = some (.upTo playback position))
    (exhausted : playback.events.length ≤ position) :
    tutor.advance kind = { tutor, notices := [], answer := .revealed none } := by
  have stays := Playhead.advance_upTo_of_le playback exhausted
  unfold advance
  simp only [owner, if_true, place, stays]

end Advancing

end Tutor
end LoopLesson
