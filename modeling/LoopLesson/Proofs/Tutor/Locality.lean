import LoopLesson.Proofs.Tutor.Stepping

/-!
What an action leaves alone.

An action is aimed at one lesson, or at none when it only gives up what is stepped through.  A quiet
action leaves the other lessons and the place of the playhead as they are.  Any other action gives
up what is stepped through first, and nothing is stepped through afterwards unless it is a step that
succeeds.  Only the steps of tours touch the marks of tours.
-/

namespace LoopLesson
namespace Action

def target? : Action → Option LoopKind
  | .cancel => none
  | .edit kind _ _ | .load kind _ | .reset kind | .run kind | .step kind | .advance kind
  | .select kind _ | .beginTour kind | .showTourFrame kind _ | .finishTour kind => some kind

/-- Whether an action is aimed at a lesson, or at none. -/
def concerns (kind : LoopKind) (action : Action) : Bool := action.target?.all (· = kind)

/-- Whether an action belongs to a tour; every other one is a learner's. -/
def isTourStep : Action → Bool
  | .beginTour _ | .showTourFrame _ _ | .finishTour _ => true
  | .cancel | .edit _ _ _ | .load _ _ | .reset _ | .run _ | .step _ | .advance _ | .select _ _ => false

theorem concerns_of_target {kind : LoopKind} {action : Action} (aimed : action.target? = some kind) :
    action.concerns kind = true := by
  simp [concerns, aimed]

theorem eq_of_concerns {kind target : LoopKind} {action : Action}
    (concerned : action.concerns kind = true) (aimed : action.target? = some target) :
    target = kind := by
  simpa [concerns, aimed] using concerned

theorem not_concerns_of_ne {kind target : LoopKind} {action : Action} (different : kind ≠ target)
    (aimed : action.target? = some target) : action.concerns kind = false := by
  simpa [concerns, aimed] using different.symm

theorem ne_of_not_concerns {kind target : LoopKind} {action : Action}
    (elsewhere : action.concerns kind = false) (aimed : action.target? = some target) :
    kind ≠ target := by
  rintro rfl
  rw [concerns_of_target aimed] at elsewhere
  cases elsewhere

end Action

def Notice.isHighlight : Notice → Bool
  | .highlight _ _ => true
  | .render _ _ | .fault _ _ => false

namespace Tutor

theorem touring_cancel (tutor : Tutor) (kind : LoopKind) :
    (tutor.cancel.1.lesson kind).touring = (tutor.lesson kind).touring := by
  by_cases owner : tutor.stepping = some kind
  · rw [lesson_cancel_of_owner owner]
    rfl
  · rw [lesson_cancel_of_not_owner owner]

/-- Advancing changes the highlight and the playhead of its lesson at most. -/
theorem tutor_advance (tutor : Tutor) (kind : LoopKind) :
    ∃ highlight playhead, (tutor.advance kind).tutor =
      tutor.modify kind fun lesson => { lesson with highlight, playhead } := by
  have unchanged : tutor = tutor.modify kind fun lesson =>
      { lesson with
        highlight := (tutor.lesson kind).highlight, playhead := (tutor.lesson kind).playhead } :=
    (modify_of_fixed rfl).symm
  unfold advance
  split
  · split
    · exact ⟨_, _, unchanged⟩
    · split
      · exact ⟨_, _, unchanged⟩
      · exact ⟨_, _, rfl⟩
  · exact ⟨_, _, unchanged⟩

section Owner

variable {tutor : Tutor} {kind : LoopKind} (owner : tutor.stepping = some kind)
include owner

theorem answer_advance_of_owner :
    (tutor.advance kind).answer =
      .revealed ((tutor.lesson kind).playhead.bind fun playhead => playhead.advance.2) := by
  unfold advance
  rw [if_pos owner]
  cases (tutor.lesson kind).playhead with
  | none => rfl
  | some playhead =>
      simp only [Option.bind_some]
      split
      · rename_i exhausted
        rw [exhausted]
      · rename_i moves
        rw [moves]

theorem playhead_advance_of_owner :
    ((tutor.advance kind).tutor.lesson kind).playhead =
      (tutor.lesson kind).playhead.map fun playhead => playhead.advance.1 := by
  unfold advance
  rw [if_pos owner]
  cases place : (tutor.lesson kind).playhead with
  | none => exact place
  | some playhead =>
      simp only [Option.map_some]
      unfold Playhead.advance
      split
      · rename_i exhausted
        split at exhausted
        · exact place
        · cases exhausted
      · rename_i moves
        split at moves
        · cases moves
        · cases moves
          rw [lesson_modify_self]

end Owner

theorem stepping_perform_of_quiet (tutor : Tutor) {action : Action}
    (quiet : action.isQuiet = true) :
    (tutor.perform action).tutor.stepping = tutor.stepping := by
  cases action with
  | advance kind =>
      obtain ⟨highlight, playhead, moved⟩ := tutor.tutor_advance kind
      simp only [perform]
      rw [moved, stepping_modify]
  | select kind part => exact stepping_modify tutor kind _
  | beginTour kind =>
      simp only [perform]
      rw [tutor_beginTour, stepping_modify]
  | showTourFrame kind part => rfl
  | finishTour kind => exact stepping_modify tutor kind _
  | cancel | edit _ _ _ | load _ _ | reset _ | run _ | step _ => cases quiet

/-- After an action that is not quiet nothing is stepped through, unless it is a step that
succeeds. -/
theorem stepping_perform_of_not_quiet (tutor : Tutor) {action : Action}
    (loud : action.isQuiet = false) :
    (tutor.perform action).tutor.stepping = none ∨
      ∃ kind playback, action = .step kind ∧
        kind.play (tutor.lesson kind).script = .ok playback ∧
        (tutor.perform action).tutor.stepping = some kind := by
  have idle := tutor.stepping_cancel
  cases action with
  | cancel => exact .inl idle
  | edit kind part text => exact .inl ((stepping_modify _ kind _).trans idle)
  | load kind script => exact .inl ((stepping_modify _ kind _).trans idle)
  | reset kind => exact .inl ((stepping_modify _ kind _).trans idle)
  | run kind =>
      left
      simp only [perform]
      cases plays : kind.play (tutor.lesson kind).script with
      | error fault =>
          rw [run_of_error plays]
          exact (stepping_modify _ kind _).trans idle
      | ok playback =>
          rw [run_of_ok plays]
          exact (stepping_modify _ kind _).trans idle
  | step kind =>
      simp only [perform]
      cases plays : kind.play (tutor.lesson kind).script with
      | error fault =>
          left
          rw [step_of_error plays]
          exact (stepping_modify _ kind _).trans idle
      | ok playback =>
          right
          refine ⟨kind, playback, rfl, plays, ?_⟩
          rw [step_of_ok plays]
  | advance _ | select _ _ | beginTour _ | showTourFrame _ _ | finishTour _ => cases loud

theorem lesson_step_of_ne (tutor : Tutor) {kind other : LoopKind} (different : other ≠ kind) :
    (tutor.step kind).tutor.lesson other = tutor.cancel.1.lesson other := by
  cases plays : kind.play (tutor.lesson kind).script with
  | error fault =>
      rw [step_of_error plays]
      exact lesson_modify_of_ne _ different _
  | ok playback =>
      rw [step_of_ok plays, ← lesson_modify_of_ne tutor.cancel.1 different fun lesson =>
        { lesson with highlight := none, playhead := some (.atStart playback) }]
      cases other <;> rfl

theorem lesson_run_of_ne (tutor : Tutor) {kind other : LoopKind} (different : other ≠ kind) :
    (tutor.run kind).tutor.lesson other = tutor.cancel.1.lesson other := by
  cases plays : kind.play (tutor.lesson kind).script with
  | error fault =>
      rw [run_of_error plays]
      exact lesson_modify_of_ne _ different _
  | ok playback =>
      rw [run_of_ok plays]
      exact lesson_modify_of_ne _ different _

/-- An action that is aimed at another lesson leaves a lesson as it is, or gives it up. -/
theorem lesson_perform_elsewhere (tutor : Tutor) {kind : LoopKind} {action : Action}
    (elsewhere : action.concerns kind = false) :
    (tutor.perform action).tutor.lesson kind =
      if action.isQuiet then tutor.lesson kind else tutor.cancel.1.lesson kind := by
  cases action with
  | cancel => cases elsewhere
  | edit target part text =>
      exact lesson_modify_of_ne _ (Action.ne_of_not_concerns elsewhere rfl) _
  | load target script =>
      exact lesson_modify_of_ne _ (Action.ne_of_not_concerns elsewhere rfl) _
  | reset target =>
      exact lesson_modify_of_ne _ (Action.ne_of_not_concerns elsewhere rfl) _
  | run target => exact tutor.lesson_run_of_ne (Action.ne_of_not_concerns elsewhere rfl)
  | step target => exact tutor.lesson_step_of_ne (Action.ne_of_not_concerns elsewhere rfl)
  | advance target =>
      obtain ⟨highlight, playhead, moved⟩ := tutor.tutor_advance target
      simp only [perform]
      rw [moved]
      exact lesson_modify_of_ne _ (Action.ne_of_not_concerns elsewhere rfl) _
  | select target part =>
      exact lesson_modify_of_ne _ (Action.ne_of_not_concerns elsewhere rfl) _
  | beginTour target =>
      simp only [perform]
      rw [tutor_beginTour]
      exact lesson_modify_of_ne _ (Action.ne_of_not_concerns elsewhere rfl) _
  | showTourFrame target part => rfl
  | finishTour target =>
      exact lesson_modify_of_ne _ (Action.ne_of_not_concerns elsewhere rfl) _

theorem notices_beginTour (tutor : Tutor) (kind : LoopKind) :
    (tutor.beginTour kind).notices = [] := by
  unfold beginTour
  split <;> rfl

theorem playhead_perform_of_quiet (tutor : Tutor) {kind : LoopKind} {action : Action}
    (quiet : action.isQuiet = true) (other : action ≠ .advance kind) :
    ((tutor.perform action).tutor.lesson kind).playhead = (tutor.lesson kind).playhead := by
  cases concerned : action.concerns kind with
  | false => rw [lesson_perform_elsewhere tutor concerned, if_pos quiet]
  | true =>
      cases action with
      | advance target =>
          obtain rfl := Action.eq_of_concerns concerned rfl
          exact absurd rfl other
      | select target part =>
          obtain rfl := Action.eq_of_concerns concerned rfl
          simp only [perform]
          rw [tutor_select, lesson_modify_self]
      | beginTour target =>
          obtain rfl := Action.eq_of_concerns concerned rfl
          simp only [perform]
          rw [tutor_beginTour, lesson_modify_self]
      | showTourFrame target part => rfl
      | finishTour target =>
          obtain rfl := Action.eq_of_concerns concerned rfl
          simp only [perform]
          rw [tutor_finishTour, lesson_modify_self]
      | cancel | edit _ _ _ | load _ _ | reset _ | run _ | step _ => cases quiet

theorem isHighlight_of_quiet (tutor : Tutor) {kind : LoopKind} {action : Action}
    (quiet : action.isQuiet = true) (other : action ≠ .advance kind) {notice : Notice}
    (sent : notice ∈ (tutor.perform action).notices) (about : notice.kind = kind) :
    notice.isHighlight = true := by
  cases action with
  | advance target =>
      simp only [perform] at sent
      unfold advance at sent
      split at sent
      · split at sent
        · cases sent
        · split at sent
          · cases sent
          · cases List.mem_singleton.mp sent
            obtain rfl : target = kind := about
            exact absurd rfl other
      · cases sent
  | beginTour target =>
      simp only [perform] at sent
      rw [notices_beginTour] at sent
      cases sent
  | select _ _ | showTourFrame _ _ | finishTour _ =>
      cases List.mem_singleton.mp sent
      rfl
  | cancel | edit _ _ _ | load _ _ | reset _ | run _ | step _ => cases quiet

theorem touring_modify_of_kept (tutor : Tutor) (target kind : LoopKind)
    (change : LessonState → LessonState)
    (kept : ∀ lesson, (change lesson).touring = lesson.touring) :
    ((tutor.modify target change).lesson kind).touring = (tutor.lesson kind).touring := by
  by_cases same : kind = target
  · subst target
    rw [lesson_modify_self, kept]
  · rw [lesson_modify_of_ne tutor same]

theorem touring_perform_of_learner (tutor : Tutor) (kind : LoopKind) {action : Action}
    (learner : action.isTourStep = false) :
    ((tutor.perform action).tutor.lesson kind).touring = (tutor.lesson kind).touring := by
  have afterCancel : ∀ target change,
      (∀ lesson : LessonState, (change lesson).touring = lesson.touring) →
      ((tutor.cancel.1.modify target change).lesson kind).touring =
        (tutor.lesson kind).touring := by
    intro target change kept
    rw [touring_modify_of_kept _ _ _ _ kept, touring_cancel]
  cases action with
  | cancel => exact tutor.touring_cancel kind
  | edit target part text => exact afterCancel target _ fun _lesson => rfl
  | load target script => exact afterCancel target _ fun _lesson => rfl
  | reset target => exact afterCancel target (LessonState.reset target) fun _lesson => rfl
  | run target =>
      simp only [perform]
      cases plays : target.play (tutor.lesson target).script with
      | error fault =>
          rw [run_of_error plays]
          exact afterCancel target _ fun _lesson => rfl
      | ok playback =>
          rw [run_of_ok plays]
          exact afterCancel target _ fun _lesson => rfl
  | step target =>
      simp only [perform]
      cases plays : target.play (tutor.lesson target).script with
      | error fault =>
          rw [step_of_error plays]
          exact afterCancel target _ fun _lesson => rfl
      | ok playback =>
          have kept := afterCancel target
            (fun lesson => { lesson with highlight := none, playhead := some (.atStart playback) })
            fun _lesson => rfl
          rw [step_of_ok plays, ← kept]
          cases kind <;> rfl
  | advance target =>
      obtain ⟨_, _, moved⟩ := tutor.tutor_advance target
      simp only [perform]
      rw [moved]
      exact touring_modify_of_kept _ _ _ _ fun _lesson => rfl
  | select target part => exact touring_modify_of_kept _ _ _ _ fun _lesson => rfl
  | beginTour _ | showTourFrame _ _ | finishTour _ => cases learner

theorem answer_beginTour (tutor : Tutor) (kind : LoopKind) :
    (tutor.perform (.beginTour kind)).answer = .granted (!(tutor.lesson kind).touring) := by
  simp only [perform]
  unfold beginTour
  cases (tutor.lesson kind).touring <;> rfl

end Tutor
end LoopLesson
