import LoopLesson.Proofs.Tutor.Locality

/-!
Tours leave no trace in the lessons.

What a learner asks for goes the same way whether or not a lesson is marked as being toured, and a
step of a tour changes nothing but that mark and the highlight on display.  So the steps of tours can
be erased from any run: the learner gets the same answers, the lessons end up the same, and the
display hears the same but for the highlights of the tours.
-/

namespace LoopLesson

def LessonState.untoured (lesson : LessonState) : LessonState := { lesson with touring := false }

theorem LessonState.fields_eq_of_untoured_eq {left right : LessonState}
    (same : left.untoured = right.untoured) :
    left.script = right.script ∧ left.playhead = right.playhead ∧
      left.highlight = right.highlight := by
  simp only [untoured, LessonState.mk.injEq] at same
  exact ⟨same.1, same.2.2.1, same.2.1⟩

namespace Tutor

/-- The tutor with no lesson marked as being toured. -/
def untoured (tutor : Tutor) : Tutor where
  forLoop := tutor.forLoop.untoured
  whileLoop := tutor.whileLoop.untoured
  forEach := tutor.forEach.untoured
  stepping := tutor.stepping

@[simp] theorem stepping_untoured (tutor : Tutor) : tutor.untoured.stepping = tutor.stepping := rfl

@[simp] theorem lesson_untoured (tutor : Tutor) (kind : LoopKind) :
    tutor.untoured.lesson kind = (tutor.lesson kind).untoured := by
  cases kind <;> rfl

/-- A change that goes the same way without the mark can be made before or after it is removed. -/
theorem modify_untoured (tutor : Tutor) (kind : LoopKind) (change : LessonState → LessonState)
    (blind : ∀ lesson, change lesson.untoured = (change lesson).untoured) :
    tutor.untoured.modify kind change = (tutor.modify kind change).untoured := by
  cases kind with
  | forLoop => exact congrArg (fun lesson => { tutor.untoured with forLoop := lesson }) (blind _)
  | whileLoop => exact congrArg (fun lesson => { tutor.untoured with whileLoop := lesson }) (blind _)
  | forEach => exact congrArg (fun lesson => { tutor.untoured with forEach := lesson }) (blind _)

theorem untoured_modify_of_fixed (tutor : Tutor) (kind : LoopKind)
    (change : LessonState → LessonState)
    (fixed : ∀ lesson, (change lesson).untoured = lesson.untoured) :
    (tutor.modify kind change).untoured = tutor.untoured := by
  cases kind with
  | forLoop => exact congrArg (fun lesson => { tutor.untoured with forLoop := lesson }) (fixed _)
  | whileLoop => exact congrArg (fun lesson => { tutor.untoured with whileLoop := lesson }) (fixed _)
  | forEach => exact congrArg (fun lesson => { tutor.untoured with forEach := lesson }) (fixed _)

end Tutor

def Reaction.untoured (reaction : Reaction) : Reaction :=
  { reaction with tutor := reaction.tutor.untoured }

namespace Tutor

theorem cancel_untoured (tutor : Tutor) :
    tutor.untoured.cancel = (tutor.cancel.1.untoured, tutor.cancel.2) := by
  unfold cancel
  rw [stepping_untoured]
  cases tutor.stepping with
  | none => rfl
  | some kind =>
      have cleared := tutor.modify_untoured kind LessonState.cleared fun _lesson => rfl
      simp only [cleared]
      rfl

section Learner

variable (tutor : Tutor) (kind : LoopKind)

theorem cancelThenModify_untoured {change : LessonState → LessonState}
    (blind : ∀ lesson, change lesson.untoured = (change lesson).untoured) :
    tutor.untoured.cancelThenModify kind change =
      ((tutor.cancelThenModify kind change).1.untoured,
        (tutor.cancelThenModify kind change).2) := by
  unfold cancelThenModify
  rw [cancel_untoured]
  exact congrArg (fun changed => (changed, tutor.cancel.2))
    (tutor.cancel.1.modify_untoured kind change blind)

theorem refuse_untoured (notices : List Notice) (fault : LessonFault) :
    tutor.untoured.refuse kind notices fault = (tutor.refuse kind notices fault).untoured :=
  congrArg (fun changed => Reaction.mk changed _ _)
    (tutor.modify_untoured kind _ fun _lesson => rfl)

theorem run_untoured : tutor.untoured.run kind = (tutor.run kind).untoured := by
  have script : (tutor.untoured.lesson kind).script = (tutor.lesson kind).script := by
    rw [lesson_untoured]
    rfl
  cases plays : kind.play (tutor.lesson kind).script with
  | error fault =>
      rw [run_of_error plays, run_of_error (script ▸ plays), cancel_untoured, refuse_untoured]
  | ok playback =>
      rw [run_of_ok plays, run_of_ok (script ▸ plays), cancel_untoured]
      exact congrArg (fun changed => Reaction.mk changed _ _)
        (tutor.cancel.1.modify_untoured kind _ fun _lesson => rfl)

theorem step_untoured : tutor.untoured.step kind = (tutor.step kind).untoured := by
  have script : (tutor.untoured.lesson kind).script = (tutor.lesson kind).script := by
    rw [lesson_untoured]
    rfl
  cases plays : kind.play (tutor.lesson kind).script with
  | error fault =>
      rw [step_of_error plays, step_of_error (script ▸ plays), cancel_untoured, refuse_untoured]
  | ok playback =>
      have begun := tutor.cancel.1.modify_untoured kind (fun lesson =>
        { lesson with highlight := none, playhead := some (.atStart playback) }) fun _lesson => rfl
      rw [step_of_ok plays, step_of_ok (script ▸ plays), cancel_untoured]
      simp only [begun]
      rfl

theorem advance_untoured : tutor.untoured.advance kind = (tutor.advance kind).untoured := by
  have playhead : (tutor.untoured.lesson kind).playhead = (tutor.lesson kind).playhead := by
    rw [lesson_untoured]
    rfl
  unfold advance
  rw [stepping_untoured, playhead]
  by_cases owner : tutor.stepping = some kind
  · rw [if_pos owner, if_pos owner]
    cases (tutor.lesson kind).playhead with
    | none => rfl
    | some before =>
        simp only
        cases before.advance with
        | mk moved frame =>
            cases frame with
            | none => rfl
            | some frame =>
                exact congrArg (fun changed => Reaction.mk changed _ _)
                  (tutor.modify_untoured kind _ fun _lesson => rfl)
  · rw [if_neg owner, if_neg owner]
    rfl

end Learner

/-- What a learner asks for goes the same way without the marks. -/
theorem perform_untoured (tutor : Tutor) {action : Action} (learner : action.isTourStep = false) :
    tutor.untoured.perform action = (tutor.perform action).untoured := by
  cases action with
  | cancel =>
      simp only [perform]
      rw [cancel_untoured]
      rfl
  | edit kind part text =>
      simp only [perform, edit]
      rw [cancelThenModify_untoured]
      · rfl
      · exact fun _lesson => rfl
  | load kind script =>
      simp only [perform, load]
      rw [cancelThenModify_untoured]
      · rfl
      · exact fun _lesson => rfl
  | reset kind =>
      simp only [perform, reset]
      rw [cancelThenModify_untoured]
      · rfl
      · exact fun _lesson => rfl
  | run kind => exact run_untoured tutor kind
  | step kind => exact step_untoured tutor kind
  | advance kind => exact advance_untoured tutor kind
  | select kind part =>
      exact congrArg (fun changed => Reaction.mk changed _ _)
        (tutor.modify_untoured kind _ fun _lesson => rfl)
  | beginTour _ | showTourFrame _ _ | finishTour _ => cases learner

/-- A step of a tour changes the marks only, and moves highlights only. -/
theorem untoured_perform_of_isTourStep (tutor : Tutor) {action : Action}
    (tour : action.isTourStep = true) :
    (tutor.perform action).tutor.untoured = tutor.untoured ∧
      ∀ notice ∈ (tutor.perform action).notices, notice.isHighlight = true := by
  cases action with
  | beginTour kind =>
      constructor
      · change (tutor.beginTour kind).tutor.untoured = tutor.untoured
        rw [tutor_beginTour]
        exact tutor.untoured_modify_of_fixed kind _ fun _lesson => rfl
      · intro notice sent
        simp only [perform] at sent
        rw [notices_beginTour] at sent
        cases sent
  | showTourFrame kind part =>
      refine ⟨rfl, ?_⟩
      intro notice sent
      cases List.mem_singleton.mp sent
      rfl
  | finishTour kind =>
      refine ⟨tutor.untoured_modify_of_fixed kind _ fun _lesson => rfl, ?_⟩
      intro notice sent
      cases List.mem_singleton.mp sent
      rfl
  | cancel | edit _ _ _ | load _ _ | reset _ | run _ | step _ | advance _ | select _ _ => cases tour

/-- Two tutors that differ in marks only react alike to what a learner asks for. -/
theorem untoured_perform_eq {left right : Tutor} (same : left.untoured = right.untoured)
    {action : Action} (learner : action.isTourStep = false) :
    (left.perform action).untoured = (right.perform action).untoured := by
  rw [← perform_untoured left learner, same, perform_untoured right learner]

/-- The reactions to a learner are those of the run in which no tour takes a step. -/
theorem filter_transcript {left right : Tutor} (same : left.untoured = right.untoured)
    (actions : List Action) :
    ((left.transcript actions).filter fun entry => !entry.1.isTourStep).map
        (fun entry => (entry.1, entry.2.untoured)) =
      (right.transcript (actions.filter fun action => !action.isTourStep)).map
        fun entry => (entry.1, entry.2.untoured) := by
  -- The run with tours moves on alone over their steps, so the two tutors vary apart.
  induction actions generalizing left right with
  | nil => rfl
  | cons action rest ih =>
      cases tour : action.isTourStep with
      | true =>
          have unchanged := (left.untoured_perform_of_isTourStep tour).1
          rw [transcript, List.filter_cons_of_neg (by simp [tour]),
            List.filter_cons_of_neg (by simp [tour])]
          exact ih (unchanged.trans same)
      | false =>
          have reactions := untoured_perform_eq same tour
          have next : (left.perform action).tutor.untoured = (right.perform action).tutor.untoured :=
            congrArg Reaction.tutor reactions
          rw [transcript, List.filter_cons_of_pos (by simp [tour]),
            List.filter_cons_of_pos (by simp [tour]), transcript, List.map_cons, List.map_cons,
            reactions, ih next]

theorem untoured_after {left right : Tutor} (same : left.untoured = right.untoured)
    (actions : List Action) :
    (left.after actions).untoured =
      (right.after (actions.filter fun action => !action.isTourStep)).untoured := by
  induction actions generalizing left right with
  | nil => exact same
  | cons action rest ih =>
      rw [after_cons]
      cases tour : action.isTourStep with
      | true =>
          have unchanged := (left.untoured_perform_of_isTourStep tour).1
          rw [List.filter_cons_of_neg (by simp [tour])]
          exact ih (unchanged.trans same)
      | false =>
          rw [List.filter_cons_of_pos (by simp [tour]), after_cons]
          exact ih (congrArg Reaction.tutor (untoured_perform_eq same tour))

/-- The notices of a run, each with the action that sent it. -/
def sentBy (tutor : Tutor) (actions : List Action) : List (Action × Notice) :=
  (tutor.transcript actions).flatMap fun entry =>
    entry.2.notices.map fun notice => (entry.1, notice)

private def isTourHighlight (sent : Action × Notice) : Bool :=
  sent.1.isTourStep && sent.2.isHighlight

private theorem filter_sent_of_tour {action : Action} (tour : action.isTourStep = true)
    {notices : List Notice} (highlights : ∀ notice ∈ notices, notice.isHighlight = true) :
    (notices.map fun notice => (action, notice)).filter (fun sent => !isTourHighlight sent) = [] := by
  rw [List.filter_eq_nil_iff]
  intro sent member
  obtain ⟨notice, present, rfl⟩ := List.mem_map.mp member
  simp [isTourHighlight, tour, highlights notice present]

private theorem filter_sent_of_learner {action : Action} (learner : action.isTourStep = false)
    (notices : List Notice) :
    (notices.map fun notice => (action, notice)).filter (fun sent => !isTourHighlight sent) =
      notices.map fun notice => (action, notice) := by
  rw [List.filter_eq_self]
  intro sent member
  obtain ⟨notice, _present, rfl⟩ := List.mem_map.mp member
  simp [isTourHighlight, learner]

/-- Without the highlights of tours, what is sent is what the learner's actions send. -/
theorem filter_sentBy (tutor : Tutor) (actions : List Action) :
    ((tutor.sentBy actions).filter fun sent => !isTourHighlight sent).map Prod.snd =
      ((tutor.transcript actions).filter fun entry => !entry.1.isTourStep).flatMap
        fun entry => entry.2.notices := by
  induction actions generalizing tutor with
  | nil => rfl
  | cons action rest ih =>
      have later := ih (tutor.perform action).tutor
      unfold sentBy at later ⊢
      rw [transcript, List.flatMap_cons, List.filter_append, List.map_append, later]
      cases tour : action.isTourStep with
      | true =>
          have highlights := (tutor.untoured_perform_of_isTourStep tour).2
          rw [filter_sent_of_tour tour highlights, List.filter_cons_of_neg (by simp [tour])]
          rfl
      | false =>
          rw [filter_sent_of_learner tour, List.map_map, List.filter_cons_of_pos (by simp [tour]),
            List.flatMap_cons]
          exact congrArg (· ++ _) (List.map_id _)

/-- The steps of tours can be erased from any run.  The learner's actions get the same answers, the
lessons are the same afterwards but for the marks of tours, and the display is told the same, but
for the highlights that the tours moved. -/
theorem learner_unaffected_by_tours (tutor : Tutor) (actions : List Action) :
    let own := actions.filter fun action => !action.isTourStep
    (((tutor.transcript actions).filter fun entry => !entry.1.isTourStep).map
        fun entry => (entry.1, entry.2.answer)) =
      ((tutor.transcript own).map fun entry => (entry.1, entry.2.answer)) ∧
    (tutor.after actions).stepping = (tutor.after own).stepping ∧
    (∀ kind,
      ((tutor.after actions).lesson kind).script = ((tutor.after own).lesson kind).script ∧
      ((tutor.after actions).lesson kind).playhead = ((tutor.after own).lesson kind).playhead ∧
      ((tutor.after actions).lesson kind).highlight = ((tutor.after own).lesson kind).highlight) ∧
    (((tutor.sentBy actions).filter fun sent =>
        !(sent.1.isTourStep && sent.2.isHighlight)).map Prod.snd) = tutor.noticesOf own := by
  intro own
  have reactions := filter_transcript (rfl : tutor.untoured = tutor.untoured) actions
  have tutors := untoured_after (rfl : tutor.untoured = tutor.untoured) actions
  refine ⟨?_, ?_, ?_, ?_⟩
  · have answers := congrArg (List.map fun entry => (entry.1, entry.2.answer)) reactions
    rw [List.map_map, List.map_map] at answers
    exact answers
  · rw [← stepping_untoured, tutors, stepping_untoured]
  · intro kind
    apply LessonState.fields_eq_of_untoured_eq
    rw [← lesson_untoured, tutors, lesson_untoured]
  · have notices := congrArg (List.flatMap fun entry => entry.2.notices) reactions
    rw [List.flatMap_map, List.flatMap_map] at notices
    exact (filter_sentBy tutor actions).trans notices

end Tutor
end LoopLesson
