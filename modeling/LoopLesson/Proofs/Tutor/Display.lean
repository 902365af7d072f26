import LoopLesson.Proofs.Tutor.Sharing

/-!
What the display shows.

The lesson that is stepped through was rendered last with the view of its playhead, and no fault has
been shown of it since.  The highlight on display is the lesson's own whenever no tour has the
lesson: a learner's actions announce every highlight that they change, and a tour puts the lesson's
highlight back at its end.
-/

namespace LoopLesson
namespace Notice

/-- The highlight that a notice leaves on display; a fault blanks it. -/
def marked : Notice → Option Part
  | .render _ view => view.highlight
  | .fault _ _ => none
  | .highlight _ part => part

/-- The highlight of a lesson on display: that of the last notice about it, none before the
first. -/
def displayed (about : LoopKind) (log : List Notice) : Option Part :=
  (log.filter fun notice => notice.kind = about).getLast?.bind marked

theorem displayed_concat_self (log : List Notice) (notice : Notice) :
    displayed notice.kind (log ++ [notice]) = notice.marked := by
  unfold displayed
  rw [List.filter_append, List.filter_cons_of_pos (by simp), List.filter_nil, List.getLast?_concat]
  rfl

theorem displayed_concat_of_ne (log : List Notice) (notice : Notice) {about : LoopKind}
    (other : notice.kind ≠ about) : displayed about (log ++ [notice]) = displayed about log := by
  unfold displayed
  rw [List.filter_append, List.filter_cons_of_neg (by simpa using other), List.filter_nil,
    List.append_nil]

end Notice

theorem Playhead.highlight_view_advance {playhead moved : Playhead} {frame : Frame}
    (moves : playhead.advance = (moved, some frame)) : moved.view.highlight = frame.highlight := by
  unfold advance at moves
  split at moves
  · cases moves
  · cases moves
    rfl

namespace Tutor

/-- Notices that keep the display in step with the highlights of the lessons. -/
def Announces (before after : Tutor) (notices : List Notice) : Prop :=
  ∀ kind log, Notice.displayed kind log = (before.lesson kind).highlight →
    Notice.displayed kind (log ++ notices) = (after.lesson kind).highlight

theorem Announces.trans {first second third : Tutor} {earlier later : List Notice}
    (begins : Announces first second earlier) (ends : Announces second third later) :
    Announces first third (earlier ++ later) := by
  intro kind log agrees
  rw [← List.append_assoc]
  exact ends kind _ (begins kind log agrees)

theorem announces_modify_of_kept (tutor : Tutor) (target : LoopKind)
    (change : LessonState → LessonState)
    (kept : ∀ lesson, (change lesson).highlight = lesson.highlight) :
    Announces tutor (tutor.modify target change) [] := by
  intro kind log agrees
  rw [List.append_nil, agrees]
  by_cases same : kind = target
  · subst target
    rw [lesson_modify_self, kept]
  · rw [lesson_modify_of_ne tutor same]

theorem announces_modify (tutor : Tutor) (notice : Notice) (change : LessonState → LessonState)
    (told : notice.marked = (change (tutor.lesson notice.kind)).highlight) :
    Announces tutor (tutor.modify notice.kind change) [notice] := by
  intro kind log agrees
  by_cases same : kind = notice.kind
  · subst kind
    rw [lesson_modify_self, Notice.displayed_concat_self, told]
  · rw [lesson_modify_of_ne tutor same, Notice.displayed_concat_of_ne log notice (Ne.symm same)]
    exact agrees

theorem announces_cancel (tutor : Tutor) : Announces tutor tutor.cancel.1 tutor.cancel.2 := by
  unfold cancel
  cases tutor.stepping with
  | none =>
      intro kind log agrees
      rw [List.append_nil]
      exact agrees
  | some kind =>
      have blanked := announces_modify tutor (.render kind .blank) LessonState.cleared rfl
      intro other log agrees
      have shown := blanked other log agrees
      cases other <;> exact shown

theorem announces_refuse (tutor : Tutor) (kind : LoopKind) (fault : LessonFault) :
    Announces tutor (tutor.cancel.1.refuse kind tutor.cancel.2 fault).tutor
      (tutor.cancel.1.refuse kind tutor.cancel.2 fault).notices :=
  tutor.announces_cancel.trans
    (announces_modify tutor.cancel.1 (.fault kind fault.message)
      (fun lesson => { lesson with highlight := none }) rfl)

theorem announces_run (tutor : Tutor) (kind : LoopKind) :
    Announces tutor (tutor.run kind).tutor (tutor.run kind).notices := by
  cases plays : kind.play (tutor.lesson kind).script with
  | error fault =>
      rw [run_of_error plays]
      exact tutor.announces_refuse kind fault
  | ok playback =>
      rw [run_of_ok plays]
      exact tutor.announces_cancel.trans
        (announces_modify tutor.cancel.1 (.render kind (finalView playback))
          (fun lesson => { lesson with highlight := none }) rfl)

theorem announces_step (tutor : Tutor) (kind : LoopKind) :
    Announces tutor (tutor.step kind).tutor (tutor.step kind).notices := by
  cases plays : kind.play (tutor.lesson kind).script with
  | error fault =>
      rw [step_of_error plays]
      exact tutor.announces_refuse kind fault
  | ok playback =>
      rw [step_of_ok plays]
      have begun := tutor.announces_cancel.trans
        (announces_modify tutor.cancel.1 (.render kind .blank)
          (fun lesson => { lesson with highlight := none, playhead := some (.atStart playback) }) rfl)
      intro other log agrees
      have shown := begun other log agrees
      cases other <;> exact shown

theorem announces_advance (tutor : Tutor) (kind : LoopKind) :
    Announces tutor (tutor.advance kind).tutor (tutor.advance kind).notices := by
  have nothing : Announces tutor tutor [] := by
    intro other log agrees
    rw [List.append_nil]
    exact agrees
  unfold advance
  split
  · split
    · exact nothing
    · split
      · exact nothing
      · rename_i moved frame moves
        exact announces_modify tutor (.render kind moved.view)
          (fun lesson => { lesson with highlight := frame.highlight, playhead := some moved })
          (Playhead.highlight_view_advance moves)
  · exact nothing

/-- Every highlight that a learner's action changes is announced. -/
theorem announces_perform_of_learner (tutor : Tutor) {action : Action}
    (learner : action.isTourStep = false) :
    Announces tutor (tutor.perform action).tutor (tutor.perform action).notices := by
  have given := tutor.announces_cancel
  cases action with
  | cancel => exact given
  | edit kind part text =>
      have changed := given.trans (announces_modify_of_kept tutor.cancel.1 kind
        (fun lesson => { lesson with script := lesson.script.set part text }) fun _lesson => rfl)
      rw [List.append_nil] at changed
      exact changed
  | load kind script =>
      have changed := given.trans (announces_modify_of_kept tutor.cancel.1 kind
        (fun lesson => { lesson with script }) fun _lesson => rfl)
      rw [List.append_nil] at changed
      exact changed
  | reset kind =>
      exact given.trans
        (announces_modify tutor.cancel.1 (.render kind .blank) (LessonState.reset kind) rfl)
  | run kind => exact tutor.announces_run kind
  | step kind => exact tutor.announces_step kind
  | advance kind => exact tutor.announces_advance kind
  | select kind part =>
      exact announces_modify tutor (.highlight kind (some part))
        (fun lesson => { lesson with highlight := some part }) rfl
  | beginTour _ | showTourFrame _ _ | finishTour _ => cases learner

/-- The last notice of a lesson that is stepped through, apart from moves of the highlight, is the
view of its playhead. -/
def Shows (tutor : Tutor) (kind : LoopKind) (log : List Notice) : Prop :=
  ∃ playhead earlier later,
    (tutor.lesson kind).playhead = some playhead ∧
    log = earlier ++ .render kind playhead.view :: later ∧
    ∀ notice ∈ later, notice.kind = kind → notice.isHighlight = true

namespace Shows

variable {tutor : Tutor} {kind : LoopKind} {log : List Notice}

theorem append (display : tutor.Shows kind log) {after : Tutor} {notices : List Notice}
    (place : (after.lesson kind).playhead = (tutor.lesson kind).playhead)
    (highlights : ∀ notice ∈ notices, notice.kind = kind → notice.isHighlight = true) :
    after.Shows kind (log ++ notices) := by
  obtain ⟨playhead, earlier, later, stands, rfl, quiet⟩ := display
  refine ⟨playhead, earlier, later ++ notices, place.trans stands, by simp, ?_⟩
  intro notice member about
  rcases List.mem_append.mp member with old | new
  · exact quiet notice old about
  · exact highlights notice new about

theorem advance (display : tutor.Shows kind log) (owner : tutor.stepping = some kind) :
    (tutor.advance kind).tutor.Shows kind (log ++ (tutor.advance kind).notices) := by
  have ⟨playhead, _, _, stands, _, _⟩ := display
  unfold Tutor.advance
  rw [if_pos owner, stands]
  simp only
  split
  · exact display.append rfl fun _notice member => by cases member
  · rename_i moved frame moves
    refine ⟨moved, log, [], ?_, rfl, fun _notice member => by cases member⟩
    rw [lesson_modify_self]

end Shows

theorem shows_step_of_ok {tutor : Tutor} {kind : LoopKind} {playback : Playback}
    (plays : kind.play (tutor.lesson kind).script = .ok playback) (log : List Notice) :
    (tutor.step kind).tutor.Shows kind (log ++ (tutor.step kind).notices) := by
  rw [step_of_ok plays]
  refine ⟨.atStart playback, log ++ tutor.cancel.2, [], ?_, ?_, fun _notice member => by cases member⟩
  · cases kind <;> rfl
  · rw [List.append_assoc]
    rfl

/-- Whatever is done, the lesson that is stepped through is shown as its playhead has it. -/
theorem shows_perform {tutor : Tutor} {log : List Notice}
    (display : ∀ kind, tutor.stepping = some kind → tutor.Shows kind log) (action : Action)
    {kind : LoopKind} (owner : (tutor.perform action).tutor.stepping = some kind) :
    (tutor.perform action).tutor.Shows kind (log ++ (tutor.perform action).notices) := by
  cases quiet : action.isQuiet with
  | true =>
      rw [stepping_perform_of_quiet tutor quiet] at owner
      by_cases same : action = .advance kind
      · subst action
        exact (display kind owner).advance owner
      · exact (display kind owner).append (playhead_perform_of_quiet tutor quiet same)
          fun _notice => isHighlight_of_quiet tutor quiet same
  | false =>
      rcases stepping_perform_of_not_quiet tutor quiet with idle | ⟨begun, playback, rfl, plays, now⟩
      · rw [idle] at owner
        cases owner
      · rw [now] at owner
        cases owner
        exact shows_step_of_ok plays log

/-- A step of a tour shows nothing of the other lessons. -/
theorem displayed_of_tour_elsewhere {tutor : Tutor} {kind : LoopKind} {log : List Notice}
    {action : Action} (tour : action.isTourStep = true) (elsewhere : action.concerns kind = false)
    (agrees : Notice.displayed kind log = (tutor.lesson kind).highlight) :
    Notice.displayed kind (log ++ (tutor.perform action).notices) =
      ((tutor.perform action).tutor.lesson kind).highlight := by
  rw [lesson_perform_elsewhere tutor elsewhere]
  cases action with
  | beginTour target =>
      simp only [perform]
      rw [notices_beginTour, List.append_nil]
      exact agrees
  | showTourFrame target part =>
      have silent := Notice.displayed_concat_of_ne log (.highlight target part)
        (Action.ne_of_not_concerns elsewhere rfl).symm
      exact silent.trans agrees
  | finishTour target =>
      have silent := Notice.displayed_concat_of_ne log
        (.highlight target (tutor.lesson target).highlight)
        (Action.ne_of_not_concerns elsewhere rfl).symm
      exact silent.trans agrees
  | cancel | edit _ _ _ | load _ _ | reset _ | run _ | step _ | advance _ | select _ _ => cases tour

namespace Shared

variable {tutor : Tutor} {held : Nat → Option LoopKind} {log : List Notice}

theorem shows_of_stepping (shared : Shared tutor held log) {kind : LoopKind}
    (owner : tutor.stepping = some kind) : tutor.Shows kind log := by
  induction shared generalizing kind with
  | opening => cases owner
  | learner before action own ih => exact shows_perform (fun _kind => ih) action owner
  | claim before claimed number granted free ih =>
      exact shows_perform (fun _kind => ih) (.beginTour claimed) owner
  | denied before claimed refused ih =>
      exact shows_perform (fun _kind => ih) (.beginTour claimed) owner
  | frame before holds part ih => exact shows_perform (fun _kind => ih) _ owner
  | release before holds ih => exact shows_perform (fun _kind => ih) _ owner

/-- The highlight on display is the lesson's own while no tour has the lesson. -/
theorem displayed_eq (shared : Shared tutor held log) {kind : LoopKind}
    (untoured : (tutor.lesson kind).touring = false) :
    Notice.displayed kind log = (tutor.lesson kind).highlight := by
  induction shared generalizing kind with
  | opening => cases kind <;> rfl
  | learner before action own ih =>
      rw [touring_perform_of_learner _ kind own] at untoured
      exact announces_perform_of_learner _ own kind _ (ih untoured)
  | claim before claimed number granted free ih =>
      rw [touring_beginTour, Bool.or_eq_false_iff, decide_eq_false_iff_not] at untoured
      exact displayed_of_tour_elsewhere rfl (Action.not_concerns_of_ne untoured.1 rfl)
        (ih untoured.2)
  | denied before claimed refused ih =>
      rw [touring_beginTour, Bool.or_eq_false_iff, decide_eq_false_iff_not] at untoured
      exact displayed_of_tour_elsewhere rfl (Action.not_concerns_of_ne untoured.1 rfl)
        (ih untoured.2)
  | @frame tutor held log toured number before holds part ih =>
      -- The tour holds its lesson, so the lesson is marked and this one is another.
      have different : kind ≠ toured := by
        rintro rfl
        have marked := (before.occupied.marked kind).mpr ⟨number, holds⟩
        cases marked.symm.trans untoured
      exact displayed_of_tour_elsewhere rfl (Action.not_concerns_of_ne different rfl) (ih untoured)
  | @release tutor held log toured number before holds ih =>
      by_cases same : kind = toured
      · subst kind
        simp only [perform]
        rw [tutor_finishTour, lesson_modify_self]
        exact Notice.displayed_concat_self log (.highlight toured (tutor.lesson toured).highlight)
      · rw [touring_finishTour, decide_eq_false same, Bool.not_false, Bool.true_and] at untoured
        exact displayed_of_tour_elsewhere rfl (Action.not_concerns_of_ne same rfl) (ih untoured)

end Shared

/-- However learners and tours share a tutor, the display does not drift from the lessons.  What was
rendered last of the lesson that is stepped through is the view of its playhead, with nothing but
highlights after it, and a lesson without a tour has its own highlight on display. -/
theorem display_follows_lessons {tutor : Tutor} {held : Nat → Option LoopKind} {log : List Notice}
    (shared : Shared tutor held log) (kind : LoopKind) :
    (tutor.stepping = some kind →
      ∃ playhead earlier later,
        (tutor.lesson kind).playhead = some playhead ∧
        log = earlier ++ .render kind playhead.view :: later ∧
        ∀ notice ∈ later, notice.kind = kind → notice.isHighlight = true) ∧
    ((tutor.lesson kind).touring = false →
      Notice.displayed kind log = (tutor.lesson kind).highlight) := by
  constructor
  · intro owner
    exact shared.shows_of_stepping owner
  · intro untoured
    exact shared.displayed_eq untoured

theorem display_after_tour_of_stepped_lesson :
    ∃ (tutor : Tutor) (held : Nat → Option LoopKind) (log : List Notice) (playhead : Playhead),
      Shared tutor held log ∧
      tutor.stepping = some .forLoop ∧
      (tutor.lesson .forLoop).playhead = some playhead ∧
      .render .forLoop playhead.view ∈ log ∧
      Notice.displayed .forLoop log = some .start := by
  have stepped := Shared.opening.learner (.step .forLoop) rfl
  have claimed := stepped.claim .forLoop 0 (by decide +kernel) rfl
  have advanced := claimed.learner (.advance .forLoop) rfl
  have holds : (Function.update (fun _number => none) 0 (some .forLoop) : Nat → Option LoopKind) 0 =
      some .forLoop := rfl
  have framed := advanced.frame holds (some .body)
  have released := framed.release holds
  obtain ⟨rendered, highlighted⟩ := display_follows_lessons released .forLoop
  obtain ⟨playhead, earlier, later, place, split, _⟩ := rendered (by decide +kernel)
  refine ⟨_, _, _, playhead, released, by decide +kernel, place, ?_, ?_⟩
  · rw [split]
    exact List.mem_append_right earlier List.mem_cons_self
  · exact (highlighted (by decide +kernel)).trans (by decide +kernel)

end Tutor
end LoopLesson
