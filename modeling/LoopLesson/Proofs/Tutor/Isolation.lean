import LoopLesson.Proofs.Tutor.Locality

/-!
What the other lessons can do to a lesson.

A run is compared with the run in which nothing is aimed at the other lessons.  The lesson keeps the
same script and the same mark of a tour in both, and answers alike, with one exception: an action
aimed elsewhere may give up the lesson while it is stepped through.  Until the next step that
succeeds, its advances then reveal nothing where the other run would still reveal a frame.
-/

namespace LoopLesson
namespace Tutor

/-- A lesson in two tutors.  The second may still step through it where the first has given it up,
but not the other way round. -/
structure Trails (kind : LoopKind) (full apart : Tutor) : Prop where
  script : (full.lesson kind).script = (apart.lesson kind).script
  touring : (full.lesson kind).touring = (apart.lesson kind).touring
  sequence : full.stepping = some kind →
    apart.stepping = some kind ∧ (full.lesson kind).playhead = (apart.lesson kind).playhead

namespace Trails

variable {kind : LoopKind} {full apart : Tutor}

theorem refl (tutor : Tutor) : Trails kind tutor tutor :=
  ⟨rfl, rfl, fun owner => ⟨owner, rfl⟩⟩

theorem cancel (trails : Trails kind full apart) : Trails kind full.cancel.1 apart.cancel.1 where
  script := by
    rw [script_cancel, script_cancel]
    exact trails.script
  touring := by
    rw [touring_cancel, touring_cancel]
    exact trails.touring
  sequence := by
    intro owner
    rw [stepping_cancel] at owner
    cases owner

theorem modify (trails : Trails kind full apart) (change : LessonState → LessonState)
    (scripts : ∀ left right : LessonState, left.script = right.script →
      (change left).script = (change right).script)
    (marks : ∀ left right : LessonState, left.touring = right.touring →
      (change left).touring = (change right).touring)
    (playheads : ∀ left right : LessonState, left.playhead = right.playhead →
      (change left).playhead = (change right).playhead) :
    Trails kind (full.modify kind change) (apart.modify kind change) where
  script := by
    rw [lesson_modify_self, lesson_modify_self]
    exact scripts _ _ trails.script
  touring := by
    rw [lesson_modify_self, lesson_modify_self]
    exact marks _ _ trails.touring
  sequence := by
    intro owner
    rw [stepping_modify] at owner
    obtain ⟨stillOwner, place⟩ := trails.sequence owner
    rw [stepping_modify, lesson_modify_self, lesson_modify_self]
    exact ⟨stillOwner, playheads _ _ place⟩

theorem modify_highlight (trails : Trails kind full apart) (highlight : Option Part) :
    Trails kind (full.modify kind fun lesson => { lesson with highlight })
      (apart.modify kind fun lesson => { lesson with highlight }) :=
  trails.modify _ (fun _left _right same => same) (fun _left _right same => same)
    (fun _left _right same => same)

theorem modify_touring (trails : Trails kind full apart) (touring : Bool) :
    Trails kind (full.modify kind fun lesson => { lesson with touring })
      (apart.modify kind fun lesson => { lesson with touring }) :=
  trails.modify _ (fun _left _right same => same) (fun _left _right _same => rfl)
    (fun _left _right same => same)

theorem run (trails : Trails kind full apart) :
    Trails kind (full.run kind).tutor (apart.run kind).tutor := by
  have unlit := trails.cancel.modify_highlight none
  cases plays : kind.play (full.lesson kind).script with
  | error fault =>
      rw [run_of_error plays, run_of_error (trails.script ▸ plays)]
      exact unlit
  | ok playback =>
      rw [run_of_ok plays, run_of_ok (trails.script ▸ plays)]
      exact unlit

theorem step (trails : Trails kind full apart) :
    Trails kind (full.step kind).tutor (apart.step kind).tutor := by
  cases plays : kind.play (full.lesson kind).script with
  | error fault =>
      rw [step_of_error plays, step_of_error (trails.script ▸ plays)]
      exact trails.cancel.modify_highlight none
  | ok playback =>
      have begun := trails.cancel.modify
        (fun lesson => { lesson with highlight := none, playhead := some (.atStart playback) })
        (fun _left _right same => same) (fun _left _right same => same)
        (fun _left _right _same => rfl)
      rw [step_of_ok plays, step_of_ok (trails.script ▸ plays)]
      constructor
      · have scripts := begun.script
        cases kind <;> exact scripts
      · have marks := begun.touring
        cases kind <;> exact marks
      · intro _owner
        refine ⟨rfl, ?_⟩
        cases kind <;> rfl

theorem advance (trails : Trails kind full apart) :
    Trails kind (full.advance kind).tutor (apart.advance kind).tutor := by
  obtain ⟨_, _, fullMoved⟩ := full.tutor_advance kind
  obtain ⟨_, _, apartMoved⟩ := apart.tutor_advance kind
  constructor
  · rw [fullMoved, apartMoved, lesson_modify_self, lesson_modify_self]
    exact trails.script
  · rw [fullMoved, apartMoved, lesson_modify_self, lesson_modify_self]
    exact trails.touring
  · intro owner
    rw [fullMoved, stepping_modify] at owner
    obtain ⟨stillOwner, place⟩ := trails.sequence owner
    constructor
    · rw [apartMoved, stepping_modify]
      exact stillOwner
    · rw [playhead_advance_of_owner owner, playhead_advance_of_owner stillOwner, place]

/-- An action that concerns the lesson is made in both runs. -/
theorem perform (trails : Trails kind full apart) {action : Action}
    (concerned : action.concerns kind = true) :
    Trails kind (full.perform action).tutor (apart.perform action).tutor := by
  cases action with
  | cancel => exact trails.cancel
  | edit target part text =>
      obtain rfl := Action.eq_of_concerns concerned rfl
      apply trails.cancel.modify fun lesson =>
        { lesson with script := lesson.script.set part text }
      · intro left right same
        exact congrArg (Script.set · part text) same
      · exact fun _left _right same => same
      · exact fun _left _right same => same
  | load target script =>
      obtain rfl := Action.eq_of_concerns concerned rfl
      exact trails.cancel.modify (fun lesson => { lesson with script })
        (fun _left _right _same => rfl) (fun _left _right same => same)
        (fun _left _right same => same)
  | reset target =>
      obtain rfl := Action.eq_of_concerns concerned rfl
      exact trails.cancel.modify (LessonState.reset target) (fun _left _right _same => rfl)
        (fun _left _right same => same) (fun _left _right _same => rfl)
  | run target =>
      obtain rfl := Action.eq_of_concerns concerned rfl
      exact trails.run
  | step target =>
      obtain rfl := Action.eq_of_concerns concerned rfl
      exact trails.step
  | advance target =>
      obtain rfl := Action.eq_of_concerns concerned rfl
      exact trails.advance
  | select target part =>
      obtain rfl := Action.eq_of_concerns concerned rfl
      exact trails.modify_highlight (some part)
  | beginTour target =>
      obtain rfl := Action.eq_of_concerns concerned rfl
      simp only [Tutor.perform]
      rw [tutor_beginTour, tutor_beginTour]
      exact trails.modify_touring true
  | showTourFrame target part => exact trails
  | finishTour target =>
      obtain rfl := Action.eq_of_concerns concerned rfl
      exact trails.modify_touring false

theorem perform_elsewhere (trails : Trails kind full apart) {action : Action}
    (elsewhere : action.concerns kind = false) : Trails kind (full.perform action).tutor apart := by
  have lesson := full.lesson_perform_elsewhere elsewhere
  cases quiet : action.isQuiet with
  | true =>
      rw [if_pos quiet] at lesson
      have stepping := full.stepping_perform_of_quiet quiet
      refine ⟨?_, ?_, ?_⟩
      · rw [lesson]
        exact trails.script
      · rw [lesson]
        exact trails.touring
      · intro owner
        rw [lesson]
        exact trails.sequence (stepping.symm.trans owner)
  | false =>
      rw [if_neg (by simp [quiet])] at lesson
      refine ⟨?_, ?_, ?_⟩
      · rw [lesson, script_cancel]
        exact trails.script
      · rw [lesson, touring_cancel]
        exact trails.touring
      · intro owner
        exfalso
        rcases full.stepping_perform_of_not_quiet quiet with idle | ⟨target, _, rfl, _, begun⟩
        · rw [idle] at owner
          cases owner
        · rw [begun] at owner
          exact Action.ne_of_not_concerns elsewhere rfl (Option.some.inj owner).symm

/-- Apart from advances, the answers about a lesson depend on its script and its mark only. -/
theorem answer_perform (trails : Trails kind full apart) {action : Action}
    (concerned : action.concerns kind = true) (notAdvance : action ≠ .advance kind) :
    (full.perform action).answer = (apart.perform action).answer := by
  cases action with
  | run target =>
      obtain rfl := Action.eq_of_concerns concerned rfl
      simp only [Tutor.perform]
      cases plays : target.play (full.lesson target).script with
      | error fault => rw [run_of_error plays, run_of_error (trails.script ▸ plays)]; rfl
      | ok playback => rw [run_of_ok plays, run_of_ok (trails.script ▸ plays)]
  | step target =>
      obtain rfl := Action.eq_of_concerns concerned rfl
      simp only [Tutor.perform]
      cases plays : target.play (full.lesson target).script with
      | error fault => rw [step_of_error plays, step_of_error (trails.script ▸ plays)]; rfl
      | ok playback => rw [step_of_ok plays, step_of_ok (trails.script ▸ plays)]
  | advance target =>
      obtain rfl := Action.eq_of_concerns concerned rfl
      exact absurd rfl notAdvance
  | beginTour target =>
      obtain rfl := Action.eq_of_concerns concerned rfl
      rw [answer_beginTour, answer_beginTour, trails.touring]
  | cancel | edit _ _ _ | load _ _ | reset _ | select _ _ | showTourFrame _ _ | finishTour _ => rfl

end Trails

/-- An action aimed at another lesson gave up what was stepped through of this one, and no step of
it has succeeded since. -/
def LostSequence (tutor : Tutor) (kind : LoopKind) (earlier : List Action) : Prop :=
  ∃ before cancelling since,
    earlier = before ++ cancelling :: since ∧
    cancelling.concerns kind = false ∧
    (tutor.after before).stepping = some kind ∧
    (tutor.after (before ++ [cancelling])).stepping ≠ some kind ∧
    ∀ entry ∈ (tutor.after (before ++ [cancelling])).transcript since,
      entry.1 = .step kind → ∃ fault, entry.2.answer = .refused fault

theorem LostSequence.concat {tutor : Tutor} {kind : LoopKind} {earlier : List Action}
    (lost : tutor.LostSequence kind earlier) {action : Action} (other : action ≠ .step kind) :
    tutor.LostSequence kind (earlier ++ [action]) := by
  obtain ⟨before, cancelling, since, rfl, elsewhere, owner, givenUp, failing⟩ := lost
  refine ⟨before, cancelling, since ++ [action], by simp, elsewhere, owner, givenUp, ?_⟩
  intro entry member asked
  rw [transcript_concat, List.mem_append] at member
  rcases member with earlier | last
  · exact failing entry earlier asked
  · cases List.mem_singleton.mp last
    exact absurd asked other

section Runs

variable (tutor : Tutor) (kind : LoopKind)

theorem trails_after (earlier : List Action) :
    Trails kind (tutor.after earlier)
      (tutor.after (earlier.filter fun action => action.concerns kind)) := by
  induction earlier using List.reverseRecOn with
  | nil => exact Trails.refl tutor
  | append_singleton earlier action ih =>
      rw [after_concat, List.filter_append]
      cases concerned : action.concerns kind with
      | true =>
          rw [List.filter_cons_of_pos concerned, List.filter_nil, after_concat]
          exact ih.perform concerned
      | false =>
          rw [List.filter_cons_of_neg (by simp [concerned]), List.filter_nil, List.append_nil]
          exact ih.perform_elsewhere concerned

/-- Where only the run apart still steps through the lesson, the full run lost it. -/
theorem lostSequence_of_stepping (earlier : List Action)
    (given : (tutor.after earlier).stepping ≠ some kind)
    (kept : (tutor.after (earlier.filter fun action => action.concerns kind)).stepping = some kind) :
    tutor.LostSequence kind earlier := by
  induction earlier using List.reverseRecOn with
  | nil => exact absurd kept given
  | append_singleton earlier action ih =>
      have trails := trails_after tutor kind earlier
      rw [List.filter_append] at kept
      cases concerned : action.concerns kind with
      | true =>
          rw [List.filter_cons_of_pos concerned, List.filter_nil, after_concat] at kept
          cases quiet : action.isQuiet with
          | true =>
              rw [stepping_perform_of_quiet _ quiet] at kept
              rw [after_concat, stepping_perform_of_quiet _ quiet] at given
              apply (ih given kept).concat
              rintro rfl
              cases quiet
          | false =>
              -- Whatever is stepped through after a loud action was begun by it, in both runs.
              exfalso
              rcases stepping_perform_of_not_quiet _ quiet with idle | ⟨target, playback, rfl, plays, _⟩
              · rw [idle] at kept
                cases kept
              · obtain rfl := Action.eq_of_concerns concerned rfl
                rw [← trails.script] at plays
                apply given
                rw [after_concat]
                simp only [perform]
                rw [step_of_ok plays]
      | false =>
          rw [List.filter_cons_of_neg (by simp [concerned]), List.filter_nil, List.append_nil] at kept
          by_cases owner : (tutor.after earlier).stepping = some kind
          · exact ⟨earlier, action, [], rfl, concerned, owner, given, fun _entry member => by cases member⟩
          · apply (ih owner kept).concat
            rintro rfl
            exact Action.ne_of_not_concerns concerned rfl rfl

/-- At every point of a run, a lesson is as it would be without the actions aimed at the others: its
script and its mark are the same, and so is every answer about it but that of an advance.  An
advance may reveal nothing in place of a frame, but only where one of those actions gave the lesson
up and no step of it has succeeded since. -/
theorem isolated_but_for_giving_up (earlier : List Action) :
    let full := tutor.after earlier
    let apart := tutor.after (earlier.filter fun action => action.concerns kind)
    (full.lesson kind).script = (apart.lesson kind).script ∧
    (full.lesson kind).touring = (apart.lesson kind).touring ∧
    (∀ action, action.concerns kind = true → action ≠ .advance kind →
      (full.perform action).answer = (apart.perform action).answer) ∧
    ((full.perform (.advance kind)).answer = (apart.perform (.advance kind)).answer ∨
      (full.perform (.advance kind)).answer = .revealed none ∧
      (∃ frame, (apart.perform (.advance kind)).answer = .revealed (some frame)) ∧
      tutor.LostSequence kind earlier) := by
  intro full apart
  have trails : Trails kind full apart := trails_after tutor kind earlier
  refine ⟨trails.script, trails.touring, fun _action => trails.answer_perform, ?_⟩
  simp only [perform]
  by_cases owner : full.stepping = some kind
  · left
    obtain ⟨stillOwner, place⟩ := trails.sequence owner
    rw [answer_advance_of_owner owner, answer_advance_of_owner stillOwner, place]
  · rw [advance_of_not_owner owner]
    by_cases stillOwner : apart.stepping = some kind
    · rw [answer_advance_of_owner stillOwner]
      cases next : (apart.lesson kind).playhead.bind fun playhead => playhead.advance.2 with
      | none => exact .inl rfl
      | some frame =>
          exact .inr ⟨rfl, ⟨frame, rfl⟩, lostSequence_of_stepping tutor kind earlier owner stillOwner⟩
    · left
      rw [advance_of_not_owner stillOwner]

end Runs

-- Editing another lesson costs the lesson its next frame, but not what it would show at the end.
theorem edit_elsewhere_gives_up_lesson :
    let actions : List Action := [.step .forLoop, .edit .forEach .start "[1]"]
    let own := actions.filter fun action => action.concerns .forLoop
    ((initial.after actions).perform (.run .forLoop)).answer =
        ((initial.after own).perform (.run .forLoop)).answer ∧
      ((initial.after actions).perform (.advance .forLoop)).answer = .revealed none ∧
      (∃ frame, ((initial.after own).perform (.advance .forLoop)).answer = .revealed (some frame)) ∧
      initial.LostSequence .forLoop actions := by
  intro actions own
  obtain ⟨_, _, answers, advances⟩ := isolated_but_for_giving_up initial .forLoop actions
  refine ⟨answers (.run .forLoop) rfl (by decide), ?_⟩
  rcases advances with same | lost
  · exact absurd same (by decide +kernel)
  · exact lost

end Tutor
end LoopLesson
