import LoopLesson.Proofs.Tutor.Reactions
import LoopLesson.Proofs.Tutor.Runs

/-!
Who owns the playhead.

A lesson has a playhead exactly while it is the one that is stepped through, and its playhead stands
in the playback of the script that the lesson has now.  No run of actions breaks this, whatever it
edits, loads, resets or fails to play.  So advancing a lesson reveals the next event of what running
it would play.
-/

namespace LoopLesson

/-- A lesson with a playhead at some place of the playback of its own script. -/
def LessonState.IsStepped (kind : LoopKind) (lesson : LessonState) : Prop :=
  ∃ playback position,
    kind.play lesson.script = .ok playback ∧ position ≤ playback.events.length ∧
      lesson.playhead = some (.upTo playback position)

namespace Tutor

/-- The lesson that is stepped through has a playhead in its own playback, and no other lesson has
one. -/
structure Coherent (tutor : Tutor) : Prop where
  stepped : ∀ kind, tutor.stepping = some kind → (tutor.lesson kind).IsStepped kind
  others : ∀ kind, tutor.stepping ≠ some kind → (tutor.lesson kind).playhead = none

structure Idle (tutor : Tutor) : Prop where
  unowned : tutor.stepping = none
  noPlayhead : ∀ kind, (tutor.lesson kind).playhead = none

theorem Idle.coherent {tutor : Tutor} (idle : tutor.Idle) : tutor.Coherent where
  stepped := by
    intro kind owner
    rw [idle.unowned] at owner
    cases owner
  others := fun kind _notOwner => idle.noPlayhead kind

theorem idle_initial : initial.Idle where
  unowned := rfl
  noPlayhead := by
    intro kind
    cases kind <;> rfl

/-- A change of one lesson that brings no playhead leaves nothing stepped through. -/
theorem Idle.modify {tutor : Tutor} (idle : tutor.Idle) (kind : LoopKind)
    {change : LessonState → LessonState}
    (brings : ∀ lesson, lesson.playhead = none → (change lesson).playhead = none) :
    (tutor.modify kind change).Idle where
  unowned := by
    rw [stepping_modify]
    exact idle.unowned
  noPlayhead := by
    intro other
    by_cases same : other = kind
    · subst other
      rw [lesson_modify_self]
      exact brings _ (idle.noPlayhead kind)
    · rw [lesson_modify_of_ne tutor same]
      exact idle.noPlayhead other

theorem Idle.refuse {tutor : Tutor} (idle : tutor.Idle) (kind : LoopKind) (notices : List Notice)
    (fault : LessonFault) : (tutor.refuse kind notices fault).tutor.Idle := by
  rw [tutor_refuse]
  exact idle.modify kind fun _lesson missing => missing

namespace Coherent

variable {tutor : Tutor}

theorem idle_cancel (coherent : tutor.Coherent) : tutor.cancel.1.Idle where
  unowned := stepping_cancel tutor
  noPlayhead := by
    intro kind
    by_cases owner : tutor.stepping = some kind
    · rw [lesson_cancel_of_owner owner]
      rfl
    · rw [lesson_cancel_of_not_owner owner]
      exact coherent.others kind owner

/-- A change of one lesson that keeps its script and its playhead keeps a tutor coherent. -/
theorem modify (coherent : tutor.Coherent) (kind : LoopKind) {change : LessonState → LessonState}
    (script : ∀ lesson, (change lesson).script = lesson.script)
    (playhead : ∀ lesson, (change lesson).playhead = lesson.playhead) :
    (tutor.modify kind change).Coherent where
  stepped := by
    intro other owner
    rw [stepping_modify] at owner
    obtain ⟨playback, position, plays, within, place⟩ := coherent.stepped other owner
    by_cases same : other = kind
    · subst other
      refine ⟨playback, position, ?_, within, ?_⟩
      · rw [lesson_modify_self, script]
        exact plays
      · rw [lesson_modify_self, playhead]
        exact place
    · rw [lesson_modify_of_ne tutor same]
      exact ⟨playback, position, plays, within, place⟩
  others := by
    intro other notOwner
    rw [stepping_modify] at notOwner
    by_cases same : other = kind
    · subst other
      rw [lesson_modify_self, playhead]
      exact coherent.others kind notOwner
    · rw [lesson_modify_of_ne tutor same]
      exact coherent.others other notOwner

theorem run (coherent : tutor.Coherent) (kind : LoopKind) : (tutor.run kind).tutor.Coherent := by
  have idle := coherent.idle_cancel
  cases plays : kind.play (tutor.lesson kind).script with
  | error fault =>
      rw [run_of_error plays]
      exact (idle.refuse kind tutor.cancel.2 fault).coherent
  | ok playback =>
      rw [run_of_ok plays]
      apply Idle.coherent
      change (tutor.cancel.1.modify kind fun lesson => { lesson with highlight := none }).Idle
      exact idle.modify kind fun _lesson missing => missing

theorem begin_stepping {kind : LoopKind} {playback : Playback} (idle : tutor.Idle)
    (plays : kind.play (tutor.lesson kind).script = .ok playback) :
    Coherent
      { tutor.modify kind fun lesson =>
          { lesson with highlight := none, playhead := some (.atStart playback) } with
        stepping := some kind } where
  stepped := by
    intro other owner
    have same : kind = other := Option.some.inj owner
    subst other
    refine ⟨playback, 0, ?_, Nat.zero_le _, ?_⟩
    · cases kind <;> exact plays
    · cases kind <;> rfl
  others := by
    intro other notOwner
    have different : other ≠ kind := by
      intro same
      subst other
      exact notOwner rfl
    have kept := lesson_modify_of_ne tutor different fun lesson =>
      { lesson with highlight := none, playhead := some (.atStart playback) }
    have missing := idle.noPlayhead other
    rw [← kept] at missing
    cases other <;> exact missing

theorem step (coherent : tutor.Coherent) (kind : LoopKind) : (tutor.step kind).tutor.Coherent := by
  have idle := coherent.idle_cancel
  cases plays : kind.play (tutor.lesson kind).script with
  | error fault =>
      rw [step_of_error plays]
      exact (idle.refuse kind tutor.cancel.2 fault).coherent
  | ok playback =>
      rw [step_of_ok plays]
      rw [← script_cancel] at plays
      exact begin_stepping idle plays

theorem move {kind : LoopKind} {playback : Playback} {position : Nat} (coherent : tutor.Coherent)
    (owner : tutor.stepping = some kind)
    (plays : kind.play (tutor.lesson kind).script = .ok playback)
    (within : position ≤ playback.events.length) (highlight : Option Part) :
    (tutor.modify kind fun lesson =>
      { lesson with highlight, playhead := some (.upTo playback position) }).Coherent where
  stepped := by
    intro other stillOwner
    rw [stepping_modify, owner] at stillOwner
    have same : kind = other := Option.some.inj stillOwner
    subst other
    refine ⟨playback, position, ?_, within, ?_⟩
    · rw [lesson_modify_self]
      exact plays
    · rw [lesson_modify_self]
  others := by
    intro other notOwner
    rw [stepping_modify] at notOwner
    have different : other ≠ kind := by
      intro same
      subst other
      exact notOwner owner
    rw [lesson_modify_of_ne tutor different]
    exact coherent.others other notOwner

theorem advance (coherent : tutor.Coherent) (kind : LoopKind) :
    (tutor.advance kind).tutor.Coherent := by
  by_cases owner : tutor.stepping = some kind
  · obtain ⟨playback, position, plays, within, place⟩ := coherent.stepped kind owner
    by_cases left : position < playback.events.length
    · obtain ⟨frame, next⟩ := playback.frame?_of_lt left
      rw [advance_of_lt owner place next]
      exact coherent.move owner plays left frame.highlight
    · rw [advance_of_le owner place (Nat.le_of_not_lt left)]
      exact coherent
  · rw [advance_of_not_owner owner]
    exact coherent

/-- Every action keeps a tutor coherent, whether it succeeds or not. -/
theorem perform (coherent : tutor.Coherent) (action : Action) :
    (tutor.perform action).tutor.Coherent := by
  -- Whatever changes a script gives up first what is stepped through.
  have idle := coherent.idle_cancel
  cases action with
  | cancel => exact idle.coherent
  | edit kind part text =>
      change (tutor.edit kind part text).tutor.Coherent
      rw [tutor_edit]
      apply Idle.coherent
      exact idle.modify kind fun _lesson missing => missing
  | load kind script =>
      change (tutor.load kind script).tutor.Coherent
      rw [tutor_load]
      apply Idle.coherent
      exact idle.modify kind fun _lesson missing => missing
  | reset kind =>
      change (tutor.reset kind).tutor.Coherent
      rw [tutor_reset]
      apply Idle.coherent
      exact idle.modify kind fun _lesson _missing => rfl
  | run kind => exact coherent.run kind
  | step kind => exact coherent.step kind
  | advance kind => exact coherent.advance kind
  | select kind part =>
      change (tutor.select kind part).tutor.Coherent
      rw [tutor_select]
      exact coherent.modify kind (fun _lesson => rfl) (fun _lesson => rfl)
  | beginTour kind =>
      change (tutor.beginTour kind).tutor.Coherent
      rw [tutor_beginTour]
      exact coherent.modify kind (fun _lesson => rfl) (fun _lesson => rfl)
  | showTourFrame kind part => exact coherent
  | finishTour kind =>
      change (tutor.finishTour kind).tutor.Coherent
      rw [tutor_finishTour]
      exact coherent.modify kind (fun _lesson => rfl) (fun _lesson => rfl)

theorem stepped_of_playhead {kind : LoopKind} {playhead : Playhead} (coherent : tutor.Coherent)
    (present : (tutor.lesson kind).playhead = some playhead) :
    tutor.stepping = some kind ∧
      kind.play (tutor.lesson kind).script = .ok playhead.playback ∧
      playhead.position ≤ playhead.playback.events.length ∧
      playhead = .upTo playhead.playback playhead.position := by
  by_cases owner : tutor.stepping = some kind
  · obtain ⟨playback, position, plays, within, place⟩ := coherent.stepped kind owner
    rw [present] at place
    have same : playhead = .upTo playback position := Option.some.inj place
    subst playhead
    exact ⟨owner, plays, within, rfl⟩
  · have missing := coherent.others kind owner
    rw [present] at missing
    cases missing

theorem answer_advance {kind : LoopKind} {playback : Playback} {position : Nat}
    (owner : tutor.stepping = some kind)
    (place : (tutor.lesson kind).playhead = some (.upTo playback position)) :
    (tutor.advance kind).answer = .revealed (playback.frame? position) := by
  by_cases left : position < playback.events.length
  · obtain ⟨frame, next⟩ := playback.frame?_of_lt left
    rw [advance_of_lt owner place next, next]
  · have exhausted := Nat.le_of_not_lt left
    rw [advance_of_le owner place exhausted, playback.frame?_of_le exhausted]

end Coherent

theorem Reachable.coherent {tutor : Tutor} (reachable : tutor.Reachable) : tutor.Coherent :=
  reachable.of_perform idle_initial.coherent fun _tutor action coherent => coherent.perform action

/-- In every reachable tutor the lessons with a playhead are those that are stepped through, and a
playhead has shown the first events of the playback of the lesson's present script.  Advancing then
reveals the next event of what running would play, and nothing where no lesson is stepped through. -/
theorem playhead_of_reachable {tutor : Tutor} (reachable : tutor.Reachable) (kind : LoopKind) :
    ((tutor.lesson kind).playhead.isSome = true ↔ tutor.stepping = some kind) ∧
    (∀ playhead, (tutor.lesson kind).playhead = some playhead →
      kind.play (tutor.lesson kind).script = .ok playhead.playback ∧
      playhead.position ≤ playhead.playback.events.length ∧
      playhead.shown =
        (playhead.playback.events.take playhead.position).foldl Shown.reveal .nothing ∧
      playhead.shown = .ofEvents (playhead.playback.events.take playhead.position) ∧
      (tutor.perform (.run kind)).answer = .played playhead.playback ∧
      (tutor.perform (.advance kind)).answer =
        .revealed (playhead.playback.frame? playhead.position)) ∧
    (tutor.stepping ≠ some kind → (tutor.perform (.advance kind)).answer = .revealed none) := by
  have coherent := reachable.coherent
  refine ⟨?_, ?_, ?_⟩
  · constructor
    · intro present
      obtain ⟨playhead, found⟩ := Option.isSome_iff_exists.mp present
      exact (coherent.stepped_of_playhead found).1
    · intro owner
      obtain ⟨playback, position, _plays, _within, place⟩ := coherent.stepped kind owner
      rw [place]
      rfl
  · intro playhead found
    obtain ⟨owner, plays, within, place⟩ := coherent.stepped_of_playhead found
    have shown : playhead.shown = .ofEvents (playhead.playback.events.take playhead.position) :=
      congrArg Playhead.shown place
    have ran : (tutor.perform (.run kind)).answer = .played playhead.playback :=
      congrArg Reaction.answer (run_of_ok plays)
    rw [place] at found
    refine ⟨plays, within, ?_, shown, ran, Coherent.answer_advance owner found⟩
    rw [Shown.foldl_reveal_nothing]
    exact shown
  · intro notOwner
    exact congrArg Reaction.answer (advance_of_not_owner notOwner)

theorem playhead_after_edit_and_step :
    ∃ tutor : Tutor,
      tutor.Reachable ∧ tutor.stepping = some .whileLoop ∧
        (tutor.lesson .whileLoop).playhead.isSome = true ∧
        (tutor.perform (.advance .forEach)).answer = .revealed none := by
  let actions : List Action :=
    [.step .forEach, .edit .whileLoop .start "let i = 4", .step .whileLoop, .advance .whileLoop]
  have reachable : (initial.after actions).Reachable := ⟨actions, rfl⟩
  have owner : (initial.after actions).stepping = some .whileLoop := by decide +kernel
  have notOwner : (initial.after actions).stepping ≠ some .forEach := by
    rw [owner]
    decide
  exact ⟨initial.after actions, reachable, owner,
    (playhead_of_reachable reachable .whileLoop).1.mpr owner,
    (playhead_of_reachable reachable .forEach).2.2 notOwner⟩

end Tutor
end LoopLesson
