import LoopLesson.Proofs.Playback.Closing
import LoopLesson.Proofs.Tutor.Reactions
import LoopLesson.Proofs.Tutor.Runs

/-!
Stepping through a whole lesson.

Between a step and the last of the advances that follow it, anything may happen that gives up
nothing: parts may be selected, other lessons advanced, tours begun, shown and finished.  The
advances reveal the frames of the playback one after the other, and when they are used up the lesson
is shown as running it at once would show it.
-/

namespace LoopLesson

/-- Whether an action gives up nothing that is stepped through. -/
def Action.isQuiet : Action → Bool
  | .advance _ | .select _ _ | .beginTour _ | .showTourFrame _ _ | .finishTour _ => true
  | .cancel | .edit _ _ _ | .load _ _ | .reset _ | .run _ | .step _ => false

def Answer.frame? : Answer → Option Frame
  | .revealed frame => frame
  | _ => none

theorem Notice.lastView?_append (about : LoopKind) (earlier later : List Notice) :
    lastView? about (earlier ++ later) = (lastView? about later).or (lastView? about earlier) := by
  unfold lastView?
  rw [List.reverse_append, List.findSome?_append]

theorem Notice.lastView?_append_render (about : LoopKind) (earlier : List Notice) (view : View) :
    lastView? about (earlier ++ [.render about view]) = some view := by
  rw [lastView?_append]
  simp [lastView?]

namespace Playback

/-- What is shown of a playback after so many advances. -/
def viewAfter (playback : Playback) (advances : Nat) : View :=
  (Playhead.upTo playback (min advances playback.events.length)).view

theorem viewAfter_zero (playback : Playback) : playback.viewAfter 0 = .blank := by
  unfold viewAfter
  rw [Nat.zero_min]
  rfl

theorem viewAfter_succ_of_le {playback : Playback} {advances : Nat}
    (exhausted : playback.events.length ≤ advances) :
    playback.viewAfter (advances + 1) = playback.viewAfter advances := by
  unfold viewAfter
  rw [Nat.min_eq_right exhausted, Nat.min_eq_right (Nat.le_succ_of_le exhausted)]

/-- Once all events of a playback are revealed, the lesson is shown as a whole. -/
theorem Closed.viewAfter_of_le {playback : Playback} (closed : playback.Closed) {advances : Nat}
    (exhausted : playback.events.length ≤ advances) :
    playback.viewAfter advances = Tutor.finalView playback := by
  obtain ⟨earlier, event, split, highlight, counter⟩ := closed.last
  have lastCounter : (Shown.ofEvents playback.events).counter = playback.finalCounter := by
    rw [split, Shown.ofEvents_concat]
    unfold Shown.reveal
    rw [counter]
    rfl
  have lastHighlight : (Shown.ofEvents playback.events).highlight = none := by
    rw [split, Shown.ofEvents_concat]
    exact highlight
  unfold viewAfter Playhead.view Playhead.upTo Shown.view Tutor.finalView traceText consoleText
  rw [Nat.min_eq_right exhausted, List.take_length, lastCounter, lastHighlight,
    closed.traceLines, closed.consoleLines]
  rfl

end Playback

namespace Tutor

/-- A lesson is stepped through, and there have been so many advances of it. -/
structure StandsAt (tutor : Tutor) (kind : LoopKind) (playback : Playback) (advances : Nat) :
    Prop where
  owner : tutor.stepping = some kind
  place : (tutor.lesson kind).playhead =
    some (.upTo playback (min advances playback.events.length))

/-- What an advance that has so many before it tells the display. -/
def advanceNotices (kind : LoopKind) (playback : Playback) (before : Nat) : List Notice :=
  if before < playback.events.length then [.render kind (playback.viewAfter (before + 1))] else []

theorem standsAt_step {tutor : Tutor} {kind : LoopKind} {playback : Playback}
    (plays : kind.play (tutor.lesson kind).script = .ok playback) :
    (tutor.step kind).tutor.StandsAt kind playback 0 := by
  rw [step_of_ok plays]
  constructor
  · rfl
  · rw [Nat.zero_min]
    cases kind <;> rfl

namespace StandsAt

variable {tutor : Tutor} {kind : LoopKind} {playback : Playback} {advances : Nat}

theorem modify (stands : tutor.StandsAt kind playback advances) (other : LoopKind)
    {change : LessonState → LessonState}
    (playhead : ∀ lesson, (change lesson).playhead = lesson.playhead) :
    (tutor.modify other change).StandsAt kind playback advances where
  owner := by
    rw [stepping_modify]
    exact stands.owner
  place := by
    by_cases same : kind = other
    · subst other
      rw [lesson_modify_self, playhead]
      exact stands.place
    · rw [lesson_modify_of_ne tutor same]
      exact stands.place

theorem advance_of_lt (stands : tutor.StandsAt kind playback advances)
    (left : advances < playback.events.length) :
    ∃ frame, playback.frame? advances = some frame ∧
      tutor.advance kind =
        { tutor := tutor.modify kind fun lesson =>
            { lesson with
              highlight := frame.highlight, playhead := some (.upTo playback (advances + 1)) }
          notices := [.render kind (Playhead.upTo playback (advances + 1)).view]
          answer := .revealed (some frame) } := by
  have place := stands.place
  rw [Nat.min_eq_left (Nat.le_of_lt left)] at place
  obtain ⟨frame, next⟩ := playback.frame?_of_lt left
  exact ⟨frame, next, Tutor.advance_of_lt stands.owner place next⟩

theorem advance_of_le (stands : tutor.StandsAt kind playback advances)
    (exhausted : playback.events.length ≤ advances) :
    tutor.advance kind = { tutor, notices := [], answer := .revealed none } := by
  have place := stands.place
  rw [Nat.min_eq_right exhausted] at place
  exact Tutor.advance_of_le stands.owner place (Nat.le_refl _)

/-- One advance of the lesson: the next frame if there is one, and one advance more. -/
theorem perform_advance (stands : tutor.StandsAt kind playback advances) :
    (tutor.perform (.advance kind)).answer = .revealed (playback.frame? advances) ∧
      (tutor.perform (.advance kind)).notices = advanceNotices kind playback advances ∧
      (tutor.perform (.advance kind)).tutor.StandsAt kind playback (advances + 1) := by
  simp only [perform]
  unfold advanceNotices
  by_cases left : advances < playback.events.length
  · obtain ⟨frame, next, moves⟩ := stands.advance_of_lt left
    rw [moves, if_pos left]
    refine ⟨?_, ?_, ?_⟩
    · rw [next]
    · unfold Playback.viewAfter
      rw [Nat.min_eq_left left]
    · constructor
      · exact (stepping_modify _ _ _).trans stands.owner
      · rw [Nat.min_eq_left left]
        exact congrArg LessonState.playhead (lesson_modify_self _ _ _)
  · have exhausted := Nat.le_of_not_lt left
    rw [stands.advance_of_le exhausted, if_neg left, playback.frame?_of_le exhausted]
    refine ⟨rfl, rfl, stands.owner, ?_⟩
    have place := stands.place
    rw [Nat.min_eq_right exhausted] at place
    rw [Nat.min_eq_right (Nat.le_succ_of_le exhausted)]
    exact place

/-- Any other quiet action leaves the playhead where it is and renders nothing of the lesson. -/
theorem perform_other (stands : tutor.StandsAt kind playback advances) {action : Action}
    (quiet : action.isQuiet = true) (other : action ≠ .advance kind) :
    (tutor.perform action).tutor.StandsAt kind playback advances ∧
      Notice.lastView? kind (tutor.perform action).notices = none := by
  cases action with
  | advance stepped =>
      have notOwner : tutor.stepping ≠ some stepped := by
        intro owner
        rw [stands.owner] at owner
        cases owner
        exact other rfl
      change (tutor.advance stepped).tutor.StandsAt kind playback advances ∧
        Notice.lastView? kind (tutor.advance stepped).notices = none
      rw [advance_of_not_owner notOwner]
      exact ⟨stands, rfl⟩
  | select selected part =>
      refine ⟨?_, rfl⟩
      change (tutor.select selected part).tutor.StandsAt kind playback advances
      rw [tutor_select]
      exact stands.modify selected fun _lesson => rfl
  | beginTour toured =>
      constructor
      · change (tutor.beginTour toured).tutor.StandsAt kind playback advances
        rw [tutor_beginTour]
        exact stands.modify toured fun _lesson => rfl
      · change Notice.lastView? kind (tutor.beginTour toured).notices = none
        unfold beginTour
        split <;> rfl
  | showTourFrame toured part => exact ⟨stands, rfl⟩
  | finishTour toured =>
      refine ⟨?_, rfl⟩
      change (tutor.finishTour toured).tutor.StandsAt kind playback advances
      rw [tutor_finishTour]
      exact stands.modify toured fun _lesson => rfl
  | cancel => cases quiet
  | edit edited part text => cases quiet
  | load loaded script => cases quiet
  | reset cleared => cases quiet
  | run played => cases quiet
  | step begun => cases quiet

/-- The advances of the lesson during a quiet run: each answers the frame that is next, and renders
what is shown with it. -/
theorem reactionsTo_advance (stands : tutor.StandsAt kind playback advances)
    (actions : List Action) (quiet : ∀ action ∈ actions, action.isQuiet = true) :
    ((tutor.reactionsTo (.advance kind) actions).map fun reaction =>
        (reaction.answer, reaction.notices)) =
      (List.range' advances (actions.count (.advance kind))).map fun before =>
        (.revealed (playback.frame? before), advanceNotices kind playback before) := by
  -- The run may start anywhere in the playback, so the advances so far vary with the tutor.
  induction actions generalizing tutor advances with
  | nil => rfl
  | cons action rest ih =>
      have restQuiet : ∀ later ∈ rest, later.isQuiet = true :=
        fun later member => quiet later (List.mem_cons_of_mem action member)
      by_cases same : action = .advance kind
      · subst action
        obtain ⟨answer, notices, moved⟩ := stands.perform_advance
        rw [reactionsTo_cons_self, List.map_cons, ih moved restQuiet, List.count_cons_self,
          List.range'_succ, List.map_cons, answer, notices]
      · have kept := (stands.perform_other (quiet action List.mem_cons_self) same).1
        rw [reactionsTo_cons_of_ne _ same, ih kept restQuiet, List.count_cons_of_ne same]

section FromTheStart

variable (stands : tutor.StandsAt kind playback 0) (actions : List Action)
  (quiet : ∀ action ∈ actions, action.isQuiet = true)
include stands quiet

theorem frames_reactionsTo :
    ((tutor.reactionsTo (.advance kind) actions).filterMap fun reaction =>
        reaction.answer.frame?) =
      playback.frames.take (actions.count (.advance kind)) := by
  have revealed := congrArg (List.filterMap fun reply : Answer × List Notice => reply.1.frame?)
    (stands.reactionsTo_advance actions quiet)
  rw [List.filterMap_map, List.filterMap_map, ← List.range_eq_range'] at revealed
  rw [← Playback.filterMap_frame?_range]
  exact revealed

theorem exists_nothing_revealed_iff :
    (∃ reaction ∈ tutor.reactionsTo (.advance kind) actions, reaction.answer = .revealed none) ↔
      playback.events.length < actions.count (.advance kind) := by
  have replies := stands.reactionsTo_advance actions quiet
  constructor
  · rintro ⟨reaction, member, nothing⟩
    have listed := List.mem_map_of_mem member
      (f := fun reaction : Reaction => (reaction.answer, reaction.notices))
    rw [replies] at listed
    obtain ⟨before, within, same⟩ := List.mem_map.mp listed
    have missing : playback.frame? before = none := by
      have answers := congrArg Prod.fst same
      rw [nothing] at answers
      exact Answer.revealed.inj answers
    have past : ¬before < playback.events.length := by
      intro left
      obtain ⟨frame, found⟩ := playback.frame?_of_lt left
      rw [missing] at found
      cases found
    have bound := (List.mem_range'_1.mp within).2
    omega
  · intro more
    have within : playback.events.length ∈ List.range' 0 (actions.count (.advance kind)) :=
      List.mem_range'_1.mpr ⟨Nat.zero_le _, by omega⟩
    have listed := List.mem_map_of_mem within
      (f := fun before =>
        (Answer.revealed (playback.frame? before), advanceNotices kind playback before))
    rw [← replies] at listed
    obtain ⟨reaction, member, same⟩ := List.mem_map.mp listed
    refine ⟨reaction, member, ?_⟩
    rw [← playback.frame?_of_le (Nat.le_refl _)]
    exact congrArg Prod.fst same

theorem reaction_of_mem_drop {reaction : Reaction}
    (member : reaction ∈
      (tutor.reactionsTo (.advance kind) actions).drop playback.events.length) :
    reaction.answer = .revealed none ∧ reaction.notices = [] := by
  have listed := List.mem_map_of_mem member
    (f := fun reaction : Reaction => (reaction.answer, reaction.notices))
  rw [List.map_drop, stands.reactionsTo_advance actions quiet, ← List.map_drop,
    List.drop_range'] at listed
  obtain ⟨before, within, same⟩ := List.mem_map.mp listed
  have past : playback.events.length ≤ before := by
    have bound := (List.mem_range'_1.mp within).1
    omega
  unfold advanceNotices at same
  rw [playback.frame?_of_le past, if_neg (Nat.not_lt.mpr past)] at same
  exact ⟨(congrArg Prod.fst same).symm, (congrArg Prod.snd same).symm⟩

end FromTheStart

/-- What a lesson shows after a quiet run depends on the number of its advances only. -/
theorem lastView?_noticesOf (stands : tutor.StandsAt kind playback advances)
    (actions : List Action) (quiet : ∀ action ∈ actions, action.isQuiet = true)
    {earlier : List Notice}
    (shown : Notice.lastView? kind earlier = some (playback.viewAfter advances)) :
    Notice.lastView? kind (earlier ++ tutor.noticesOf actions) =
      some (playback.viewAfter (advances + actions.count (.advance kind))) := by
  -- The notices before the run stand for those of its first actions once these are taken off.
  induction actions generalizing tutor advances earlier with
  | nil =>
      rw [noticesOf_nil, List.append_nil, List.count_nil]
      exact shown
  | cons action rest ih =>
      have restQuiet : ∀ later ∈ rest, later.isQuiet = true :=
        fun later member => quiet later (List.mem_cons_of_mem action member)
      rw [noticesOf_cons, ← List.append_assoc]
      by_cases same : action = .advance kind
      · subst action
        obtain ⟨_answer, notices, moved⟩ := stands.perform_advance
        have next : Notice.lastView? kind (earlier ++ (tutor.perform (.advance kind)).notices) =
            some (playback.viewAfter (advances + 1)) := by
          rw [notices]
          unfold advanceNotices
          split
          · rw [Notice.lastView?_append_render]
          · rename_i used
            rw [List.append_nil, Playback.viewAfter_succ_of_le (Nat.le_of_not_lt used)]
            exact shown
        have later := ih moved restQuiet next
        rw [List.count_cons_self, Nat.add_comm _ 1, ← Nat.add_assoc]
        exact later
      · obtain ⟨kept, silent⟩ := stands.perform_other (quiet action List.mem_cons_self) same
        have next : Notice.lastView? kind (earlier ++ (tutor.perform action).notices) =
            some (playback.viewAfter advances) := by
          rw [Notice.lastView?_append, silent, Option.none_or]
          exact shown
        rw [List.count_cons_of_ne same]
        exact ih kept restQuiet next

end StandsAt

/-- For every tutor and every lesson with a script that can be played, stepping through the lesson
shows what running it shows.  The run after the step is any quiet one in which the lesson is
advanced until nothing is left to reveal. -/
theorem stepping_shows_what_running_shows (tutor : Tutor) {kind : LoopKind} {playback : Playback}
    (plays : kind.play (tutor.lesson kind).script = .ok playback)
    (actions : List Action) (quiet : ∀ action ∈ actions, action.isQuiet = true) :
    let ran := tutor.perform (.run kind)
    let begun := tutor.perform (.step kind)
    let total := playback.events.length
    let advances := begun.tutor.reactionsTo (.advance kind) actions
    let frames := advances.filterMap fun reaction => reaction.answer.frame?
    ran.answer = .played playback ∧ begun.answer = .begun total ∧
    ((∃ reaction ∈ advances, reaction.answer = .revealed none) ↔
      total < actions.count (.advance kind)) ∧
    ((∃ reaction ∈ advances, reaction.answer = .revealed none) →
      frames.length = total ∧
      frames.map Frame.position = List.range' 1 total ∧
      frames.map Frame.isLast = List.replicate (total - 1) false ++ [true] ∧
      frames.filterMap Frame.trace = playback.traceLines ∧
      frames.filterMap Frame.console = playback.consoleLines ∧
      (∃ view, Notice.lastView? kind ran.notices = some view ∧
        Notice.lastView? kind (begun.notices ++ begun.tutor.noticesOf actions) = some view) ∧
      ∀ reaction ∈ advances.drop total,
        reaction.answer = .revealed none ∧ reaction.notices = []) := by
  intro ran begun total advances frames
  have stands : begun.tutor.StandsAt kind playback 0 := standsAt_step plays
  have closed := LoopKind.closed_of_play plays
  have exhausted := stands.exists_nothing_revealed_iff actions quiet
  have ranNotices : ran.notices = tutor.cancel.2 ++ [.render kind (finalView playback)] :=
    congrArg Reaction.notices (run_of_ok plays)
  have begunNotices : begun.notices = tutor.cancel.2 ++ [.render kind .blank] :=
    congrArg Reaction.notices (step_of_ok plays)
  refine ⟨congrArg Reaction.answer (run_of_ok plays), congrArg Reaction.answer (step_of_ok plays),
    exhausted, ?_⟩
  intro nothingLeft
  have more := exhausted.mp nothingLeft
  have allFrames : frames = playback.frames := by
    have first := stands.frames_reactionsTo actions quiet
    rw [List.take_of_length_le (by rw [Playback.length_frames]; omega)] at first
    exact first
  rw [allFrames]
  refine ⟨playback.length_frames, playback.map_position_frames,
    Playback.map_isLast_frames closed.events_ne_nil, ?_, ?_, ⟨finalView playback, ?_, ?_⟩, ?_⟩
  · rw [playback.filterMap_trace_frames, closed.traceLines]
  · rw [playback.filterMap_console_frames, closed.consoleLines]
  · rw [ranNotices, Notice.lastView?_append_render]
  · have atStart : Notice.lastView? kind begun.notices = some (playback.viewAfter 0) := by
      rw [begunNotices, Notice.lastView?_append_render, Playback.viewAfter_zero]
    rw [stands.lastView?_noticesOf actions quiet atStart, closed.viewAfter_of_le (by omega)]
  · exact fun reaction member => stands.reaction_of_mem_drop actions quiet member

theorem stepping_through_three_events :
    ∃ (tutor : Tutor) (playback : Playback) (actions : List Action),
      LoopKind.forLoop.play (tutor.lesson .forLoop).script = .ok playback ∧
      playback.events.length = 3 ∧
      ∃ view, Notice.lastView? .forLoop (tutor.perform (.run .forLoop)).notices = some view ∧
        Notice.lastView? .forLoop ((tutor.perform (.step .forLoop)).notices ++
          (tutor.perform (.step .forLoop)).tutor.noticesOf actions) = some view := by
  let script : Script := { start := "let i = 9", condition := "i <= 5", step := "i = i + 1" }
  let tutor : Tutor := (initial.perform (.load .forLoop script)).tutor
  let playback : Playback := .ofEvents
    [{ highlight := some .start
       trace := some "Start: let i = 9 sets i = 9"
       counter := some "i = 9" },
     { highlight := some .condition
       trace := some "Check i <= 5 with i = 9 -> no"
       counter := some "i = 9" },
     { trace := some "Loop finished with i = 9"
       counter := some "i = 9" }] "i = 9"
  let actions : List Action :=
    [.advance .forLoop, .select .forLoop .body, .advance .forLoop, .beginTour .whileLoop,
      .advance .forLoop, .advance .whileLoop, .advance .forLoop]
  have plays : LoopKind.forLoop.play (tutor.lesson .forLoop).script = .ok playback := by
    decide +kernel
  have quiet : ∀ action ∈ actions, action.isQuiet = true := by decide
  obtain ⟨_ran, _begun, exhausted, shown⟩ :=
    stepping_shows_what_running_shows tutor plays actions quiet
  obtain ⟨_, _, _, _, _, sameView, _⟩ := shown (exhausted.mpr (by decide))
  exact ⟨tutor, playback, actions, plays, rfl, sameView⟩

end Tutor
end LoopLesson
