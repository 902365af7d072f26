import LoopLesson.Playback.Lesson

/-!
How a playback closes: with an event that highlights nothing and carries the final counter.  The
lines of a playback are those of its events.
-/

namespace LoopLesson

/-- A playback whose lines come from its events, and whose last event highlights nothing and leaves
the final counter on display. -/
structure Playback.Closed (playback : Playback) : Prop where
  traceLines : playback.traceLines = playback.events.filterMap Event.trace
  consoleLines : playback.consoleLines = playback.events.filterMap Event.console
  last : ∃ earlier event, playback.events = earlier ++ [event] ∧
    event.highlight = none ∧ event.counter = some playback.finalCounter

theorem Playback.closed_ofEvents {earlier : List Event} {check event : Event}
    {finalCounter : String} (highlight : event.highlight = none)
    (counter : event.counter = some finalCounter) :
    (ofEvents (earlier ++ [check, event]) finalCounter).Closed where
  traceLines := rfl
  consoleLines := rfl
  last := ⟨earlier ++ [check], event, List.append_cons earlier check [event], highlight, counter⟩

theorem Playback.Closed.events_ne_nil {playback : Playback} (closed : playback.Closed) :
    playback.events ≠ [] := by
  obtain ⟨earlier, event, split, _highlight, _counter⟩ := closed.last
  rw [split]
  exact List.append_ne_nil_of_right_ne_nil earlier (List.cons_ne_nil event [])

theorem CountingLoop.closed_playback (kind : LoopKind) (loop : CountingLoop) :
    (loop.playback kind).Closed := by
  unfold playback events
  exact Playback.closed_ofEvents rfl rfl

theorem ItemLoop.closed_playback (loop : ItemLoop) : loop.playback.Closed := by
  unfold playback events
  exact Playback.closed_ofEvents rfl rfl

theorem exists_of_map_eq_ok {fault α β : Type} {f : α → β} {result : Except fault α} {value : β}
    (mapped : result.map f = .ok value) : ∃ found, result = .ok found ∧ f found = value := by
  cases result with
  | error reason => cases mapped
  | ok found => exact ⟨found, rfl, Except.ok.inj mapped⟩

/-- Every lesson plays a counting loop or a loop over items. -/
theorem LoopKind.exists_loop_of_play {kind : LoopKind} {script : Script} {playback : Playback}
    (plays : kind.play script = .ok playback) :
    (∃ loop : CountingLoop, kind ≠ .forEach ∧ CountingLoop.read script = .ok loop ∧
      loop.playback kind = playback) ∨
    ∃ loop : ItemLoop, kind = .forEach ∧ ItemLoop.read script = .ok loop ∧
      loop.playback = playback := by
  cases kind with
  | forLoop =>
      change (CountingLoop.read script).map (CountingLoop.playback .forLoop) = _ at plays
      obtain ⟨loop, readable, played⟩ := exists_of_map_eq_ok plays
      exact .inl ⟨loop, nofun, readable, played⟩
  | whileLoop =>
      change (CountingLoop.read script).map (CountingLoop.playback .whileLoop) = _ at plays
      obtain ⟨loop, readable, played⟩ := exists_of_map_eq_ok plays
      exact .inl ⟨loop, nofun, readable, played⟩
  | forEach =>
      change (ItemLoop.read script).map ItemLoop.playback = _ at plays
      obtain ⟨loop, readable, played⟩ := exists_of_map_eq_ok plays
      exact .inr ⟨loop, rfl, readable, played⟩

theorem LoopKind.closed_of_play {kind : LoopKind} {script : Script} {playback : Playback}
    (plays : kind.play script = .ok playback) : playback.Closed := by
  rcases exists_loop_of_play plays with
    ⟨loop, _counts, _readable, rfl⟩ | ⟨loop, _iterates, _readable, rfl⟩
  · exact loop.closed_playback kind
  · exact loop.closed_playback

end LoopLesson
