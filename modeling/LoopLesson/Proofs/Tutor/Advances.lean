import LoopLesson.Proofs.Tutor.Playhead

/-!
A fresh playhead after any number of advances.

Nothing is asked of the playback: its events may lack any field, and the lines that it has collected
may be others than those of its events.  The playhead goes through the events one by one and then
stays where it is.  What it shows is what the events up to its place add up to, so the collected
lines are shown in the end if they were collected from the events.
-/

namespace LoopLesson

theorem Playback.isSome_frame?_iff (playback : Playback) (count : Nat) :
    (playback.frame? count).isSome = true ↔ count + 1 ≤ playback.events.length := by
  rw [Option.isSome_iff_exists]
  constructor
  · rintro ⟨frame, found⟩
    exact lt_length_of_frame? found
  · intro within
    exact playback.frame?_of_lt within

namespace Playhead

/-- A fresh playhead after so many advances. -/
def advanced (playback : Playback) : Nat → Playhead
  | 0 => atStart playback
  | count + 1 => (advanced playback count).advance.1

theorem advanced_eq_upTo (playback : Playback) (count : Nat) :
    advanced playback count = upTo playback (min count playback.events.length) := by
  induction count with
  | zero =>
      rw [Nat.zero_min]
      rfl
  | succ count ih =>
      rw [advanced, ih]
      by_cases left : count < playback.events.length
      · rw [Nat.min_eq_left (Nat.le_of_lt left), Nat.min_eq_left left,
          advance_upTo_of_lt playback left]
      · have past := Nat.le_of_not_lt left
        rw [Nat.min_eq_right past, Nat.min_eq_right (Nat.le_succ_of_le past),
          advance_upTo_of_le playback (Nat.le_refl _)]

/-- The answer to an advance that has so many before it. -/
theorem advance_advanced (playback : Playback) (count : Nat) :
    (advanced playback count).advance.2 = playback.frame? count := by
  rw [advanced_eq_upTo]
  by_cases left : count < playback.events.length
  · rw [Nat.min_eq_left (Nat.le_of_lt left), advance_upTo_of_lt playback left]
  · have past := Nat.le_of_not_lt left
    rw [Nat.min_eq_right past, advance_upTo_of_le playback (Nat.le_refl _),
      playback.frame?_of_le past]

theorem advance_advanced_of_le {playback : Playback} {count : Nat}
    (past : playback.events.length ≤ count) :
    (advanced playback count).advance = (advanced playback count, none) := by
  rw [advanced_eq_upTo, Nat.min_eq_right past, advance_upTo_of_le playback (Nat.le_refl _)]

/-- Whatever the playback, so many advances of a fresh playhead bring it to that event, or to the
end.  It then shows the lines of the events up to there, the latest counter among them and the
highlight of the last.  The next advance reveals the next event as it is, with the latest counter up
to it and its place, and past the end it reveals and changes nothing.  If the lines were collected
from the events, they are shown in the end. -/
theorem advances_reveal_events (playback : Playback) (count : Nat) :
    let total := playback.events.length
    let playhead := advanced playback count
    let seen := playback.events.take (min count total)
    playhead.position = min count total ∧
    playhead.view =
      { highlight := seen.getLast?.bind Event.highlight
        counter := (seen.filterMap Event.counter).getLast?.getD ""
        trace := "\n".intercalate (seen.filterMap Event.trace)
        console := "\n".intercalate (seen.filterMap Event.console) } ∧
    (playhead.advance.2.isSome = true ↔ count + 1 ≤ total) ∧
    playhead.advance.2 = playback.events[count]?.map (fun event =>
      { highlight := event.highlight
        trace := event.trace
        console := event.console
        counter :=
          ((playback.events.take (count + 1)).filterMap Event.counter).getLast?.getD ""
        position := count + 1
        total := total }) ∧
    (total ≤ count →
      playhead.advance = (playhead, none) ∧ playhead = advanced playback total) ∧
    ∀ finalCounter : String,
      let collected := Playback.ofEvents playback.events finalCounter
      (advanced collected total).view.trace = collected.traceText ∧
        (advanced collected total).view.console = collected.consoleText := by
  intro total playhead seen
  have place : playhead = upTo playback (min count total) := advanced_eq_upTo playback count
  have answer : playhead.advance.2 = playback.frame? count := advance_advanced playback count
  refine ⟨?_, ?_, ?_, answer, ?_, ?_⟩
  · rw [place]
    rfl
  · rw [place]
    rfl
  · rw [answer]
    exact playback.isSome_frame?_iff count
  · intro past
    refine ⟨advance_advanced_of_le past, ?_⟩
    rw [place, advanced_eq_upTo, Nat.min_eq_right past, Nat.min_self]
  · intro finalCounter collected
    have whole : advanced collected total = upTo collected total := by
      rw [advanced_eq_upTo]
      exact congrArg (upTo collected) (Nat.min_self total)
    rw [whole]
    unfold view upTo Shown.view Shown.ofEvents Playback.traceText Playback.consoleText
    dsimp only
    have all : collected.events.take total = playback.events := List.take_length
    rw [all]
    exact ⟨rfl, rfl⟩

/-- Events with gaps, and lines that have nothing to do with them. -/
def gappedPlayback : Playback where
  events := [
    { trace := some "begin", counter := some "i = 1" },
    { highlight := some .body, console := some "one" },
    { highlight := some .step, trace := some "move", console := some "two" }]
  traceLines := ["elsewhere"]
  consoleLines := []
  finalCounter := "i = 9"

theorem advances_of_gappedPlayback :
    gappedPlayback.events.length ≤ 4 ∧
    (advanced gappedPlayback 2).view =
      { highlight := some .body, counter := "i = 1", trace := "begin", console := "one" } ∧
    (advanced gappedPlayback 2).advance.2 =
      some { highlight := some .step, trace := some "move", console := some "two",
             counter := "i = 1", position := 3, total := 3 } ∧
    (advanced gappedPlayback 4).advance = (advanced gappedPlayback 4, none) ∧
    (advanced gappedPlayback 4).position = 3 := by
  obtain ⟨_, shown, _, revealed, _⟩ := advances_reveal_events gappedPlayback 2
  obtain ⟨place, _, _, _, stays, _⟩ := advances_reveal_events gappedPlayback 4
  refine ⟨by decide, ?_, ?_, (stays (by decide)).1, ?_⟩
  · rw [shown]
    decide
  · rw [revealed]
    decide
  · rw [place]
    decide

end Playhead
end LoopLesson
