import Mathlib.Data.List.Induction
import LoopLesson.Tutor.Playhead

/-!
Playheads at a given place of a playback.

What a playhead has shown depends on its place only: the lines of the events up to there, the
latest counter among them, and the highlight of the last of them.  Advancing goes from one place to
the next and answers the frame between them.
-/

namespace LoopLesson

private theorem filterMap_concat {α β : Type} (field : α → Option β) (items : List α) (item : α) :
    (items ++ [item]).filterMap field = items.filterMap field ++ (field item).toList := by
  rw [List.filterMap_append, List.filterMap_cons, List.filterMap_nil]
  cases field item <;> rfl

namespace Shown

/-- What some events add up to: all their lines, the latest counter, and the highlight of the last
one. -/
def ofEvents (events : List Event) : Shown where
  trace := events.filterMap Event.trace
  console := events.filterMap Event.console
  counter := (events.filterMap Event.counter).getLast?.getD ""
  highlight := events.getLast?.bind Event.highlight

theorem ofEvents_concat (events : List Event) (event : Event) :
    ofEvents (events ++ [event]) = (ofEvents events).reveal event := by
  have counters : ((events ++ [event]).filterMap Event.counter).getLast?.getD "" =
      event.counter.getD ((events.filterMap Event.counter).getLast?.getD "") := by
    rw [filterMap_concat]
    cases event.counter with
    | none => rw [Option.toList_none, List.append_nil, Option.getD_none]
    | some text => rw [Option.toList_some, List.getLast?_concat, Option.getD_some, Option.getD_some]
  unfold ofEvents reveal
  rw [filterMap_concat, filterMap_concat, counters, List.getLast?_concat, Option.bind_some]

/-- Revealing events one after the other shows what they add up to. -/
theorem foldl_reveal_nothing (events : List Event) :
    events.foldl reveal nothing = ofEvents events := by
  induction events using List.reverseRecOn with
  | nil => rfl
  | append_singleton events event ih =>
      rw [List.foldl_append, ih, ofEvents_concat]
      rfl

end Shown

namespace Playback

/-- The frame that reveals the event at a place of a playback. -/
def frameOf (playback : Playback) (index : Nat) (event : Event) : Frame where
  highlight := event.highlight
  trace := event.trace
  console := event.console
  counter := (Shown.ofEvents (playback.events.take (index + 1))).counter
  position := index + 1
  total := playback.events.length

def frame? (playback : Playback) (index : Nat) : Option Frame :=
  playback.events[index]?.map (playback.frameOf index)

def frames (playback : Playback) : List Frame := playback.events.mapIdx playback.frameOf

theorem frame?_of_lt (playback : Playback) {index : Nat} (left : index < playback.events.length) :
    ∃ frame, playback.frame? index = some frame := by
  unfold frame?
  rw [List.getElem?_eq_getElem left]
  exact ⟨_, rfl⟩

theorem frame?_of_le (playback : Playback) {index : Nat} (past : playback.events.length ≤ index) :
    playback.frame? index = none := by
  unfold frame?
  rw [List.getElem?_eq_none past]
  rfl

theorem lt_length_of_frame? {playback : Playback} {index : Nat} {frame : Frame}
    (found : playback.frame? index = some frame) : index < playback.events.length := by
  unfold frame? at found
  obtain ⟨event, present, _same⟩ := Option.map_eq_some_iff.mp found
  exact (List.getElem?_eq_some_iff.mp present).1

theorem getElem?_frames (playback : Playback) (index : Nat) :
    playback.frames[index]? = playback.frame? index := by
  unfold frames frame?
  rw [List.getElem?_mapIdx]

@[simp] theorem length_frames (playback : Playback) :
    playback.frames.length = playback.events.length := by
  unfold frames
  rw [List.length_mapIdx]

theorem map_position_frames (playback : Playback) :
    playback.frames.map Frame.position = List.range' 1 playback.events.length := by
  apply List.ext_getElem?
  intro index
  rw [List.getElem?_map, getElem?_frames]
  by_cases left : index < playback.events.length
  · unfold frame?
    rw [List.getElem?_eq_getElem left, List.getElem?_range' left]
    simp only [Option.map_some, frameOf, Nat.one_mul, Nat.add_comm]
  · have past := Nat.le_of_not_lt left
    rw [frame?_of_le playback past, List.getElem?_eq_none (by rw [List.length_range']; exact past)]
    rfl

theorem total_of_mem_frames {playback : Playback} {frame : Frame}
    (member : frame ∈ playback.frames) : frame.total = playback.events.length := by
  unfold frames at member
  obtain ⟨index, within, same⟩ := List.mem_mapIdx.mp member
  rw [← same]
  rfl

/-- Only the last frame of a playback with an event knows that it is the last. -/
theorem map_isLast_frames {playback : Playback} (nonempty : playback.events ≠ []) :
    playback.frames.map Frame.isLast =
      List.replicate (playback.events.length - 1) false ++ [true] := by
  have positive : 0 < playback.events.length := List.length_pos_iff.mpr nonempty
  have lasts : playback.frames.map Frame.isLast =
      (playback.frames.map Frame.position).map fun position =>
        decide (position = playback.events.length) := by
    rw [List.map_map]
    apply List.map_congr_left
    intro frame member
    unfold Frame.isLast
    rw [total_of_mem_frames member]
    rfl
  rw [lasts, map_position_frames]
  apply List.ext_getElem
  · simp only [List.length_map, List.length_range', List.length_append, List.length_replicate,
      List.length_cons, List.length_nil]
    omega
  · intro index before after
    rw [List.length_map, List.length_range'] at before
    rw [List.getElem_map, List.getElem_range']
    by_cases last : index < playback.events.length - 1
    · rw [List.getElem_append_left (by rw [List.length_replicate]; exact last),
        List.getElem_replicate]
      exact decide_eq_false (by omega)
    · rw [List.getElem_append_right (by rw [List.length_replicate]; omega), List.getElem_singleton]
      exact decide_eq_true (by omega)

private theorem filterMap_mapIdx {α β γ : Type} (place : Nat → α → β) (field : β → Option γ)
    (original : α → Option γ) (same : ∀ index item, field (place index item) = original item)
    (items : List α) : (items.mapIdx place).filterMap field = items.filterMap original := by
  induction items generalizing place with
  | nil => rfl
  | cons item rest ih =>
      rw [List.mapIdx_cons, List.filterMap_cons, List.filterMap_cons, same,
        ih (fun index => place (index + 1)) fun index => same (index + 1)]

theorem filterMap_trace_frames (playback : Playback) :
    playback.frames.filterMap Frame.trace = playback.events.filterMap Event.trace :=
  filterMap_mapIdx playback.frameOf Frame.trace Event.trace (fun _index _event => rfl)
    playback.events

theorem filterMap_console_frames (playback : Playback) :
    playback.frames.filterMap Frame.console = playback.events.filterMap Event.console :=
  filterMap_mapIdx playback.frameOf Frame.console Event.console (fun _index _event => rfl)
    playback.events

theorem filterMap_frame?_range (playback : Playback) (count : Nat) :
    (List.range count).filterMap playback.frame? = playback.frames.take count := by
  induction count with
  | zero => rfl
  | succ count ih =>
      rw [List.range_succ, filterMap_concat, ih, List.take_add_one, getElem?_frames]

end Playback

namespace Playhead

/-- The playhead that has shown so many events of a playback. -/
def upTo (playback : Playback) (position : Nat) : Playhead where
  playback
  position
  shown := .ofEvents (playback.events.take position)

theorem advance_upTo_of_lt (playback : Playback) {position : Nat}
    (left : position < playback.events.length) :
    (upTo playback position).advance =
      (upTo playback (position + 1), playback.frame? position) := by
  have found : playback.events[position]? = some playback.events[position] :=
    List.getElem?_eq_getElem left
  have shown : (Shown.ofEvents (playback.events.take position)).reveal playback.events[position] =
      Shown.ofEvents (playback.events.take (position + 1)) := by
    rw [← Shown.ofEvents_concat, List.take_append_getElem left]
  unfold advance Playback.frame? Playback.frameOf
  simp only [upTo, found, shown, Option.map_some]
  rfl

theorem advance_upTo_of_le (playback : Playback) {position : Nat}
    (exhausted : playback.events.length ≤ position) :
    (upTo playback position).advance = (upTo playback position, none) := by
  have missing : playback.events[position]? = none := List.getElem?_eq_none exhausted
  unfold advance
  simp only [upTo, missing]

end Playhead

end LoopLesson
