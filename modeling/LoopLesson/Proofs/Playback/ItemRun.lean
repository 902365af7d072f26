import LoopLesson.Proofs.Playback.ItemBodies

/-!
The playback of a loop over items as the run of an index.

The index starts before the array, stops at every item for a check, the body and a move, and ends
one place behind the last item.  A move shows the place that it reaches, so the check after it shows
the same place again, and the last move, the check that fails, the end and the final counter all
show the place behind the last item.  This holds of arrays of every length, the empty one included.
-/

namespace LoopLesson

namespace ItemLoop

open Number (Binary64)

/-- The playback of a loop over items, place by place. -/
structure IndexRun (items : List Binary64) (script : Script) (playback : Playback) : Prop where
  highlights : playback.events.map Event.highlight =
    some .start ::
      (List.replicate items.length [some Part.condition, some .body, some .step]).flatten ++
      [some .condition, none]
  printed : ∀ event ∈ playback.events, event.console.isSome = true ↔ event.highlight = some .body
  opening : ∃ start, playback.events[0]? = some start ∧
    start.counter = some "index = -- (value --)" ∧
    start.trace = some ("Start: " ++ script.start ++ " holds " ++
      Number.naturalText items.length ++ (if items.length = 1 then " item" else " items"))
  atItem : ∀ index x, items[index]? = some x →
    ∃ check body, playback.events[3 * index + 1]? = some check ∧
      playback.events[3 * index + 2]? = some body ∧
      check.counter = some ("index = " ++ Number.naturalText index ++ " (value " ++ x.text ++ ")") ∧
      body.counter = some ("index = " ++ Number.naturalText index ++ " (value " ++ x.text ++ ")")
  handOver : ∀ place move, playback.events[place]? = some move → move.highlight = some .step →
    ∃ check, playback.events[place + 1]? = some check ∧ check.highlight = some .condition ∧
      check.counter = move.counter
  lastMove : items ≠ [] → ∃ move, playback.events[3 * items.length]? = some move ∧
    move.highlight = some .step ∧
    move.counter = some ("index = " ++ Number.naturalText items.length ++ " (done)")
  ending : ∃ check last, playback.events[3 * items.length + 1]? = some check ∧
    playback.events[3 * items.length + 2]? = some last ∧
    check.counter = some ("index = " ++ Number.naturalText items.length ++ " (done)") ∧
    last.counter = some ("index = " ++ Number.naturalText items.length ++ " (done)") ∧
    last.trace = some ("Loop finished after " ++ Number.naturalText items.length ++
      (if items.length = 1 then " item" else " items"))
  finalCounter : playback.finalCounter = "index = " ++ Number.naturalText items.length ++ " (done)"
  traceLines : playback.traceLines.map some = playback.events.map Event.trace
  consoleLines : playback.consoleLines.map some = playback.bodyEvents.map Event.console
  length_traceLines : playback.traceLines.length = 3 * items.length + 3
  length_consoleLines : playback.consoleLines.length = items.length

section Places

variable (loop : ItemLoop)

theorem length_iterations (items : List Binary64) (offset : Nat) :
    ((items.zipIdx offset).flatMap fun (x, index) => loop.itemEvents index x).length =
      3 * items.length := by
  induction items generalizing offset with
  | nil => rfl
  | cons x rest ih =>
      rw [List.zipIdx_cons, List.flatMap_cons, List.length_append, ih, List.length_cons]
      simp only [itemEvents, List.length_cons, List.length_nil]
      omega

theorem getElem?_iterations (items : List Binary64) (offset index : Nat) {place : Nat}
    (within : place < 3) :
    ((items.zipIdx offset).flatMap fun (x, index) => loop.itemEvents index x)[3 * index + place]? =
      items[index]?.bind fun x => (loop.itemEvents (offset + index) x)[place]? := by
  induction items generalizing offset index with
  | nil => rfl
  | cons x rest ih =>
      rw [List.zipIdx_cons, List.flatMap_cons]
      cases index with
      | zero =>
          rw [List.getElem?_append_left (by simp [itemEvents]; omega)]
          simp
      | succ index =>
          have behind : 3 * (index + 1) + place - (loop.itemEvents offset x).length =
              3 * index + place := by
            simp only [itemEvents, List.length_cons, List.length_nil]
            omega
          rw [List.getElem?_append_right (by simp [itemEvents]; omega), behind, ih,
            List.getElem?_cons_succ, Nat.add_right_comm, Nat.add_assoc]

theorem length_events : loop.events.length = 3 * loop.items.length + 3 := by
  unfold events
  rw [List.length_append, List.length_cons, loop.length_iterations]
  rfl

theorem getElem?_events_item {index : Nat} {x : Binary64} (found : loop.items[index]? = some x)
    {place : Nat} (within : place < 3) :
    loop.events[3 * index + place + 1]? = (loop.itemEvents index x)[place]? := by
  have inside : index < loop.items.length := (List.getElem?_eq_some_iff.mp found).1
  have early : 3 * index + place < 3 * loop.items.length := by omega
  unfold events
  rw [List.cons_append, List.getElem?_cons_succ,
    List.getElem?_append_left (by rw [loop.length_iterations]; exact early),
    loop.getElem?_iterations loop.items 0 index within, found, Option.bind_some, Nat.zero_add]

theorem getElem?_events_ending (place : Nat) :
    loop.events[3 * loop.items.length + place + 1]? =
      [loop.checkEvent loop.items.length "no (array finished)", loop.endEvent][place]? := by
  unfold events
  rw [List.cons_append, List.getElem?_cons_succ,
    List.getElem?_append_right (by rw [loop.length_iterations]; omega), loop.length_iterations,
    Nat.add_sub_cancel_left]

/-- The move from the last item reaches the place behind it. -/
theorem getElem?_events_lastMove (nonempty : loop.items ≠ []) :
    loop.events[3 * loop.items.length]? = some (loop.stepEvent loop.items.length) := by
  obtain ⟨last, count⟩ : ∃ last, loop.items.length = last + 1 :=
    Nat.exists_eq_add_one.mpr (List.length_pos_iff.mpr nonempty)
  have inside : last < loop.items.length := by omega
  rw [count]
  exact loop.getElem?_events_item (List.getElem?_eq_getElem inside) (show 2 < 3 by omega)

/-- Every event is the start, belongs to one of the items, or is one of the last two. -/
theorem event_cases {place : Nat} {event : Event} (found : loop.events[place]? = some event) :
    (place = 0 ∧ event = loop.startEvent) ∨
    (∃ index x, loop.items[index]? = some x ∧
      (place = 3 * index + 1 ∧ event = loop.checkEvent index "yes" ∨
        place = 3 * index + 2 ∧ event = loop.bodyEvent index x ∨
        place = 3 * index + 3 ∧ event = loop.stepEvent (index + 1))) ∨
    (place = 3 * loop.items.length + 1 ∧
      event = loop.checkEvent loop.items.length "no (array finished)") ∨
    (place = 3 * loop.items.length + 2 ∧ event = loop.endEvent) := by
  have within : place < 3 * loop.items.length + 3 := by
    rw [← length_events]
    exact (List.getElem?_eq_some_iff.mp found).1
  have split : place = 0 ∨ ∃ index part, part < 3 ∧ place = 3 * index + part + 1 := by
    rcases Nat.eq_zero_or_pos place with first | later
    · exact .inl first
    · exact .inr ⟨(place - 1) / 3, (place - 1) % 3, by omega, by omega⟩
  rcases split with rfl | ⟨index, part, small, rfl⟩
  · exact .inl ⟨rfl, (Option.some.inj found).symm⟩
  · right
    by_cases inside : index < loop.items.length
    · have item := List.getElem?_eq_getElem inside
      rw [loop.getElem?_events_item item small] at found
      refine .inl ⟨index, loop.items[index], item, ?_⟩
      rcases part with _ | _ | _ | _
      · exact .inl ⟨rfl, (Option.some.inj found).symm⟩
      · exact .inr (.inl ⟨rfl, (Option.some.inj found).symm⟩)
      · exact .inr (.inr ⟨rfl, (Option.some.inj found).symm⟩)
      · omega
    · obtain rfl : index = loop.items.length := by omega
      rw [loop.getElem?_events_ending] at found
      rcases part with _ | _ | _
      · exact .inr (.inl ⟨rfl, (Option.some.inj found).symm⟩)
      · exact .inr (.inr ⟨rfl, (Option.some.inj found).symm⟩)
      · omega

/-- At every place up to the one behind the last item, the index is checked. -/
theorem exists_check {index : Nat} (reached : index ≤ loop.items.length) :
    ∃ verdict, loop.events[3 * index + 1]? = some (loop.checkEvent index verdict) := by
  rcases Nat.lt_or_eq_of_le reached with inside | rfl
  · exact ⟨"yes", loop.getElem?_events_item (List.getElem?_eq_getElem inside) (show 0 < 3 by omega)⟩
  · exact ⟨"no (array finished)", loop.getElem?_events_ending 0⟩

end Places

section Counters

theorem counterText_item {items : List Binary64} {index : Nat} {x : Binary64}
    (found : items[index]? = some x) :
    counterText items (some index) =
      "index = " ++ Number.naturalText index ++ " (value " ++ x.text ++ ")" := by
  simp only [counterText, found]

theorem counterText_done (items : List Binary64) :
    counterText items (some items.length) =
      "index = " ++ Number.naturalText items.length ++ " (done)" := by
  simp only [counterText, List.getElem?_length]

theorem countText_eq (count : Nat) :
    countText count = Number.naturalText count ++ (if count = 1 then " item" else " items") := rfl

end Counters

section Events

variable (loop : ItemLoop)

theorem map_highlight_iterations (items : List Binary64) (offset : Nat) :
    ((items.zipIdx offset).flatMap fun (x, index) => loop.itemEvents index x).map
        Event.highlight =
      (List.replicate items.length [some Part.condition, some .body, some .step]).flatten := by
  induction items generalizing offset with
  | nil => rfl
  | cons x rest ih =>
      rw [List.zipIdx_cons, List.flatMap_cons, List.map_append, ih, List.length_cons,
        List.replicate_succ, List.flatten_cons]
      rfl

theorem map_highlight_events :
    loop.events.map Event.highlight =
      some .start ::
        (List.replicate loop.items.length [some Part.condition, some .body, some .step]).flatten ++
        [some .condition, none] := by
  unfold events
  rw [List.map_append, List.map_cons, loop.map_highlight_iterations]
  rfl

theorem isSome_console_iff {event : Event} (member : event ∈ loop.events) :
    event.console.isSome = true ↔ event.highlight = some .body := by
  obtain ⟨place, found⟩ := List.mem_iff_getElem?.mp member
  rcases loop.event_cases found with
    ⟨_, rfl⟩ | ⟨index, x, _, ⟨_, rfl⟩ | ⟨_, rfl⟩ | ⟨_, rfl⟩⟩ | ⟨_, rfl⟩ | ⟨_, rfl⟩
  all_goals simp [startEvent, checkEvent, bodyEvent, stepEvent, endEvent]

theorem isSome_trace {event : Event} (member : event ∈ loop.events) :
    event.trace.isSome = true := by
  obtain ⟨place, found⟩ := List.mem_iff_getElem?.mp member
  rcases loop.event_cases found with
    ⟨_, rfl⟩ | ⟨index, x, _, ⟨_, rfl⟩ | ⟨_, rfl⟩ | ⟨_, rfl⟩⟩ | ⟨_, rfl⟩ | ⟨_, rfl⟩
  all_goals rfl

/-- A move shows what the check after it shows. -/
theorem check_after_move {place : Nat} {move : Event} (found : loop.events[place]? = some move)
    (moves : move.highlight = some .step) :
    ∃ check, loop.events[place + 1]? = some check ∧ check.highlight = some .condition ∧
      check.counter = move.counter := by
  rcases loop.event_cases found with
    ⟨_, rfl⟩ | ⟨index, x, item, ⟨_, rfl⟩ | ⟨_, rfl⟩ | ⟨rfl, rfl⟩⟩ | ⟨_, rfl⟩ | ⟨_, rfl⟩
  · cases moves
  · cases moves
  · cases moves
  · have inside : index < loop.items.length := (List.getElem?_eq_some_iff.mp item).1
    obtain ⟨verdict, checked⟩ := loop.exists_check (Nat.succ_le_of_lt inside)
    exact ⟨_, checked, rfl, rfl⟩
  · cases moves
  · cases moves

theorem map_some_traceLines :
    loop.playback.traceLines.map some = loop.playback.events.map Event.trace := by
  change (loop.events.filterMap Event.trace).map some = loop.events.map Event.trace
  rw [List.map_filterMap_some_eq_filter_map_isSome, List.filter_eq_self]
  intro line listed
  obtain ⟨event, member, rfl⟩ := List.mem_map.mp listed
  exact loop.isSome_trace member

theorem map_some_consoleLines :
    loop.playback.consoleLines.map some = loop.playback.bodyEvents.map Event.console :=
  Playback.map_some_consoleLines rfl fun _event member => loop.isSome_console_iff member

end Events

/-- The playback of every loop over items is the run of an index over its array. -/
theorem playback_is_indexRun (loop : ItemLoop) :
    IndexRun loop.items loop.script loop.playback where
  highlights := loop.map_highlight_events
  printed := fun _event member => loop.isSome_console_iff member
  opening := ⟨loop.startEvent, rfl, rfl, by
    simp only [startEvent, countText_eq, String.append_assoc]⟩
  atItem := by
    intro index x found
    refine ⟨loop.checkEvent index "yes", loop.bodyEvent index x,
      loop.getElem?_events_item found (show 0 < 3 by omega),
      loop.getElem?_events_item found (show 1 < 3 by omega), ?_, ?_⟩
    · exact congrArg some (counterText_item found)
    · exact congrArg some (counterText_item found)
  handOver := fun _place _move found moves => loop.check_after_move found moves
  lastMove := fun nonempty => ⟨loop.stepEvent loop.items.length,
    loop.getElem?_events_lastMove nonempty, rfl, congrArg some (counterText_done loop.items)⟩
  ending := ⟨loop.checkEvent loop.items.length "no (array finished)", loop.endEvent,
    loop.getElem?_events_ending 0, loop.getElem?_events_ending 1,
    congrArg some (counterText_done loop.items), congrArg some (counterText_done loop.items), by
    simp only [endEvent, countText_eq, String.append_assoc]⟩
  finalCounter := counterText_done loop.items
  traceLines := loop.map_some_traceLines
  consoleLines := loop.map_some_consoleLines
  length_traceLines := by
    have lengths := congrArg List.length loop.map_some_traceLines
    rw [List.length_map, List.length_map] at lengths
    exact lengths.trans loop.length_events
  length_consoleLines := by
    have lengths := congrArg List.length loop.map_some_consoleLines
    rw [List.length_map, List.length_map, bodyEvents_playback, List.length_map,
      List.length_zipIdx] at lengths
    exact lengths

-- Without items, the start is followed by the check that fails.
example :
    let loop : ItemLoop := { items := [], message := "", itemName := "x", script := {} }
    loop.playback.events.map Event.counter =
      [some "index = -- (value --)", some "index = 0 (done)", some "index = 0 (done)"] := by
  decide

end ItemLoop
end LoopLesson
