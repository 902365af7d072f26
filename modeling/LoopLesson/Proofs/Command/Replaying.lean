import Mathlib.Data.List.Infix
import LoopLesson.Proofs.Command.Running
import LoopLesson.Proofs.Tutor.Stepping

/-!
Stepping through a lesson on the command line replays a run of it.

Each reveal prints one frame.  The last one, which leaves nothing highlighted, first prints the
block that a run prints.  By time, every event is revealed after a wait; by lines, one for each line
of the input until the events, the lines or their being text come to an end.
-/

namespace LoopLesson

theorem Outcome.after_after (outcome : Outcome) (first second : List Effect) :
    (outcome.after second).after first = outcome.after (first ++ second) := by
  unfold after
  rw [List.append_assoc]

namespace Playback

variable {playback : Playback} {index : Nat} {frame : Frame}

theorem isLast_of_frame? (found : playback.frame? index = some frame) :
    frame.isLast = decide (index + 1 = playback.events.length) := by
  unfold frame? at found
  obtain ⟨event, _present, rfl⟩ := Option.map_eq_some_iff.mp found
  rfl

theorem drop_frames (found : playback.frame? index = some frame) :
    playback.frames.drop index = frame :: playback.frames.drop (index + 1) := by
  have listed : playback.frames[index]? = some frame := (playback.getElem?_frames index).trans found
  obtain ⟨within, same⟩ := List.getElem?_eq_some_iff.mp listed
  rw [List.drop_eq_getElem_cons within, same]

theorem exists_last_frame (nonempty : playback.events ≠ []) :
    ∃ earlier last, playback.frames = earlier ++ [last] := by
  have someFrame : playback.frames ≠ [] := by
    rw [← List.length_pos_iff, playback.length_frames]
    exact List.length_pos_iff.mpr nonempty
  exact ⟨_, _, (List.dropLast_concat_getLast someFrame).symm⟩

theorem highlight_viewAfter (left : index < playback.events.length) :
    (playback.viewAfter (index + 1)).highlight = playback.events[index].highlight := by
  unfold viewAfter
  rw [Nat.min_eq_left left]
  change (Shown.ofEvents (playback.events.take (index + 1))).highlight = _
  rw [← List.take_append_getElem left, Shown.ofEvents_concat]
  rfl

end Playback

namespace Program

section Revealing

variable (display : Display) {kind : LoopKind} {playback : Playback} {tutor : Tutor}
  {position : Nat} (stands : tutor.StandsAt kind playback position) (lit : playback.LitUntilEnd)
include stands lit

/-- Before the last event, a reveal prints one frame. -/
theorem reveal_of_early (early : position + 1 < playback.events.length) :
    ∃ frame next, playback.frame? position = some frame ∧
      next.StandsAt kind playback (position + 1) ∧
      reveal display kind tutor = (next, display.frame frame, true) := by
  have left : position < playback.events.length := by omega
  obtain ⟨frame, found⟩ := playback.frame?_of_lt left
  obtain ⟨answer, notices, moved⟩ := stands.perform_advance
  have more : frame.isLast = false := by
    rw [Playback.isLast_of_frame? found]
    exact decide_eq_false (by omega)
  have highlighted : (playback.viewAfter (position + 1)).highlight ≠ none := by
    rw [Playback.highlight_viewAfter left]
    exact lit.highlight_ne_none early
  have silent : display.notices (Tutor.advanceNotices kind playback position) = [] := by
    unfold Tutor.advanceNotices Display.notices
    rw [if_pos left, List.flatMap_singleton, Display.notice, if_neg]
    intro shown
    exact highlighted shown.1
  refine ⟨frame, (tutor.advance kind).tutor, found, moved, ?_⟩
  change (tutor.advance kind).answer = _ at answer
  change (tutor.advance kind).notices = _ at notices
  unfold reveal
  simp only [answer, found, notices, silent, more, List.nil_append, Bool.not_false]

/-- The last reveal prints the whole lesson before its frame, and no more may follow. -/
theorem reveal_of_last (last : position + 1 = playback.events.length) :
    ∃ frame next, playback.frame? position = some frame ∧
      reveal display kind tutor =
        (next, display.summary (Tutor.finalView playback) ++ display.frame frame, false) := by
  have left : position < playback.events.length := by omega
  obtain ⟨frame, found⟩ := playback.frame?_of_lt left
  obtain ⟨answer, notices, _moved⟩ := stands.perform_advance
  have noMore : frame.isLast = true := by
    rw [Playback.isLast_of_frame? found]
    exact decide_eq_true last
  have whole : display.notices (Tutor.advanceNotices kind playback position) =
      display.summary (Tutor.finalView playback) := by
    unfold Tutor.advanceNotices
    rw [if_pos left, lit.toClosed.viewAfter_of_le (Nat.le_of_eq last.symm)]
    exact display.notices_finalView kind lit.traced
  refine ⟨frame, (tutor.advance kind).tutor, found, ?_⟩
  change (tutor.advance kind).answer = _ at answer
  change (tutor.advance kind).notices = _ at notices
  unfold reveal
  simp only [answer, found, notices, whole, noMore, Bool.not_true]

theorem stepByLines_of_early (lines : List String) (rest : List (Option String))
    (early : position + lines.length < playback.events.length) :
    ∃ later, later.StandsAt kind playback (position + lines.length) ∧
      stepByLines display kind tutor (lines.map some ++ rest) =
        (stepByLines display kind later rest).after
          (((playback.frames.drop position).take lines.length).flatMap display.frame) := by
  induction lines generalizing tutor position with
  | nil => exact ⟨tutor, stands, rfl⟩
  | cons line lines ih =>
      rw [List.length_cons] at early
      obtain ⟨frame, next, found, moved, reveals⟩ := reveal_of_early display stands lit (by omega)
      obtain ⟨later, reached, followed⟩ := ih moved (by omega)
      refine ⟨later, ?_, ?_⟩
      · rw [List.length_cons, Nat.add_comm lines.length 1, ← Nat.add_assoc]
        exact reached
      · rw [List.map_cons, List.cons_append, stepByLines]
        simp only [reveals, if_true]
        rw [followed, Outcome.after_after, Playback.drop_frames found, List.length_cons,
          List.take_succ_cons, List.flatMap_cons]

theorem stepByTime_of_early (delay count more : Nat)
    (early : position + count < playback.events.length) :
    ∃ later, later.StandsAt kind playback (position + count) ∧
      stepByTime display kind delay (count + more) tutor =
        (stepByTime display kind delay more later).after
          (((playback.frames.drop position).take count).flatMap fun frame =>
            .pause delay :: display.frame frame) := by
  induction count generalizing tutor position with
  | zero =>
      refine ⟨tutor, stands, ?_⟩
      rw [Nat.zero_add]
      rfl
  | succ count ih =>
      obtain ⟨frame, next, found, moved, reveals⟩ := reveal_of_early display stands lit (by omega)
      obtain ⟨later, reached, followed⟩ := ih moved (by omega)
      refine ⟨later, ?_, ?_⟩
      · rw [Nat.add_comm count 1, ← Nat.add_assoc]
        exact reached
      · rw [Nat.succ_add, stepByTime]
        simp only [reveals, if_true]
        rw [followed, Outcome.after_after, Playback.drop_frames found, List.take_succ_cons,
          List.flatMap_cons]

end Revealing

section FromTheStart

variable (display : Display) {kind : LoopKind} {playback : Playback} {tutor : Tutor}
  (stands : tutor.StandsAt kind playback 0) (lit : playback.LitUntilEnd)
  {earlier : List Frame} {last : Frame} (split : playback.frames = earlier ++ [last])
include stands lit split

omit stands lit in
theorem length_earlier : playback.events.length = earlier.length + 1 := by
  rw [← playback.length_frames, split, List.length_append, List.length_singleton]

omit stands lit in
theorem take_frames {count : Nat} (early : count < playback.events.length) :
    playback.frames.take count = earlier.take count := by
  have total := length_earlier split
  rw [split, List.take_append_of_le_length (by omega)]

omit stands lit in
theorem frame?_last : playback.frame? earlier.length = some last := by
  rw [← playback.getElem?_frames, split]
  exact List.getElem?_concat_length

/-- With a line for every event, the last line prints the whole lesson before its frame, and what
follows it in the input is not looked at. -/
theorem stepByLines_of_enough {lines : List String} (rest : List (Option String))
    (enough : playback.events.length ≤ lines.length) :
    stepByLines display kind tutor (lines.map some ++ rest) =
      { effects := earlier.flatMap display.frame ++
          (display.summary (Tutor.finalView playback) ++ display.frame last)
        ending := .finished } := by
  have total := length_earlier split
  have within : earlier.length < lines.length := by omega
  have cut : lines.map some ++ rest =
      (lines.take earlier.length).map some ++
        (some lines[earlier.length] :: ((lines.drop (earlier.length + 1)).map some ++ rest)) := by
    rw [← List.cons_append, ← List.map_cons, ← List.drop_eq_getElem_cons within,
      ← List.append_assoc, ← List.map_append, List.take_append_drop]
  have length : (lines.take earlier.length).length = earlier.length :=
    List.length_take_of_le (Nat.le_of_lt within)
  obtain ⟨later, reached, followed⟩ := stepByLines_of_early display stands lit
    (lines.take earlier.length)
    (some lines[earlier.length] :: ((lines.drop (earlier.length + 1)).map some ++ rest)) (by omega)
  rw [length, Nat.zero_add] at reached
  obtain ⟨frame, next, found, reveals⟩ := reveal_of_last display reached lit total.symm
  have same : frame = last := Option.some.inj (found.symm.trans (frame?_last split))
  rw [cut, followed, length, List.drop_zero, take_frames split (by omega), List.take_length,
    stepByLines]
  simp only [reveals, same, Bool.false_eq_true, if_false]
  rfl

theorem stepByTime_all (delay : Nat) :
    stepByTime display kind delay playback.events.length tutor =
      { effects := (earlier.flatMap fun frame => .pause delay :: display.frame frame) ++
          .pause delay :: (display.summary (Tutor.finalView playback) ++ display.frame last)
        ending := .finished } := by
  have total := length_earlier split
  obtain ⟨later, reached, followed⟩ := stepByTime_of_early display stands lit delay earlier.length 1
    (by omega)
  rw [Nat.zero_add] at reached
  obtain ⟨frame, next, found, reveals⟩ := reveal_of_last display reached lit total.symm
  have same : frame = last := Option.some.inj (found.symm.trans (frame?_last split))
  rw [total, followed, List.drop_zero, take_frames split (by omega), List.take_length, stepByTime]
  simp only [reveals, same, Bool.false_eq_true, if_false]
  rfl

end FromTheStart

section WholeCommand

variable {surroundings : Surroundings} {kind : LoopKind} {options : ScriptOptions} {script : Script}
  {playback : Playback} (found : scriptInForce surroundings kind options = .ok script)
  (plays : kind.play script = .ok playback) (settings : Settings) (display : Display)
include found plays

omit found in
theorem standsAt_prepared :
    ((Tutor.prepared kind script).step kind).tutor.StandsAt kind playback 0 := by
  apply Tutor.standsAt_step
  rw [Tutor.script_prepared]
  exact plays

theorem step_by_time {earlier : List Frame} {last : Frame}
    (split : playback.frames = earlier ++ [last]) :
    step surroundings settings display kind options true =
      { effects := .print (display.paint .bold kind.title) ::
          ((earlier.flatMap fun frame => .pause settings.autoAdvance :: display.frame frame) ++
            .pause settings.autoAdvance ::
              (display.summary (Tutor.finalView playback) ++ display.frame last))
        ending := .finished } := by
  obtain ⟨notices, answer⟩ := Tutor.step_prepared_of_ok plays
  have timed := stepByTime_all display (standsAt_prepared plays)
    (LoopKind.litUntilEnd_of_play plays) split settings.autoAdvance
  unfold step
  rw [loadScript_initial, found]
  simp only [Except.map, notices, answer, if_true, timed]
  rfl

theorem step_by_lines (input : List (Option String)) :
    step { surroundings with input } settings display kind options false =
      (stepByLines display kind ((Tutor.prepared kind script).step kind).tutor input).after
        [.print (display.paint .bold kind.title),
          .print (display.paint .dimmed (stepHint playback.events.length))] := by
  have sameScript : scriptInForce { surroundings with input } kind options = .ok script := found
  obtain ⟨notices, answer⟩ := Tutor.step_prepared_of_ok plays
  unfold step
  rw [loadScript_initial, sameScript]
  simp only [Except.map, notices, answer, Bool.false_eq_true, if_false]
  rfl

theorem step_of_enough_lines {earlier : List Frame} {last : Frame}
    (split : playback.frames = earlier ++ [last]) {lines : List String}
    (enough : playback.events.length ≤ lines.length) (rest : List (Option String)) :
    step { surroundings with input := lines.map some ++ rest } settings display kind options false =
      { effects := .print (display.paint .bold kind.title) ::
          .print (display.paint .dimmed (stepHint playback.events.length)) ::
            (earlier.flatMap display.frame ++
              (display.summary (Tutor.finalView playback) ++ display.frame last))
        ending := .finished } := by
  rw [step_by_lines found plays, stepByLines_of_enough display (standsAt_prepared plays)
    (LoopKind.litUntilEnd_of_play plays) split rest enough]
  rfl

theorem step_of_few_lines {lines : List String} (few : lines.length < playback.events.length)
    (rest : List (Option String)) :
    ∃ later, step { surroundings with input := lines.map some ++ rest } settings display kind
        options false =
      (stepByLines display kind later rest).after
        (.print (display.paint .bold kind.title) ::
          .print (display.paint .dimmed (stepHint playback.events.length)) ::
            (playback.frames.take lines.length).flatMap display.frame) := by
  obtain ⟨later, _reached, followed⟩ := stepByLines_of_early display (standsAt_prepared plays)
    (LoopKind.litUntilEnd_of_play plays) lines rest (by omega)
  refine ⟨later, ?_⟩
  rw [step_by_lines found plays, followed, Outcome.after_after]
  rfl

theorem step_of_lines {earlier : List Frame} {last : Frame}
    (split : playback.frames = earlier ++ [last]) (lines : List String) :
    step { surroundings with input := lines.map some } settings display kind options false =
      { effects := .print (display.paint .bold kind.title) ::
          .print (display.paint .dimmed (stepHint playback.events.length)) ::
            if lines.length < playback.events.length then
              (playback.frames.take lines.length).flatMap display.frame
            else
              earlier.flatMap display.frame ++
                (display.summary (Tutor.finalView playback) ++ display.frame last)
        ending := if lines.length < playback.events.length then .inputEnded else .finished } := by
  rw [← List.append_nil (lines.map some)]
  by_cases few : lines.length < playback.events.length
  · obtain ⟨later, prints⟩ := step_of_few_lines found plays settings display few []
    rw [prints, stepByLines, Outcome.after, List.append_nil, if_pos few, if_pos few]
  · have enough := Nat.le_of_not_lt few
    rw [step_of_enough_lines found plays settings display split enough, if_neg few, if_neg few]

/-- More lines only add to what is printed. -/
theorem prefix_step_of_lines {shorter longer : List String}
    (lengths : shorter.length ≤ longer.length) :
    (step { surroundings with input := shorter.map some } settings display kind options
      false).effects <+:
    (step { surroundings with input := longer.map some } settings display kind options
      false).effects := by
  obtain ⟨earlier, last, split⟩ :=
    Playback.exists_last_frame (LoopKind.closed_of_play plays).events_ne_nil
  rw [step_of_lines found plays settings display split,
    step_of_lines found plays settings display split]
  apply (List.prefix_cons_inj _).mpr
  apply (List.prefix_cons_inj _).mpr
  by_cases few : shorter.length < playback.events.length
  · rw [if_pos few]
    by_cases alsoFew : longer.length < playback.events.length
    · rw [if_pos alsoFew]
      exact (List.take_prefix_take_left lengths).flatMap display.frame
    · rw [if_neg alsoFew, take_frames split few]
      exact ((List.take_prefix _ _).flatMap display.frame).trans (List.prefix_append _ _)
  · have enough : ¬longer.length < playback.events.length := by omega
    rw [if_neg few, if_neg enough]

end WholeCommand

/-- Wherever a lesson plays, stepping through it prints the title and then the frames of its events,
the last of them behind the block that a run of the lesson prints after the title.  Stepping by
lines prints a frame for each line that is text, as long as there are events left. -/
theorem step_replays_run {surroundings : Surroundings} (settings : Settings) {kind : LoopKind}
    {options : ScriptOptions} {script : Script} {playback : Playback}
    (found : scriptInForce surroundings kind options = .ok script)
    (plays : kind.play script = .ok playback) :
    let display : Display := { coloured := settings.colour, showCounter := settings.showCounter }
    let total := playback.events.length
    let title := Effect.print (display.paint .bold kind.title)
    let hint := Effect.print
      (display.paint .dimmed (Number.naturalText total ++ " steps. Press Enter to advance."))
    let ran := perform surroundings settings (.run kind options false)
    let timed := perform surroundings settings (.step kind options true)
    let stepped (input : List (Option String)) :=
      perform { surroundings with input } settings (.step kind options false)
    ∃ block earlier last,
      ran.effects = title :: block ∧ playback.frames = earlier ++ [last] ∧
      timed.effects = title ::
        ((earlier.flatMap fun frame => .pause settings.autoAdvance :: display.frame frame) ++
          .pause settings.autoAdvance :: (block ++ display.frame last)) ∧
      timed.ending.exitCode = 0 ∧
      (∀ lines : List String, lines.length < total →
        stepped (lines.map some) =
          { effects := title :: hint :: (playback.frames.take lines.length).flatMap display.frame
            ending := .inputEnded }) ∧
      (∀ (lines : List String) (rest : List (Option String)), total ≤ lines.length →
        stepped (lines.map some ++ rest) =
          { effects := title :: hint ::
              (earlier.flatMap display.frame ++ (block ++ display.frame last))
            ending := .finished }) ∧
      (∀ lines : List String, (stepped (lines.map some)).ending.exitCode = 0) ∧
      (∀ shorter longer : List String, shorter.length ≤ longer.length →
        (stepped (shorter.map some)).effects <+: (stepped (longer.map some)).effects) ∧
      ∀ (lines : List String) (rest : List (Option String)), lines.length < total →
        stepped (lines.map some ++ none :: rest) =
          { effects := title :: hint :: (playback.frames.take lines.length).flatMap display.frame
            ending := .failed .input } ∧
        "Failed to read from stdin" ∈ ProgramFault.input.chain := by
  intro display total title hint ran timed stepped
  obtain ⟨earlier, last, split⟩ :=
    Playback.exists_last_frame (LoopKind.closed_of_play plays).events_ne_nil
  have block : run surroundings display kind options = _ := run_of_play_ok found plays
  have byTime := step_by_time found plays settings display split
  have byLines := step_of_lines found plays settings display split
  refine ⟨display.summary (Tutor.finalView playback), earlier, last,
    congrArg Outcome.effects block, split, congrArg Outcome.effects byTime,
    congrArg (fun outcome : Outcome => outcome.ending.exitCode) byTime, ?_, ?_, ?_, ?_, ?_⟩
  · intro lines few
    refine (byLines lines).trans ?_
    rw [if_pos few, if_pos few]
    rfl
  · intro lines rest enough
    exact step_of_enough_lines found plays settings display split enough rest
  · intro lines
    refine (congrArg (fun outcome : Outcome => outcome.ending.exitCode) (byLines lines)).trans ?_
    split <;> rfl
  · intro shorter longer lengths
    exact prefix_step_of_lines found plays settings display lengths
  · intro lines rest few
    obtain ⟨later, prints⟩ := step_of_few_lines found plays settings display few (none :: rest)
    refine ⟨prints.trans ?_, by decide⟩
    rw [stepByLines, Outcome.after, List.append_nil]
    rfl

theorem replay_of_three_events :
    ∃ (surroundings : Surroundings) (settings : Settings) (options : ScriptOptions)
      (script : Script) (playback : Playback),
      scriptInForce surroundings .whileLoop options = .ok script ∧
      LoopKind.whileLoop.play script = .ok playback ∧ playback.events.length = 3 ∧
      (perform { surroundings with input := [some "", some ""] } settings
        (.step .whileLoop options false)).ending = .inputEnded ∧
      (perform { surroundings with input := [some "", none, some ""] } settings
        (.step .whileLoop options false)).ending = .failed .input ∧
      (perform { surroundings with input := [some "", some "", some "", none] } settings
        (.step .whileLoop options false)).ending = .finished := by
  let surroundings : Surroundings :=
    { file := fun _ => .error .notFound
      userSettings := .error .notFound
      settingsReport := id
      scriptReport := id
      input := []
      logBlocked := false
      coloured := false }
  let options : ScriptOptions := { start := some "let i = 9" }
  let script : Script := { LoopKind.whileLoop.defaultScript with start := "let i = 9" }
  let playback : Playback := .ofEvents
    [{ highlight := some .start
       trace := some "Before the loop: let i = 9 sets i = 9"
       counter := some "i = 9" },
     { highlight := some .condition
       trace := some "Check i <= 5 with i = 9 -> no"
       counter := some "i = 9" },
     { trace := some "Loop finished with i = 9"
       counter := some "i = 9" }] "i = 9"
  have found : scriptInForce surroundings .whileLoop options = .ok script := rfl
  have plays : LoopKind.whileLoop.play script = .ok playback := by decide +kernel
  obtain ⟨_block, _earlier, _last, _ran, _split, _timed, _timedEnd, few, enough, _code, _starts,
    unreadable⟩ := step_replays_run .default found plays
  exact ⟨surroundings, .default, options, script, playback, found, plays, rfl,
    congrArg Outcome.ending (few ["", ""] (by decide)),
    congrArg Outcome.ending (unreadable [""] [some ""] (by decide)).1,
    congrArg Outcome.ending (enough ["", "", ""] [none] (by decide))⟩

end Program

end LoopLesson
