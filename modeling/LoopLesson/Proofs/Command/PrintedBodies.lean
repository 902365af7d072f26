import LoopLesson.Proofs.Command.Running
import LoopLesson.Proofs.Playback.ItemRun
import LoopLesson.Proofs.Statement.Simultaneous
import LoopLesson.Proofs.Tutor.Refusals

/-!
A body that runs prints something.

No way of making a line out of a statement ends with an empty one, as long as no name is bound to an
empty text.  The loops bind numbers only.  So the console stays empty exactly if the body has never
run, and that is when the summary of a run says that nothing was printed.
-/

namespace LoopLesson

open Text

/-- No name is bound to an empty text. -/
def Bindings.Valued (bindings : Bindings) : Prop := ∀ entry ∈ bindings.entries, entry.2 ≠ ""

section Lines

theorem replaceWord_ne_nil (name : List Char) {value text : List Char} (valued : value ≠ [])
    (nonempty : text ≠ []) : replaceWord name value text ≠ [] := by
  by_cases usable : Pattern.Compiles (NamePattern.word name)
  case neg =>
    rw [replaceWord_of_not_compiles usable]
    exact nonempty
  obtain ⟨c, rest, rfl⟩ := List.exists_cons_of_ne_nil nonempty
  rw [replaceWord_of_compiles usable, replaceFrom]
  split
  · split
    · exact List.append_ne_nil_of_left_ne_nil valued _
    · exact List.append_ne_nil_of_left_ne_nil valued _
  · exact List.cons_ne_nil c _

theorem replaceEach_ne_nil {entries : List (String × String)}
    (valued : ∀ entry ∈ entries, entry.2 ≠ "") {text : List Char} (nonempty : text ≠ []) :
    replaceEach entries text ≠ [] := by
  induction entries generalizing text with
  | nil => exact nonempty
  | cons entry rest ih =>
      obtain ⟨first, later⟩ := List.forall_mem_cons.mp valued
      have letters : entry.2.toList ≠ [] := mt String.toList_eq_nil_iff.mp first
      exact ih later (replaceWord_ne_nil entry.1.toList letters nonempty)

variable {bindings : Bindings}

theorem ofList_substitute_ne_empty (valued : bindings.Valued) {text : List Char}
    (nonempty : text ≠ []) : String.ofList (substitute bindings text) ≠ "" := by
  rw [substitute_eq_replaceEach]
  exact mt String.ofList_eq_empty_iff.mp (replaceEach_ne_nil valued nonempty)

theorem consoleLine_ne_empty (valued : bindings.Valued) (statement : String) :
    consoleLine bindings statement ≠ "" := by
  unfold consoleLine
  dsimp only
  split
  · decide
  next written =>
    have replaced := ofList_substitute_ne_empty valued written
    split
    · exact replaced
    next arguments _call =>
      cases kept : ((splitArguments arguments).map (evaluateArgument bindings)).filter (· ≠ []) with
      | nil =>
          rw [if_pos rfl]
          exact replaced
      | cons value others =>
          have listed : value ∈ value :: others := List.mem_cons_self
          rw [← kept] at listed
          have letters : value ≠ [] := of_decide_eq_true (List.mem_filter.mp listed).2
          rw [if_neg (List.cons_ne_nil value others), List.map_cons]
          exact intercalate_cons_ne_empty " " (mt String.ofList_eq_empty_iff.mp letters) _

end Lines

section Bound

theorem Bindings.valued_empty : Bindings.empty.Valued := by
  intro entry member
  cases member

theorem Bindings.Valued.insert {bindings : Bindings} (valued : bindings.Valued) (name : String)
    {value : String} (nonempty : value ≠ "") : (bindings.insert name value).Valued := by
  intro entry member
  rcases mem_place member with placed | earlier
  · rw [placed]
    exact nonempty
  · exact valued entry earlier

theorem integerText_ne_empty (n : Int) : Number.integerText n ≠ "" := by
  unfold Number.integerText
  split
  · intro empty
    exact absurd (String.append_eq_empty_iff.mp empty).1 (by decide)
  · exact ItemLoop.naturalText_ne_empty n.natAbs

theorem CountingLoop.valued_bindings (loop : CountingLoop) (value : Int) :
    (loop.bindings value).Valued :=
  Bindings.valued_empty.insert loop.name (integerText_ne_empty value)

theorem ItemLoop.valued_bindings (loop : ItemLoop) (index : Nat) {x : Number.Binary64}
    (finite : x.isFinite = true) : (loop.bindings index x).Valued := by
  have shown : x.text ≠ "" := mt String.toList_eq_nil_iff.mpr (x.text_toList_ne_nil finite)
  exact (Bindings.valued_empty.insert loop.itemName shown).insert "index"
    (naturalText_ne_empty index)

end Bound

namespace Playback

/-- The body runs so often and prints a line each time, and nothing else prints. -/
structure PrintsInBody (playback : Playback) (count : Nat) : Prop where
  runs : playback.bodyEvents.length = count
  prints : ∀ event ∈ playback.bodyEvents, ∃ line, event.console = some line ∧ line ≠ ""
  consoleLines : playback.consoleLines.map some = playback.bodyEvents.map Event.console

theorem PrintsInBody.consoleText_eq_empty_iff {playback : Playback} {count : Nat}
    (printing : playback.PrintsInBody count) : playback.consoleText = "" ↔ count = 0 := by
  have lines := printing.consoleLines
  rw [← printing.runs, List.length_eq_zero_iff]
  unfold consoleText joinLines
  cases bodies : playback.bodyEvents with
  | nil =>
      rw [bodies, List.map_nil, List.map_eq_nil_iff] at lines
      rw [lines]
      exact iff_of_true rfl rfl
  | cons event rest =>
      obtain ⟨line, printed, nonempty⟩ := printing.prints event (bodies ▸ List.mem_cons_self)
      rw [bodies, List.map_cons, printed] at lines
      obtain ⟨first, others, split, same, _later⟩ := List.map_eq_cons_iff.mp lines
      rw [split, Option.some.inj same]
      exact iff_of_false (intercalate_cons_ne_empty _ nonempty others) (List.cons_ne_nil event rest)

end Playback

namespace CountingLoop

variable (kind : LoopKind) (loop : CountingLoop)

theorem bodyEvents_playback :
    (loop.playback kind).bodyEvents =
      (loop.values.zipIdx 1).map fun (value, iteration) => loop.bodyEvent iteration value := by
  unfold Playback.bodyEvents
  change (loop.startEvent kind.wording ::
    (loop.values.zipIdx 1).flatMap (fun (value, iteration) =>
      loop.iterationEvents kind.wording iteration value) ++
    [loop.checkEvent loop.exit "no", loop.endEvent]).filter _ = _
  have ending : [loop.checkEvent loop.exit "no", loop.endEvent].filter
      (fun event => decide (event.highlight = some .body)) = [] := rfl
  rw [List.filter_append, ending, List.append_nil, List.filter_cons_of_neg Bool.false_ne_true,
    List.filter_flatMap, List.map_eq_flatMap]
  rfl

theorem isSome_console_iff {wording : Wording} {event : Event}
    (member : event ∈ loop.events wording) :
    event.console.isSome = true ↔ event.highlight = some .body := by
  unfold events at member
  rcases List.mem_append.mp member with early | late
  · rcases List.mem_cons.mp early with rfl | inside
    · simp [startEvent]
    · obtain ⟨visit, _listed, inIteration⟩ := List.mem_flatMap.mp inside
      simp only [iterationEvents, List.mem_cons, List.not_mem_nil, or_false] at inIteration
      rcases inIteration with rfl | rfl | rfl
      · simp [checkEvent]
      · simp [bodyEvent]
      · simp [stepEvent]
  · simp only [List.mem_cons, List.not_mem_nil, or_false] at late
    rcases late with rfl | rfl
    · simp [checkEvent]
    · simp [endEvent]

theorem printsInBody_playback : (loop.playback kind).PrintsInBody loop.values.length where
  runs := by rw [bodyEvents_playback, List.length_map, List.length_zipIdx]
  prints := by
    intro event member
    rw [bodyEvents_playback] at member
    obtain ⟨visit, _listed, rfl⟩ := List.mem_map.mp member
    exact ⟨_, rfl, consoleLine_ne_empty (loop.valued_bindings visit.1) loop.script.body⟩
  consoleLines :=
    Playback.map_some_consoleLines rfl fun _event member => loop.isSome_console_iff member

end CountingLoop

theorem ItemLoop.printsInBody_playback {script : Script} {loop : ItemLoop}
    (readable : read script = .ok loop) : loop.playback.PrintsInBody loop.items.length where
  runs := by rw [bodyEvents_playback, List.length_map, List.length_zipIdx]
  prints := by
    intro event member
    rw [bodyEvents_playback] at member
    obtain ⟨item, listed, rfl⟩ := List.mem_map.mp member
    have finite : item.1.isFinite = true :=
      isFinite_of_readItems (read_eq_ok readable).1 item.1 (List.fst_mem_of_mem_zipIdx listed)
    exact ⟨_, rfl, consoleLine_ne_empty (loop.valued_bindings item.2 finite) loop.script.body⟩
  consoleLines := loop.map_some_consoleLines

namespace LoopKind

/-- How often the body of the loop that a script describes runs. -/
def iterations (kind : LoopKind) (script : Script) : Except LessonFault Nat :=
  match kind with
  | .forLoop | .whileLoop => (CountingLoop.read script).map fun loop => loop.values.length
  | .forEach => (ItemLoop.read script).map fun loop => loop.items.length

variable {kind : LoopKind} {script : Script} {playback : Playback}

theorem exists_iterations_of_play (plays : kind.play script = .ok playback) :
    ∃ count, kind.iterations script = .ok count ∧ playback.PrintsInBody count := by
  rcases exists_loop_of_play plays with
    ⟨loop, counts, readable, rfl⟩ | ⟨loop, rfl, readable, rfl⟩
  · refine ⟨loop.values.length, ?_, loop.printsInBody_playback kind⟩
    cases kind with
    | forLoop =>
        simp only [iterations, readable]
        rfl
    | whileLoop =>
        simp only [iterations, readable]
        rfl
    | forEach => exact absurd rfl counts
  · refine ⟨loop.items.length, ?_, ItemLoop.printsInBody_playback readable⟩
    simp only [iterations, readable]
    rfl

end LoopKind

namespace Display

variable {display : Display} {kind : LoopKind} {playback : Playback}

theorem notices_cancel (display : Display) (tutor : Tutor) :
    display.notices tutor.cancel.2 = [] := by
  rw [Tutor.notices_cancel]
  cases tutor.stepping with
  | none => rfl
  | some owner => rfl

theorem notices_run {tutor : Tutor} (plays : kind.play (tutor.lesson kind).script = .ok playback) :
    display.notices (tutor.run kind).notices = display.summary (Tutor.finalView playback) := by
  have given := display.notices_cancel tutor
  have final := display.notices_finalView kind (LoopKind.litUntilEnd_of_play plays).traced
  unfold notices at given final ⊢
  rw [Tutor.run_of_ok plays]
  dsimp only
  rw [List.flatMap_append, given, final, List.nil_append]

section Codes

theorem code_append {line : String} {code : Char} (found : line.toList[2]? = some code)
    (behind : String) : (line ++ behind).toList[2]? = some code := by
  have within : 2 < line.toList.length := (List.getElem?_eq_some_iff.mp found).1
  rw [String.toList_append, List.getElem?_append_left within, found]

/-- The codes of a painted line start at its third character. -/
theorem code_paint (ink : Ink) {code : Char} (opens : ink.opening[2]? = some code) (text : String) :
    (ink.paint true text).toList[2]? = some code := by
  have within : 2 < ink.opening.length := (List.getElem?_eq_some_iff.mp opens).1
  unfold Ink.paint
  rw [if_pos rfl, String.toList_ofList, List.append_assoc, List.getElem?_append_left within, opens]

theorem dimmed_ne_of_code (text : String) {line : String} (other : line.toList[2]? ≠ some '2') :
    Ink.dimmed.paint true text ≠ line := by
  rintro rfl
  exact other (code_paint .dimmed rfl text)

theorem mem_summary_iff (coloured : display.coloured = true) {view : View}
    (traced : view.trace.toList[2]? ≠ some '2') :
    .print (display.paint .dimmed "(nothing printed)") ∈ display.summary view ↔
      view.console = "" := by
  unfold summary paint
  rw [coloured]
  by_cases empty : view.console = ""
  · rw [if_pos empty]
    simp [empty]
  · rw [if_neg empty]
    refine iff_of_false ?_ empty
    have heading (text : String) :
        Ink.dimmed.paint true "(nothing printed)" ≠ Ink.heading.paint true text :=
      dimmed_ne_of_code _ (by rw [code_paint .heading rfl text]; decide)
    have green (text : String) :
        Ink.dimmed.paint true "(nothing printed)" ≠ Ink.green.paint true text :=
      dimmed_ne_of_code _ (by rw [code_paint .green rfl text]; decide)
    have counter (text behind : String) :
        Ink.dimmed.paint true "(nothing printed)" ≠ Ink.bold.paint true text ++ " " ++ behind :=
      dimmed_ne_of_code _
        (by rw [code_append (code_append (code_paint .bold rfl text) " ") behind]; decide)
    have blank : Ink.dimmed.paint true "(nothing printed)" ≠ "" :=
      dimmed_ne_of_code _ (by decide)
    have trace := dimmed_ne_of_code "(nothing printed)" traced
    cases display.showCounter <;> simp [heading, green, counter, trace, blank]

end Codes

end Display

section Labels

theorem Playback.code_traceText {start : Event} {label text : String} {code : Char}
    (traced : start.trace = some (label ++ text)) (labelled : label.toList[2]? = some code)
    (later : List Event) (finalCounter : String) :
    (ofEvents (start :: later) finalCounter).traceText.toList[2]? = some code := by
  have lines : (ofEvents (start :: later) finalCounter).traceLines =
      (label ++ text) :: later.filterMap Event.trace := List.filterMap_cons_some traced
  obtain ⟨behind, joined⟩ :=
    exists_intercalate_cons "\n" (label ++ text) (later.filterMap Event.trace)
  unfold traceText joinLines
  rw [lines, joined, String.append_assoc]
  exact Display.code_append labelled _

theorem LoopKind.code_traceText_of_play {kind : LoopKind} {script : Script} {playback : Playback}
    (plays : kind.play script = .ok playback) : playback.traceText.toList[2]? ≠ some '2' := by
  rcases exists_loop_of_play plays with
    ⟨loop, _counts, _readable, rfl⟩ | ⟨loop, _iterates, _readable, rfl⟩
  · have traced : (loop.startEvent kind.wording).trace = some (kind.wording.start ++
        (": " ++ loop.script.start ++ " sets " ++ loop.counterText loop.start)) := by
      simp only [CountingLoop.startEvent, String.append_assoc]
    obtain ⟨code, labelled, other⟩ : ∃ code, kind.wording.start.toList[2]? = some code ∧
        some code ≠ some '2' := by
      cases kind with
      | forLoop => exact ⟨'a', by decide, by decide⟩
      | whileLoop => exact ⟨'f', by decide, by decide⟩
      | forEach => exact ⟨'a', by decide, by decide⟩
    unfold CountingLoop.playback CountingLoop.events
    rw [List.cons_append, Playback.code_traceText traced labelled]
    exact other
  · have traced : loop.startEvent.trace = some ("Start: " ++
        (loop.script.start ++ " holds " ++ ItemLoop.countText loop.items.length)) := by
      simp only [ItemLoop.startEvent, String.append_assoc]
    have labelled : "Start: ".toList[2]? = some 'a' := by decide
    unfold ItemLoop.playback ItemLoop.events
    rw [List.cons_append, Playback.code_traceText traced labelled]
    decide

end Labels

/-- If no name is bound to an empty text, no statement prints an empty line.  So in every lesson the
body prints a line whenever it runs, and the console stays empty exactly if the body never runs.
The summary of a run says that nothing was printed in this case and shows the console in all
others; in colour, that sentence is among the printed lines in this case only. -/
theorem body_that_runs_prints :
    (∀ (bindings : Bindings) (statement : String),
      (∀ entry ∈ bindings.entries, entry.2 ≠ "") → consoleLine bindings statement ≠ "") ∧
    ∀ (kind : LoopKind) (script : Script) (playback : Playback),
      kind.play script = .ok playback →
      (∀ event ∈ playback.bodyEvents, ∃ line, event.console = some line ∧ line ≠ "") ∧
      ∃ count,
        kind.iterations script = .ok count ∧ playback.bodyEvents.length = count ∧
        (playback.consoleText = "" ↔ count = 0) ∧
        ∀ (tutor : Tutor) (display : Display), (tutor.lesson kind).script = script →
          let printed := display.notices (tutor.run kind).notices
          printed =
            [.print (display.paint .heading "Trace"), .print playback.traceText, .print "",
              .print (display.paint .heading "Console"),
              .print (if count = 0 then display.paint .dimmed "(nothing printed)"
                else display.paint .green playback.consoleText)] ++
              (if display.showCounter then
                [.print "", .print (display.paint .bold "Counter:" ++ " " ++
                  display.paint .yellow playback.finalCounter)]
              else []) ∧
          (display.coloured = true →
            (.print (display.paint .dimmed "(nothing printed)") ∈ printed ↔ count = 0)) := by
  refine ⟨fun bindings statement valued => consoleLine_ne_empty valued statement, ?_⟩
  intro kind script playback plays
  obtain ⟨count, iterated, printing⟩ := LoopKind.exists_iterations_of_play plays
  have silent := printing.consoleText_eq_empty_iff
  refine ⟨printing.prints, count, iterated, printing.runs, silent, ?_⟩
  intro tutor display scripted printed
  have summarised : printed = display.summary (Tutor.finalView playback) :=
    Display.notices_run (scripted ▸ plays)
  clear_value printed
  subst summarised
  constructor
  · have chosen (sentence lines : String) :
        (if playback.consoleText = "" then sentence else lines) =
          if count = 0 then sentence else lines :=
      if_congr silent rfl rfl
    rw [← chosen]
    rfl
  · intro coloured
    have traced : (Tutor.finalView playback).trace.toList[2]? ≠ some '2' :=
      LoopKind.code_traceText_of_play plays
    exact (Display.mem_summary_iff coloured traced).trans silent

/-- A loop that is left at once, and one whose body runs once and prints that same sentence. -/
theorem idle_and_printing_loops :
    consoleLine (.ofList [("", "!"), ("i", "3")]) "console.log('', \"\")" ≠ "" ∧
    let placeholder := Effect.print (Ink.dimmed.paint true "(nothing printed)")
    let shown (script : Script) : List Effect :=
      Display.notices { coloured := true, showCounter := true }
        ((Tutor.initial.load .whileLoop script).tutor.run .whileLoop).notices
    ∃ idle printing : CountingLoop,
      CountingLoop.read idle.script = .ok idle ∧ idle.values = [] ∧
      CountingLoop.read printing.script = .ok printing ∧ printing.values = [5] ∧
      placeholder ∈ shown idle.script ∧ placeholder ∉ shown printing.script := by
  obtain ⟨lines, lessons⟩ := body_that_runs_prints
  refine ⟨lines _ _ (by decide +kernel), ?_⟩
  intro placeholder shown
  have shownOnce (loop : CountingLoop) (readable : CountingLoop.read loop.script = .ok loop) :
      placeholder ∈ shown loop.script ↔ loop.values.length = 0 := by
    have plays : LoopKind.whileLoop.play loop.script = .ok (loop.playback .whileLoop) := by
      simp only [LoopKind.play, readable]
      rfl
    obtain ⟨_printing, count, iterated, _runs, _silent, displayed⟩ := lessons _ _ _ plays
    have counted : LoopKind.whileLoop.iterations loop.script = .ok loop.values.length := by
      simp only [LoopKind.iterations, readable]
      rfl
    obtain rfl : loop.values.length = count := Except.ok.inj (counted.symm.trans iterated)
    exact (displayed (Tutor.initial.load .whileLoop loop.script).tutor
      { coloured := true, showCounter := true } rfl).2 rfl
  let idle : CountingLoop :=
    { name := "i"
      start := 5
      comparison := .atMost
      bound := 4
      step := 1
      values := []
      exit := 5
      message := CountingLoop.defaultMessage
      script := { start := "let i = 5", condition := "i <= 4", step := "i = i + 1", body := "i" } }
  let printing : CountingLoop :=
    { name := "i"
      start := 5
      comparison := .atMost
      bound := 5
      step := 1
      values := [5]
      exit := 6
      message := "(nothing printed)"
      script :=
        { start := "let i = 5"
          condition := "i <= 5"
          step := "i = i + 1"
          body := "console.log('(nothing printed)')" } }
  have idleRead : CountingLoop.read idle.script = .ok idle := by decide +kernel
  have printingRead : CountingLoop.read printing.script = .ok printing := by decide +kernel
  refine ⟨idle, printing, idleRead, rfl, printingRead, rfl, ?_, ?_⟩
  · exact (shownOnce idle idleRead).mpr rfl
  · exact fun member => absurd ((shownOnce printing printingRead).mp member) (by decide)

end LoopLesson
