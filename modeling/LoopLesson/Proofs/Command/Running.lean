import LoopLesson.Proofs.Command.Loading
import LoopLesson.Proofs.Playback.Highlights

/-!
Running a lesson as text and as JSON.

Both ways play the script in force and end alike: they fail on the same files and the same scripts,
with the same chain of causes.  What they print comes from the same playback.
-/

namespace LoopLesson

theorem Display.notices_finalView (display : Display) (kind : LoopKind) {playback : Playback}
    (traced : playback.traceText ≠ "") :
    display.notices [.render kind (Tutor.finalView playback)] =
      display.summary (Tutor.finalView playback) := by
  have whole : (Tutor.finalView playback).highlight = none ∧
      (Tutor.finalView playback).trace ≠ "" := ⟨rfl, traced⟩
  unfold notices
  rw [List.flatMap_singleton, notice, if_pos whole]

namespace Program

variable {surroundings : Surroundings} {display : Display} {kind : LoopKind}
  {options : ScriptOptions} {script : Script}

theorem run_of_scriptInForce_error {fault : ProgramFault}
    (failed : scriptInForce surroundings kind options = .error fault) :
    run surroundings display kind options = { effects := [], ending := .failed fault } := by
  unfold run
  rw [loadScript_initial, failed]
  rfl

theorem runJson_of_scriptInForce_error {fault : ProgramFault}
    (failed : scriptInForce surroundings kind options = .error fault) :
    runJson surroundings kind options = { effects := [], ending := .failed fault } := by
  unfold runJson
  rw [loadScript_initial, failed]
  rfl

section Playing

variable (found : scriptInForce surroundings kind options = .ok script)
include found

theorem run_of_play_ok {playback : Playback} (plays : kind.play script = .ok playback) :
    run surroundings display kind options =
      { effects := .print (display.paint .bold kind.title) ::
          display.summary (Tutor.finalView playback)
        ending := .finished } := by
  obtain ⟨notices, answer⟩ := Tutor.run_prepared_of_ok plays
  have printed := display.notices_finalView kind (LoopKind.litUntilEnd_of_play plays).traced
  unfold run
  rw [loadScript_initial, found]
  simp only [Except.map, notices, answer, printed]
  rfl

theorem run_of_play_error {fault : LessonFault} (fails : kind.play script = .error fault) :
    run surroundings display kind options =
      { effects := [.print (display.paint .bold kind.title),
          .complain (display.paint .boldRed (kind.name ++ ":") ++ " " ++
            display.paint .red fault.message)]
        ending := .failed (.run kind fault) } := by
  obtain ⟨notices, answer⟩ := Tutor.run_prepared_of_error fails
  unfold run
  rw [loadScript_initial, found]
  simp only [Except.map, notices, answer]
  rfl

theorem runJson_of_play_ok {playback : Playback} (plays : kind.play script = .ok playback) :
    runJson surroundings kind options =
      { effects := [.print (playback.toJson.pretty 0)], ending := .finished } := by
  obtain ⟨_notices, answer⟩ := Tutor.run_prepared_of_ok plays
  unfold runJson
  rw [loadScript_initial, found]
  simp only [Except.map, answer]

theorem runJson_of_play_error {fault : LessonFault} (fails : kind.play script = .error fault) :
    runJson surroundings kind options =
      { effects := [.print ((Json.object [("error", .text fault.message)]).pretty 0)]
        ending := .failed (.run kind fault) } := by
  obtain ⟨_notices, answer⟩ := Tutor.run_prepared_of_error fails
  unfold runJson
  rw [loadScript_initial, found]
  simp only [Except.map, answer]

end Playing

theorem ending_run (surroundings : Surroundings) (display : Display) (kind : LoopKind)
    (options : ScriptOptions) :
    (run surroundings display kind options).ending =
      (runJson surroundings kind options).ending := by
  cases found : scriptInForce surroundings kind options with
  | error fault => rw [run_of_scriptInForce_error found, runJson_of_scriptInForce_error found]
  | ok script =>
      cases played : kind.play script with
      | error fault => rw [run_of_play_error found played, runJson_of_play_error found played]
      | ok playback => rw [run_of_play_ok found played, runJson_of_play_ok found played]

theorem ending_invoke_of_perform {config : Option String} {verbose : Bool} {command other : Command}
    (same : ∀ settings, (perform surroundings settings command).ending =
      (perform surroundings settings other).ending) :
    (invoke surroundings { config, verbose, command }).ending =
      (invoke surroundings { config, verbose, command := other }).ending := by
  unfold invoke
  cases findSettings surroundings config with
  | error fault => rfl
  | ok settings =>
      cases surroundings.logBlocked with
      | true => rfl
      | false => exact same settings

/-- For all surroundings, settings, lessons and options, a run and a run as JSON end alike.  They
fail alike if the script file cannot be used.  Otherwise both play the same script, part by part the
text in force: if it plays they print that playback, and if not they report the same fault. -/
theorem run_agrees_with_json (surroundings : Surroundings) (settings : Settings) (kind : LoopKind)
    (options : ScriptOptions) :
    let display : Display := { coloured := settings.colour, showCounter := settings.showCounter }
    let title := Effect.print (display.paint .bold kind.title)
    let plain := perform surroundings settings (.run kind options false)
    let json := perform surroundings settings (.run kind options true)
    plain.ending = json.ending ∧ plain.ending.exitCode = json.ending.exitCode ∧
    (∀ config verbose,
      (invoke surroundings { config, verbose, command := .run kind options false }).ending =
        (invoke surroundings { config, verbose, command := .run kind options true }).ending) ∧
    ((∃ path cause,
        options.file = some path ∧
        readScript surroundings path = .error cause ∧
        plain = { effects := [], ending := .failed (.script path cause) } ∧ json = plain) ∨
      ∃ script,
        (∀ part, TextInForce surroundings kind options part (script.get part)) ∧
        ((∃ playback,
            kind.play script = .ok playback ∧
            json = { effects := [.print (playback.toJson.pretty 0)], ending := .finished } ∧
            plain =
              { effects := title ::
                  [.print (display.paint .heading "Trace"),
                    .print ("\n".intercalate playback.traceLines), .print "",
                    .print (display.paint .heading "Console"),
                    .print (if "\n".intercalate playback.consoleLines = "" then
                        display.paint .dimmed "(nothing printed)"
                      else display.paint .green ("\n".intercalate playback.consoleLines))] ++
                  (if settings.showCounter then
                    [.print "", .print (display.paint .bold "Counter:" ++ " " ++
                      display.paint .yellow playback.finalCounter)]
                  else [])
                ending := .finished }) ∨
          ∃ fault,
            kind.play script = .error fault ∧
            json =
              { effects := [.print ((Json.object [("error", .text fault.message)]).pretty 0)]
                ending := .failed (.run kind fault) } ∧
            plain =
              { effects := [title, .complain (display.paint .boldRed (kind.name ++ ":") ++ " " ++
                  display.paint .red fault.message)]
                ending := .failed (.run kind fault) })) := by
  intro display title plain json
  have endings : plain.ending = json.ending := ending_run surroundings display kind options
  refine ⟨endings, congrArg Ending.exitCode endings, ?_, ?_⟩
  · intro config verbose
    exact ending_invoke_of_perform fun settings => ending_run surroundings _ kind options
  · cases found : scriptInForce surroundings kind options with
    | error fault =>
        obtain ⟨path, cause, file, unusable, rfl⟩ := exists_file_of_scriptInForce_error found
        have failed : plain = { effects := [], ending := .failed (.script path cause) } :=
          run_of_scriptInForce_error found
        exact .inl ⟨path, cause, file, unusable, failed,
          (runJson_of_scriptInForce_error found).trans failed.symm⟩
    | ok script =>
        refine .inr ⟨script, textInForce_of_scriptInForce found, ?_⟩
        cases played : kind.play script with
        | ok playback =>
            exact .inl ⟨playback, rfl, runJson_of_play_ok found played, run_of_play_ok found played⟩
        | error fault =>
            exact .inr ⟨fault, rfl, runJson_of_play_error found played,
              run_of_play_error found played⟩

end Program

end LoopLesson
