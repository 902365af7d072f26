import Mathlib.Data.List.Forall2
import LoopLesson.Proofs.Playback.CountingRun

/-!
The for loop and the while loop of one script differ in wording only.

Two wordings of a counting loop give events that agree place by place in all but the label that
introduces the trace of the start and of a step.  Every other trace, the console and the counters do
not depend on the wording.
-/

namespace LoopLesson

/-- Two traces with the same text after the label of each. -/
def SameAfterLabels (firstLabel secondLabel : String) (first second : Option String) : Prop :=
  ∃ text, first = some (firstLabel ++ text) ∧ second = some (secondLabel ++ text)

/-- One event in two wordings. -/
structure Event.Reworded (first second : Wording) (event other : Event) : Prop where
  highlight : other.highlight = event.highlight
  console : other.console = event.console
  counter : other.counter = event.counter
  trace :
    match event.highlight with
    | some .start => SameAfterLabels first.start second.start event.trace other.trace
    | some .step => SameAfterLabels first.step second.step event.trace other.trace
    | some .condition | some .body | none => other.trace = event.trace

/-- An event of which the trace has no label is the same in every wording. -/
theorem Event.reworded_self (first second : Wording) {event : Event}
    (notStart : event.highlight ≠ some .start) (notStep : event.highlight ≠ some .step) :
    Reworded first second event event where
  highlight := rfl
  console := rfl
  counter := rfl
  trace := by
    cases highlighted : event.highlight with
    | none => rfl
    | some part =>
        cases part with
        | start => exact absurd highlighted notStart
        | step => exact absurd highlighted notStep
        | condition => rfl
        | body => rfl

theorem Event.filterMap_console_of_reworded {first second : Wording} {events others : List Event}
    (reworded : List.Forall₂ (Reworded first second) events others) :
    others.filterMap Event.console = events.filterMap Event.console := by
  induction reworded with
  | nil => rfl
  | cons same _rest ih => rw [List.filterMap_cons, List.filterMap_cons, same.console, ih]

namespace CountingLoop

section Rewording

variable (first second : Wording) (loop : CountingLoop)

theorem reworded_startEvent :
    Event.Reworded first second (loop.startEvent first) (loop.startEvent second) where
  highlight := rfl
  console := rfl
  counter := rfl
  trace := by
    refine ⟨": " ++ loop.script.start ++ " sets " ++ loop.counterText loop.start, ?_, ?_⟩ <;>
      simp only [startEvent, String.append_assoc]

theorem reworded_stepEvent (value : Int) :
    Event.Reworded first second (loop.stepEvent first value) (loop.stepEvent second value) where
  highlight := rfl
  console := rfl
  counter := rfl
  trace := by
    refine ⟨": " ++ loop.script.step ++ " makes " ++ loop.counterText value, ?_, ?_⟩ <;>
      simp only [stepEvent, String.append_assoc]

theorem reworded_iterationEvents (iteration : Nat) (value : Int) :
    List.Forall₂ (Event.Reworded first second) (loop.iterationEvents first iteration value)
      (loop.iterationEvents second iteration value) :=
  .cons (Event.reworded_self first second nofun nofun)
    (.cons (Event.reworded_self first second nofun nofun)
      (.cons (loop.reworded_stepEvent first second _) .nil))

theorem reworded_iterations (values : List Int) (iteration : Nat) :
    List.Forall₂ (Event.Reworded first second)
      ((values.zipIdx iteration).flatMap fun (value, iteration) =>
        loop.iterationEvents first iteration value)
      ((values.zipIdx iteration).flatMap fun (value, iteration) =>
        loop.iterationEvents second iteration value) := by
  induction values generalizing iteration with
  | nil => exact .nil
  | cons value rest ih =>
      rw [List.zipIdx_cons, List.flatMap_cons, List.flatMap_cons]
      exact List.rel_append (loop.reworded_iterationEvents first second iteration value)
        (ih (iteration + 1))

theorem reworded_events :
    List.Forall₂ (Event.Reworded first second) (loop.events first) (loop.events second) := by
  have ending : List.Forall₂ (Event.Reworded first second)
      [loop.checkEvent loop.exit "no", loop.endEvent]
      [loop.checkEvent loop.exit "no", loop.endEvent] :=
    .cons (Event.reworded_self first second nofun nofun)
      (.cons (Event.reworded_self first second nofun nofun) .nil)
  exact .cons (loop.reworded_startEvent first second)
    (List.rel_append (loop.reworded_iterations first second loop.values 1) ending)

end Rewording

end CountingLoop

/-- For every script, the for loop and the while loop both fail, and with the same fault, or both
play.  Then their events agree place by place but for the labels of the start and of the steps, and
the printed lines and the final counters are equal. -/
theorem LoopKind.for_and_while_differ_in_wording (script : Script) :
    (∃ fault, LoopKind.forLoop.play script = .error fault ∧
      LoopKind.whileLoop.play script = .error fault) ∨
    ∃ playback other,
      LoopKind.forLoop.play script = .ok playback ∧ LoopKind.whileLoop.play script = .ok other ∧
      other.events.length = playback.events.length ∧
      List.Forall₂
        (Event.Reworded { start := "Start", step := "Step" }
          { start := "Before the loop", step := "Update" })
        playback.events other.events ∧
      other.consoleLines = playback.consoleLines ∧
      other.finalCounter = playback.finalCounter := by
  have plain : LoopKind.forLoop.play script =
      (CountingLoop.read script).map (CountingLoop.playback .forLoop) :=
    play_counting (by decide) script
  have relabelled : LoopKind.whileLoop.play script =
      (CountingLoop.read script).map (CountingLoop.playback .whileLoop) :=
    play_counting (by decide) script
  cases found : CountingLoop.read script with
  | error fault =>
      rw [found] at plain relabelled
      exact .inl ⟨fault, plain, relabelled⟩
  | ok loop =>
      rw [found] at plain relabelled
      have reworded := loop.reworded_events LoopKind.forLoop.wording LoopKind.whileLoop.wording
      exact .inr ⟨_, _, plain, relabelled, reworded.length_eq.symm, reworded,
        Event.filterMap_console_of_reworded reworded, rfl⟩

end LoopLesson
