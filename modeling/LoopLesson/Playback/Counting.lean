import LoopLesson.Lesson.Kind
import LoopLesson.Loop.Counting
import LoopLesson.Playback.Event
import LoopLesson.Statement.Console

/-!
The playback of a counting loop: the start; a check, the body and the step for each value that is
visited; the check that fails; and the end.
-/

namespace LoopLesson

/-- The words that introduce the start and the step of a counting loop. -/
structure Wording where
  start : String
  step : String

/-- A while loop has its start before it and its step in the body, and says so. -/
def LoopKind.wording : LoopKind → Wording
  | .whileLoop => { start := "Before the loop", step := "Update" }
  | .forLoop | .forEach => { start := "Start", step := "Step" }

namespace CountingLoop

/-- The counter as it is shown. -/
def counterText (loop : CountingLoop) (value : Int) : String :=
  loop.name ++ " = " ++ Number.integerText value

/-- The line that traces a check of the condition. -/
def checkText (loop : CountingLoop) (value : Int) (verdict : String) : String :=
  "Check " ++ loop.name ++ " " ++ loop.comparison.sign ++ " " ++ Number.integerText loop.bound ++
    " with " ++ loop.counterText value ++ " -> " ++ verdict

def startEvent (wording : Wording) (loop : CountingLoop) : Event where
  highlight := some .start
  trace := some (wording.start ++ ": " ++ loop.script.start ++ " sets " ++ loop.counterText loop.start)
  counter := some (loop.counterText loop.start)

def checkEvent (loop : CountingLoop) (value : Int) (verdict : String) : Event where
  highlight := some .condition
  trace := some (loop.checkText value verdict)
  counter := some (loop.counterText value)

/-- What the body sees while the counter has a value. -/
def bindings (loop : CountingLoop) (value : Int) : Bindings :=
  .ofList [(loop.name, Number.integerText value)]

def bodyEvent (loop : CountingLoop) (iteration : Nat) (value : Int) : Event where
  highlight := some .body
  trace := some ("Body (iteration " ++ Number.naturalText iteration ++ "): run " ++ loop.script.body ++
    " with " ++ loop.counterText value)
  console := some (consoleLine (loop.bindings value) loop.script.body)
  counter := some (loop.counterText value)

def stepEvent (wording : Wording) (loop : CountingLoop) (value : Int) : Event where
  highlight := some .step
  trace := some (wording.step ++ ": " ++ loop.script.step ++ " makes " ++ loop.counterText value)
  counter := some (loop.counterText value)

def endEvent (loop : CountingLoop) : Event where
  trace := some ("Loop finished with " ++ loop.counterText loop.exit)
  counter := some (loop.counterText loop.exit)

/-- The events of one iteration, numbered from one.  The step adds in the word of the counter. -/
def iterationEvents (wording : Wording) (loop : CountingLoop) (iteration : Nat) (value : Int) :
    List Event :=
  [loop.checkEvent value "yes", loop.bodyEvent iteration value,
    loop.stepEvent wording (Number.wrapWord (value + loop.step))]

def events (wording : Wording) (loop : CountingLoop) : List Event :=
  loop.startEvent wording ::
    (loop.values.zipIdx 1).flatMap (fun (value, iteration) =>
      loop.iterationEvents wording iteration value) ++
    [loop.checkEvent loop.exit "no", loop.endEvent]

/-- The playback of a counting loop in the wording of a kind of loop. -/
def playback (kind : LoopKind) (loop : CountingLoop) : Playback :=
  .ofEvents (loop.events kind.wording) (loop.counterText loop.exit)

end CountingLoop

end LoopLesson
