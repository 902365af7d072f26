import LoopLesson.Lesson.Kind
import LoopLesson.Lesson.Part

/-!
Tours: timed walks of the highlight over the parts of a loop, which can be stopped at any time.

A tour waits before each of its frames.  It stops when anything is sent on its cancel line, when the
line is released, and at once when the line carries a stop from the beginning.
-/

namespace LoopLesson

/-- The line over which a tour is told to stop. -/
structure CancelLine where
  /-- The value that was sent last, or the one the line started with. -/
  value : Bool
  /-- Whether anything has been sent. -/
  touched : Bool := false
  /-- Whether somebody still holds the sending end. -/
  held : Bool := true
deriving DecidableEq, Repr

namespace CancelLine

def send (line : CancelLine) (value : Bool) : CancelLine := { line with value, touched := true }

def release (line : CancelLine) : CancelLine := { line with held := false }

/-- Whether a tour that looks at the line has to stop. -/
def asksToStop (line : CancelLine) : Bool := line.value || line.touched || !line.held

end CancelLine

/-- A tour of a lesson. -/
structure Tour where
  kind : LoopKind
  delay : Nat
  /-- The time of the next frame. -/
  due : Nat
  /-- The frames that have not been shown. -/
  pending : List (Option Part)
  line : CancelLine
  /-- For a tour that has ended, whether all its frames were shown. -/
  completed : Option Bool := none
deriving DecidableEq, Repr

/-- What a tour does when its turn comes. -/
inductive TourMove where
  | show (frame : Option Part)
  | finish
deriving DecidableEq, Repr

namespace Tour

/-- The frames of a tour: every part in the order in which the loop reaches it, then none. -/
def frames : List (Option Part) := [some .start, some .condition, some .body, some .step, none]

/-- A tour that begins at a time. -/
def starting (kind : LoopKind) (delay now : Nat) (stopped : Bool) : Tour where
  kind
  delay
  due := now + delay
  pending := frames
  line := { value := stopped }

def isRunning (tour : Tour) : Bool := tour.completed.isNone

/-- The frames that are due at a time, those that are not, and the time of the next.  Each wait
begins when the frame before is shown. -/
def splitDue (delay now : Nat) : Nat → List (Option Part) →
    List (Option Part) × List (Option Part) × Nat
  | due, [] => ([], [], due)
  | due, frame :: rest =>
      if due ≤ now then
        let (shown, pending, next) := splitDue delay now (now + delay) rest
        (frame :: shown, pending, next)
      else
        ([], frame :: rest, due)

/-- Lets a tour take its turn at a time. -/
def turn (now : Nat) (tour : Tour) : Tour × List TourMove :=
  if !tour.isRunning then
    (tour, [])
  else if tour.line.asksToStop then
    ({ tour with completed := some false }, [.finish])
  else
    let (shown, pending, due) := splitDue tour.delay now tour.due tour.pending
    if pending = [] then
      ({ tour with pending, due, completed := some true }, shown.map .show ++ [.finish])
    else
      ({ tour with pending, due }, shown.map .show)

end Tour

end LoopLesson
