import LoopLesson.Playback.Event
import LoopLesson.Tutor.Notice

/-!
A playhead reveals the events of a playback one at a time and keeps what has been shown so far.
-/

namespace LoopLesson

/-- What the revealed events of a playback add up to. -/
structure Shown where
  trace : List String := []
  console : List String := []
  counter : String := ""
  highlight : Option Part := none
deriving DecidableEq, Repr, Inhabited

namespace Shown

/-- Nothing has been revealed. -/
def nothing : Shown := {}

/-- Takes in one more event.  Lines are added, a counter replaces the one before, and the highlight
is always that of the event. -/
def reveal (shown : Shown) (event : Event) : Shown where
  trace := shown.trace ++ event.trace.toList
  console := shown.console ++ event.console.toList
  counter := event.counter.getD shown.counter
  highlight := event.highlight

def view (shown : Shown) : View where
  highlight := shown.highlight
  counter := shown.counter
  trace := joinLines shown.trace
  console := joinLines shown.console

end Shown

/-- A revealed event, with the counter then on display and its place among all events. -/
structure Frame where
  highlight : Option Part
  trace : Option String
  console : Option String
  counter : String
  position : Nat
  total : Nat
deriving DecidableEq, Repr

/-- Whether a frame is the last of its playback. -/
def Frame.isLast (frame : Frame) : Bool := frame.position = frame.total

/-- A place in a playback. -/
structure Playhead where
  playback : Playback
  position : Nat
  shown : Shown
deriving DecidableEq, Repr

namespace Playhead

/-- The playhead before the first event. -/
def atStart (playback : Playback) : Playhead where
  playback
  position := 0
  shown := .nothing

def total (playhead : Playhead) : Nat := playhead.playback.events.length

def isExhausted (playhead : Playhead) : Bool := playhead.total ≤ playhead.position

def view (playhead : Playhead) : View := playhead.shown.view

/-- Reveals the next event, if there is one. -/
def advance (playhead : Playhead) : Playhead × Option Frame :=
  match playhead.playback.events[playhead.position]? with
  | none => (playhead, none)
  | some event =>
      let shown := playhead.shown.reveal event
      ({ playhead with position := playhead.position + 1, shown },
        some {
          highlight := event.highlight
          trace := event.trace
          console := event.console
          counter := shown.counter
          position := playhead.position + 1
          total := playhead.total })

end Playhead

end LoopLesson
