import LoopLesson.Lesson.Part

/-!
Events, the single moments of a lesson, and playbacks, the lessons as a whole.
-/

namespace LoopLesson

/-- One moment of a lesson: the part of the loop that is at work, and what is traced, printed and
counted then. -/
structure Event where
  highlight : Option Part := none
  trace : Option String := none
  console : Option String := none
  counter : Option String := none
deriving DecidableEq, Repr, Inhabited

/-- A lesson as a whole: its events, the lines they trace and print, and the counter at the end. -/
structure Playback where
  events : List Event
  traceLines : List String
  consoleLines : List String
  finalCounter : String
deriving DecidableEq, Repr, Inhabited

/-- Lines joined into one text. -/
def joinLines (lines : List String) : String := "\n".intercalate lines

namespace Playback

/-- The playback of a list of events, with the lines collected from them in order. -/
def ofEvents (events : List Event) (finalCounter : String) : Playback where
  events
  traceLines := events.filterMap Event.trace
  consoleLines := events.filterMap Event.console
  finalCounter

def traceText (playback : Playback) : String := joinLines playback.traceLines

def consoleText (playback : Playback) : String := joinLines playback.consoleLines

end Playback

end LoopLesson
