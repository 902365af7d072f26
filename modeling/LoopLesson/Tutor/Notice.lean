import LoopLesson.Lesson.Kind
import LoopLesson.Lesson.Part

/-!
What a learner is shown of a lesson, and the notices by which a tutor tells a display to show it.
-/

namespace LoopLesson

/-- All that is shown of a lesson at one time. -/
structure View where
  highlight : Option Part := none
  counter : String := ""
  trace : String := ""
  console : String := ""
deriving DecidableEq, Repr, Inhabited

/-- Nothing is shown. -/
def View.blank : View := {}

/-- A notice to the display. -/
inductive Notice where
  /-- Show this of a lesson from now on. -/
  | render (kind : LoopKind) (view : View)
  /-- Show this sentence in place of trace, console and counter. -/
  | fault (kind : LoopKind) (message : String)
  /-- Move the highlight of a lesson. -/
  | highlight (kind : LoopKind) (part : Option Part)
deriving DecidableEq, Repr

namespace Notice

/-- The lesson that a notice is about. -/
def kind : Notice → LoopKind
  | .render kind _ => kind
  | .fault kind _ => kind
  | .highlight kind _ => kind

/-- The view that was shown last of a lesson. -/
def lastView? (about : LoopKind) (history : List Notice) : Option View :=
  history.reverse.findSome? fun
    | .render kind view => if kind = about then some view else none
    | _ => none

/-- The sentence that was shown last of a lesson. -/
def lastFault? (about : LoopKind) (history : List Notice) : Option String :=
  history.reverse.findSome? fun
    | .fault kind message => if kind = about then some message else none
    | _ => none

/-- Where the highlight of a lesson was moved, one after the other. -/
def highlights (about : LoopKind) (history : List Notice) : List (Option Part) :=
  history.filterMap fun
    | .highlight kind part => if kind = about then some part else none
    | _ => none

end Notice

end LoopLesson
