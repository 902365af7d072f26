import LoopLesson.Lesson.Name

/-!
The four parts of a loop.
-/

namespace LoopLesson

/-- A part of a loop. -/
inductive Part where
  | start
  | condition
  | step
  | body
deriving DecidableEq, Repr, Inhabited

namespace Part

/-- The parts in the order in which they are listed. -/
def all : List Part := [.start, .condition, .step, .body]

def name : Part → String
  | .start => "start"
  | .condition => "condition"
  | .step => "step"
  | .body => "body"

/-- The part with exactly the given name. -/
def ofName? (text : String) : Option Part := all.find? fun part => part.name = text

/-- The part that a text names. -/
def read (text : String) : Except NameFault Part :=
  match ofName? (lookupName text) with
  | some part => .ok part
  | none => .error (.unknownPart (lookupName text))

@[simp] theorem ofName?_name (part : Part) : ofName? part.name = some part := by
  cases part <;> rfl

end Part

end LoopLesson
