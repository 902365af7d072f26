import LoopLesson.Lesson.Name

/-!
The three kinds of loop that have a lesson.
-/

namespace LoopLesson

/-- A kind of loop. -/
inductive LoopKind where
  | forLoop
  | whileLoop
  | forEach
deriving DecidableEq, Repr, Inhabited

namespace LoopKind

/-- The kinds in the order in which they are listed. -/
def all : List LoopKind := [.forLoop, .whileLoop, .forEach]

def name : LoopKind → String
  | .forLoop => "for"
  | .whileLoop => "while"
  | .forEach => "foreach"

/-- The kind with a given name or another spelling of it. -/
def ofName? (text : String) : Option LoopKind :=
  if text = "for" then some .forLoop
  else if text = "while" then some .whileLoop
  else if text = "foreach" ∨ text = "for-each" ∨ text = "for_each" then some .forEach
  else none

/-- The kind that a text names. -/
def read (text : String) : Except NameFault LoopKind :=
  match ofName? (lookupName text) with
  | some kind => .ok kind
  | none => .error (.unknownLesson (lookupName text))

end LoopKind

end LoopLesson
