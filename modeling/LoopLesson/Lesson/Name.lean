import LoopLesson.Text.Blank

/-!
Names of lessons and of parts of a loop, and how they are looked up.
-/

namespace LoopLesson

/-- A name as it is looked up: without blanks at its ends and with ASCII letters in lower case. -/
def lookupName (text : String) : String :=
  String.ofList ((Text.trim text.toList).map Char.toLower)

/-- A text that names nothing; it carries the name that was looked up. -/
inductive NameFault where
  | unknownLesson (name : String)
  | unknownPart (name : String)
deriving DecidableEq, Repr

def NameFault.message : NameFault → String
  | .unknownLesson name => "unknown lesson: " ++ name
  | .unknownPart name => "unknown loop part: " ++ name

end LoopLesson
