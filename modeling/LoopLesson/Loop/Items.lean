import LoopLesson.Lesson.Fault
import LoopLesson.Lesson.Script
import LoopLesson.Loop.Phrase
import LoopLesson.Number.Display

/-!
Loops over the items of an array of numbers, and how a script describes one.

Only the start of the script can make it faulty: it must hold an array, the array an item, and every
item must be a finite number.
-/

namespace LoopLesson

open Text

/-- A loop over the items of an array, ready to be played. -/
structure ItemLoop where
  items : List Number.Binary64
  message : String
  itemName : String
  script : Script
deriving DecidableEq, Repr

namespace ItemLoop

/-- The message of a body that logs no quoted text. -/
def defaultMessage : String := "Value"

/-- The name of the item where the condition gives none. -/
def defaultItemName : String := "value"

/-- The items of an array: the pieces between the commas, without the blank ones. -/
def itemTexts (inner : List Char) : List (List Char) :=
  let (first, others) := pieces ',' inner
  ((first :: others).map trim).filter (· ≠ [])

/-- Reads an item, which has to be a finite number. -/
def readItem (text : List Char) : Except LessonFault Number.Binary64 :=
  match Number.Binary64.read? text with
  | some x => if x.isFinite then .ok x else .error .itemNotANumber
  | none => .error .itemNotANumber

/-- Reads the array of a start text. -/
def readItems (start : List Char) : Except LessonFault (List Number.Binary64) :=
  match bracketed? start with
  | none => .error .arrayUnreadable
  | some inner =>
      if itemTexts inner = [] then .error .arrayEmpty else (itemTexts inner).mapM readItem

/-- The message that a body logs. -/
def messageOf (body : String) : String :=
  ((loggedText? body.toList).map String.ofList).getD defaultMessage

/-- The name that a condition gives to the item. -/
def itemNameOf (condition : String) : String :=
  ((itemName? condition.toList).map String.ofList).getD defaultItemName

/-- Reads the loop that a script describes. -/
def read (raw : Script) : Except LessonFault ItemLoop :=
  let script := raw.trimmed
  (readItems script.start.toList).map fun items =>
    { items
      message := messageOf script.body
      itemName := itemNameOf script.condition
      script }

end ItemLoop

end LoopLesson
