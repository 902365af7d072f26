import LoopLesson.Loop.Items
import LoopLesson.Playback.Event
import LoopLesson.Statement.Console

/-!
The playback of a loop over items: the start; a check, the body and the move to the next item for
each item; the check that finds no more; and the end.
-/

namespace LoopLesson
namespace ItemLoop

/-- The trace of a step that the script leaves blank. -/
def defaultStepTrace : String := "Move on to the next item."

/-- The place in the array as it is shown: before the first check, at an item, or past the last. -/
def counterText (items : List Number.Binary64) : Option Nat → String
  | none => "index = -- (value --)"
  | some index =>
      match items[index]? with
      | some x => "index = " ++ Number.naturalText index ++ " (value " ++ x.text ++ ")"
      | none => "index = " ++ Number.naturalText index ++ " (done)"

/-- A number of items in words. -/
def countText (count : Nat) : String :=
  Number.naturalText count ++ (if count = 1 then " item" else " items")

def stepTrace (loop : ItemLoop) : String :=
  if loop.script.step = "" then defaultStepTrace else loop.script.step

def startEvent (loop : ItemLoop) : Event where
  highlight := some .start
  trace := some ("Start: " ++ loop.script.start ++ " holds " ++ countText loop.items.length)
  counter := some (counterText loop.items none)

def checkEvent (loop : ItemLoop) (index : Nat) (verdict : String) : Event where
  highlight := some .condition
  trace := some ("Check next item (index " ++ Number.naturalText index ++ ") -> " ++ verdict)
  counter := some (counterText loop.items (some index))

/-- What the body sees of an item: its value under the name of the item, and its place. -/
def bindings (loop : ItemLoop) (index : Nat) (x : Number.Binary64) : Bindings :=
  .ofList [(loop.itemName, x.text), ("index", Number.naturalText index)]

def bodyEvent (loop : ItemLoop) (index : Nat) (x : Number.Binary64) : Event where
  highlight := some .body
  trace := some ("Body (item " ++ Number.naturalText (index + 1) ++ "): run " ++ loop.script.body ++
    " with " ++ loop.itemName ++ " = " ++ x.text)
  console := some (consoleLine (loop.bindings index x) loop.script.body)
  counter := some (counterText loop.items (some index))

/-- The move to an item, or past the last one. -/
def stepEvent (loop : ItemLoop) (index : Nat) : Event where
  highlight := some .step
  trace := some loop.stepTrace
  counter := some (counterText loop.items (some index))

def endEvent (loop : ItemLoop) : Event where
  trace := some ("Loop finished after " ++ countText loop.items.length)
  counter := some (counterText loop.items (some loop.items.length))

def itemEvents (loop : ItemLoop) (index : Nat) (x : Number.Binary64) : List Event :=
  [loop.checkEvent index "yes", loop.bodyEvent index x, loop.stepEvent (index + 1)]

def events (loop : ItemLoop) : List Event :=
  loop.startEvent ::
    loop.items.zipIdx.flatMap (fun (x, index) => loop.itemEvents index x) ++
    [loop.checkEvent loop.items.length "no (array finished)", loop.endEvent]

def playback (loop : ItemLoop) : Playback :=
  .ofEvents loop.events (counterText loop.items (some loop.items.length))

end ItemLoop
end LoopLesson
