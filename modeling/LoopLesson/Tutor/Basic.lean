import LoopLesson.Lesson.Catalogue
import LoopLesson.Playback.Lesson
import LoopLesson.Tutor.Playhead

/-!
A tutor keeps the three lessons and carries out what a learner asks for.

At most one lesson is stepped through at a time.  Editing, loading, resetting, running and stepping
give up whatever is being stepped through before they do anything else.  A tour, the animated walk
over the parts of a loop, only moves the highlight on display; it leaves the lessons as they are.
-/

namespace LoopLesson

/-- The state of one lesson. -/
structure LessonState where
  script : Script
  highlight : Option Part := none
  playhead : Option Playhead := none
  /-- Whether a tour of the lesson is under way. -/
  touring : Bool := false
deriving DecidableEq, Repr

namespace LessonState

def fresh (kind : LoopKind) : LessonState := { script := kind.defaultScript }

/-- A lesson as it was at first, except that a tour goes on. -/
def reset (kind : LoopKind) (lesson : LessonState) : LessonState :=
  { fresh kind with touring := lesson.touring }

/-- The lesson with its playback given up. -/
def cleared (lesson : LessonState) : LessonState := { lesson with playhead := none, highlight := none }

end LessonState

/-- The state of all lessons. -/
structure Tutor where
  forLoop : LessonState
  whileLoop : LessonState
  forEach : LessonState
  /-- The lesson that is being stepped through. -/
  stepping : Option LoopKind
deriving DecidableEq, Repr

/-- What a learner, or a tour, may ask of a tutor. -/
inductive Action where
  | cancel
  | edit (kind : LoopKind) (part : Part) (text : String)
  | load (kind : LoopKind) (script : Script)
  | reset (kind : LoopKind)
  | run (kind : LoopKind)
  | step (kind : LoopKind)
  | advance (kind : LoopKind)
  | select (kind : LoopKind) (part : Part)
  | beginTour (kind : LoopKind)
  | showTourFrame (kind : LoopKind) (part : Option Part)
  | finishTour (kind : LoopKind)
deriving DecidableEq, Repr

/-- What a tutor answers. -/
inductive Answer where
  | done
  /-- The whole lesson was played. -/
  | played (playback : Playback)
  /-- Stepping has begun, through so many events. -/
  | begun (total : Nat)
  /-- The next frame, if one was revealed. -/
  | revealed (frame : Option Frame)
  | explained (text : String)
  /-- Whether a tour may begin. -/
  | granted (granted : Bool)
  /-- The script cannot be played. -/
  | refused (fault : LessonFault)
deriving DecidableEq, Repr

/-- The outcome of an action: the tutor afterwards, the notices to the display, and the answer. -/
structure Reaction where
  tutor : Tutor
  notices : List Notice
  answer : Answer
deriving DecidableEq, Repr

namespace Tutor

/-- Every lesson as it is at first. -/
def initial : Tutor where
  forLoop := .fresh .forLoop
  whileLoop := .fresh .whileLoop
  forEach := .fresh .forEach
  stepping := none

def lesson (tutor : Tutor) : LoopKind → LessonState
  | .forLoop => tutor.forLoop
  | .whileLoop => tutor.whileLoop
  | .forEach => tutor.forEach

def modify (tutor : Tutor) (kind : LoopKind) (change : LessonState → LessonState) : Tutor :=
  match kind with
  | .forLoop => { tutor with forLoop := change tutor.forLoop }
  | .whileLoop => { tutor with whileLoop := change tutor.whileLoop }
  | .forEach => { tutor with forEach := change tutor.forEach }

@[simp] theorem lesson_modify_self (tutor : Tutor) (kind : LoopKind)
    (change : LessonState → LessonState) :
    (tutor.modify kind change).lesson kind = change (tutor.lesson kind) := by
  cases kind <;> rfl

theorem lesson_modify_of_ne (tutor : Tutor) {kind other : LoopKind} (different : other ≠ kind)
    (change : LessonState → LessonState) :
    (tutor.modify kind change).lesson other = tutor.lesson other := by
  cases kind <;> cases other <;> first | rfl | contradiction

@[simp] theorem stepping_modify (tutor : Tutor) (kind : LoopKind)
    (change : LessonState → LessonState) :
    (tutor.modify kind change).stepping = tutor.stepping := by
  cases kind <;> rfl

/-- Gives up what is being stepped through, and blanks it on display. -/
def cancel (tutor : Tutor) : Tutor × List Notice :=
  match tutor.stepping with
  | none => (tutor, [])
  | some kind =>
      ({ tutor.modify kind LessonState.cleared with stepping := none }, [.render kind .blank])

/-- Gives up what is being stepped through, then changes a lesson. -/
def cancelThenModify (tutor : Tutor) (kind : LoopKind) (change : LessonState → LessonState) :
    Tutor × List Notice :=
  let (idle, notices) := tutor.cancel
  (idle.modify kind change, notices)

def edit (tutor : Tutor) (kind : LoopKind) (part : Part) (text : String) : Reaction :=
  let (changed, notices) := tutor.cancelThenModify kind fun lesson =>
    { lesson with script := lesson.script.set part text }
  { tutor := changed, notices, answer := .done }

def load (tutor : Tutor) (kind : LoopKind) (script : Script) : Reaction :=
  let (changed, notices) := tutor.cancelThenModify kind fun lesson => { lesson with script }
  { tutor := changed, notices, answer := .done }

def reset (tutor : Tutor) (kind : LoopKind) : Reaction :=
  let (changed, notices) := tutor.cancelThenModify kind (LessonState.reset kind)
  { tutor := changed, notices := notices ++ [.render kind .blank], answer := .done }

/-- Removes the highlight of a lesson whose script cannot be played, and reports the fault. -/
def refuse (tutor : Tutor) (kind : LoopKind) (notices : List Notice) (fault : LessonFault) :
    Reaction where
  tutor := tutor.modify kind fun lesson => { lesson with highlight := none }
  notices := notices ++ [.fault kind fault.message]
  answer := .refused fault

/-- The view of a whole playback. -/
def finalView (playback : Playback) : View where
  counter := playback.finalCounter
  trace := playback.traceText
  console := playback.consoleText

/-- Plays a lesson at once. -/
def run (tutor : Tutor) (kind : LoopKind) : Reaction :=
  let (idle, notices) := tutor.cancel
  match kind.play (idle.lesson kind).script with
  | .error fault => idle.refuse kind notices fault
  | .ok playback =>
      { tutor := idle.modify kind fun lesson => { lesson with highlight := none }
        notices := notices ++ [.render kind (finalView playback)]
        answer := .played playback }

/-- Begins to step through a lesson. -/
def step (tutor : Tutor) (kind : LoopKind) : Reaction :=
  let (idle, notices) := tutor.cancel
  match kind.play (idle.lesson kind).script with
  | .error fault => idle.refuse kind notices fault
  | .ok playback =>
      { tutor :=
          { idle.modify kind fun lesson =>
              { lesson with highlight := none, playhead := some (.atStart playback) } with
            stepping := some kind }
        notices := notices ++ [.render kind .blank]
        answer := .begun playback.events.length }

/-- Reveals the next event of the lesson that is being stepped through. -/
def advance (tutor : Tutor) (kind : LoopKind) : Reaction :=
  if tutor.stepping = some kind then
    match (tutor.lesson kind).playhead with
    | none => { tutor, notices := [], answer := .revealed none }
    | some playhead =>
        match playhead.advance with
        | (_, none) => { tutor, notices := [], answer := .revealed none }
        | (moved, some frame) =>
            { tutor := tutor.modify kind fun lesson =>
                { lesson with highlight := frame.highlight, playhead := some moved }
              notices := [.render kind moved.view]
              answer := .revealed (some frame) }
  else
    { tutor, notices := [], answer := .revealed none }

/-- Highlights a part of a lesson and explains it. -/
def select (tutor : Tutor) (kind : LoopKind) (part : Part) : Reaction where
  tutor := tutor.modify kind fun lesson => { lesson with highlight := some part }
  notices := [.highlight kind (some part)]
  answer := .explained (kind.explanation part)

/-- Claims a lesson for a tour, unless one is under way. -/
def beginTour (tutor : Tutor) (kind : LoopKind) : Reaction :=
  if (tutor.lesson kind).touring then
    { tutor, notices := [], answer := .granted false }
  else
    { tutor := tutor.modify kind fun lesson => { lesson with touring := true }
      notices := []
      answer := .granted true }

/-- Moves the highlight on display for a tour. -/
def showTourFrame (tutor : Tutor) (kind : LoopKind) (part : Option Part) : Reaction where
  tutor := tutor
  notices := [.highlight kind part]
  answer := .done

/-- Releases a lesson after a tour and puts its own highlight back on display. -/
def finishTour (tutor : Tutor) (kind : LoopKind) : Reaction where
  tutor := tutor.modify kind fun lesson => { lesson with touring := false }
  notices := [.highlight kind (tutor.lesson kind).highlight]
  answer := .done

/-- Carries out an action. -/
def perform (tutor : Tutor) : Action → Reaction
  | .cancel =>
      let (idle, notices) := tutor.cancel
      { tutor := idle, notices, answer := .done }
  | .edit kind part text => tutor.edit kind part text
  | .load kind script => tutor.load kind script
  | .reset kind => tutor.reset kind
  | .run kind => tutor.run kind
  | .step kind => tutor.step kind
  | .advance kind => tutor.advance kind
  | .select kind part => tutor.select kind part
  | .beginTour kind => tutor.beginTour kind
  | .showTourFrame kind part => tutor.showTourFrame kind part
  | .finishTour kind => tutor.finishTour kind

end Tutor

end LoopLesson
