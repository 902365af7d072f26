import LoopLesson.Tour.Basic
import LoopLesson.Tutor.Basic

/-!
A stage has one tutor, any number of tours and a clock.

Whatever is asked at one time is carried out in order before any tour takes its turn.  Then the
tours that were begun or told something take their turns in the order in which that happened, and
after them each tour whose next frame is due first.
-/

namespace LoopLesson

/-- A tutor with the tours that were begun, the time, and the notices so far with their times. -/
structure Stage where
  tutor : Tutor
  tours : List Tour
  clock : Nat
  /-- The tours whose turn has come, in order. -/
  woken : List Nat
  log : List (Nat × Notice)
deriving DecidableEq, Repr

namespace Stage

def initial : Stage where
  tutor := .initial
  tours := []
  clock := 0
  woken := []
  log := []

/-- Carries out an action now. -/
def act (stage : Stage) (action : Action) : Stage × Answer :=
  let reaction := stage.tutor.perform action
  ({ stage with
      tutor := reaction.tutor
      log := stage.log ++ reaction.notices.map fun notice => (stage.clock, notice) },
    reaction.answer)

/-- Puts a tour on the list of those whose turn has come. -/
def wake (stage : Stage) (index : Nat) : Stage :=
  if index ∈ stage.woken then stage else { stage with woken := stage.woken ++ [index] }

/-- Begins a tour of a lesson that has none under way; the answer is the number of the tour. -/
def beginTour (stage : Stage) (kind : LoopKind) (delay : Nat) (stopped : Bool) : Stage × Option Nat :=
  match stage.act (.beginTour kind) with
  | (next, .granted true) =>
      let index := next.tours.length
      (({ next with tours := next.tours ++ [Tour.starting kind delay next.clock stopped] }).wake index,
        some index)
  | (next, _) => (next, none)

/-- Sends a value on the cancel line of a tour.  The answer is whether the tour was still running,
or none if nobody holds the line. -/
def signal (stage : Stage) (index : Nat) (value : Bool) : Stage × Option Bool :=
  match stage.tours[index]? with
  | none => (stage, none)
  | some tour =>
      if tour.line.held then
        if tour.isRunning then
          (({ stage with tours := stage.tours.set index { tour with line := tour.line.send value } }).wake
            index, some true)
        else
          (stage, some false)
      else
        (stage, none)

/-- Releases the cancel line of a tour. -/
def release (stage : Stage) (index : Nat) : Stage :=
  match stage.tours[index]? with
  | none => stage
  | some tour =>
      ({ stage with tours := stage.tours.set index { tour with line := tour.line.release } }).wake index

/-- Carries out the moves of a tour. -/
def makeMoves (stage : Stage) (kind : LoopKind) (moves : List TourMove) : Stage :=
  moves.foldl (fun stage move =>
    match move with
    | .show frame => (stage.act (.showTourFrame kind frame)).1
    | .finish => (stage.act (.finishTour kind)).1) stage

/-- Lets a tour take its turn. -/
def turn (stage : Stage) (index : Nat) : Stage :=
  match stage.tours[index]? with
  | none => stage
  | some tour =>
      let (next, moves) := tour.turn stage.clock
      ({ stage with tours := stage.tours.set index next }).makeMoves tour.kind moves

/-- Lets every tour whose turn has come take it. -/
def settle (stage : Stage) : Stage :=
  stage.woken.foldl turn { stage with woken := [] }

/-- The running tour whose next frame is due first, with its time. -/
def nextDue? (stage : Stage) : Option (Nat × Nat) :=
  stage.tours.zipIdx.foldl (fun best (tour, index) =>
    if tour.isRunning then
      match best with
      | none => some (tour.due, index)
      | some (due, other) => if tour.due < due then some (tour.due, index) else some (due, other)
    else best) none

/-- Shows so many frames, or as many as are due before a time if one is given. -/
def showFrames (limit : Option Nat) : Nat → Stage → Stage
  | 0, stage => stage
  | count + 1, stage =>
      match stage.nextDue? with
      | none => stage
      | some (due, index) =>
          if limit.all (due < ·) then
            showFrames limit count (({ stage with clock := due }).turn index)
          else
            stage

/-- The number of frames that the running tours have not shown. -/
def pendingFrames (stage : Stage) : Nat :=
  stage.tours.foldl (fun total tour =>
    if tour.isRunning then total + tour.pending.length else total) 0

/-- Lets the time pass until a later one.  At the present time nothing happens. -/
def advanceTo (stage : Stage) (time : Nat) : Stage :=
  if stage.clock < time then
    let settled := stage.settle
    { showFrames (some time) settled.pendingFrames settled with clock := time }
  else
    stage

/-- Lets every tour run to its end. -/
def finish (stage : Stage) : Stage :=
  let settled := stage.settle
  showFrames none settled.pendingFrames settled

end Stage

end LoopLesson
