import LoopLesson.Pattern.CodeRanges

/-!
The room that the machines of a pattern take.

A pattern has two machines.  One reads a text onwards and remembers what the groups capture, the
other one reads it backwards.  A machine has a state for every byte of a text that it may read, and
others where it may go on in more than one way.  Repetitions are written out as often as they may be
needed, so that a short pattern may have large machines.  There is a limit to the room of each.
-/

namespace LoopLesson

/-- The numbers of bytes that the two machines of a pattern take. -/
structure Room where
  ahead : Nat
  back : Nat
deriving DecidableEq, Repr

namespace Room

/-- The same room for both machines. -/
def both (size : Nat) : Room := { ahead := size, back := size }

def plus (room more : Room) : Room :=
  { ahead := room.ahead + more.ahead, back := room.back + more.back }

def map (change : Nat → Nat) (room : Room) : Room :=
  { ahead := change room.ahead, back := change room.back }

end Room

/-- What matters of the machines of a pattern. -/
structure Machine where
  room : Room
  /-- Whether something is read whenever the pattern matches. -/
  alwaysReads : Bool
  /-- Whether anything can be read. -/
  canRead : Bool
  /-- Whether a match can begin only where the text begins. -/
  opensText : Bool := false
  /-- Whether a match can end only where the text ends. -/
  closesText : Bool := false
  /-- Whether the pattern matches at once. -/
  isNothing : Bool := false
  /-- The code points that the pattern matches one of, if it does no more than that. -/
  points? : Option (List (Nat × Nat)) := none
deriving DecidableEq, Repr

namespace Machine

/-- The room of a state. -/
def state : Nat := 32

/-- The room of one of the ways to go on in a state with any number of them. -/
def way : Nat := 4

/-- The room of one of the ranges of bytes that a state distinguishes. -/
def branch : Nat := 8

/-- The greatest room of a machine. -/
def limit : Nat := 10485760

def nothing : Machine :=
  { room := .both state, alwaysReads := false, canRead := false, isNothing := true }

/-- The machines that look at a place. -/
def place : Machine := { room := .both state, alwaysReads := false, canRead := false }

def textStart : Machine := { place with opensText := true }

def textEnd : Machine := { place with closesText := true }

/-- The machines of a pattern that matches nowhere. -/
def failure : Machine := { room := .both state, alwaysReads := false, canRead := true }

/-- The room of machines that read one of some sequences of bytes.  Onwards, the beginnings after
which the same sequences may follow share a state.  Backwards, every beginning has its own. -/
def sequencesRoom (sequences : List (List (Nat × Nat))) : Room :=
  let ends := (CodeRanges.continuations 4 sequences).eraseDups
  { ahead := ends.foldl
      (fun total sequences => total + (state + branch * (CodeRanges.fan sequences).length)) state
    back := 2 * state + state * CodeRanges.beginnings [] sequences + way * sequences.length }

/-- The room of machines that read one of some code points, at least one of which there is.  A
single one has a state for every byte, and ASCII characters have a single state. -/
def pointsRoom (points : List (Nat × Nat)) : Room :=
  let sequences := points.flatMap CodeRanges.byteRanges
  if points.all fun range => range.1 = range.2 ∧ points.length = 1 then
    .both (state * CodeRanges.beginnings [] sequences)
  else if points.all fun range => range.2 < 0x80 then
    .both (2 * state + branch * points.length)
  else
    sequencesRoom sequences

/-- The machines that read one of some code points; further ones take so much room. -/
def ofPoints (ranges : List (Nat × Nat)) (weight : Nat) : Machine :=
  let points := CodeRanges.normalized ranges
  if points = [] ∧ weight = 0 then failure
  else
    { room := (if points = [] then .both 0 else pointsRoom points).plus (.both weight)
      alwaysReads := true
      canRead := true
      points? := if weight = 0 then some points else none }

/-- Remembers what is read.  It is not remembered backwards. -/
def capture (inside : Machine) : Machine :=
  { inside with
    room := { inside.room with ahead := inside.room.ahead + 2 * state }
    isNothing := false
    points? := none }

/-- Whether a condition holds of one of some machines that run before anything is read. -/
def holdsEarly (condition : Machine → Bool) : List Machine → Bool
  | [] => false
  | part :: rest => condition part || (!part.canRead && holdsEarly condition rest)

/-- The machines that run machines one after the other. -/
def sequence (parts : List Machine) : Machine :=
  match parts.filter fun part => !part.isNothing with
  | [] => nothing
  | [part] => part
  | parts =>
      { room := parts.foldl (fun total part => total.plus part.room) (.both 0)
        alwaysReads := parts.any alwaysReads
        canRead := parts.any canRead
        opensText := holdsEarly opensText parts
        closesText := holdsEarly closesText parts.reverse }

/-- The machines that run one of some machines. -/
def choice (branches : List Machine) : Machine :=
  match branches.mapM points? with
  | some points => ofPoints points.flatten 0
  | none =>
      { room := branches.foldl (fun total branch => total.plus (branch.room.map (· + way)))
          (.both (2 * state))
        alwaysReads := branches.all alwaysReads
        canRead := branches.any canRead
        opensText := branches.all opensText
        closesText := branches.all closesText }

/-- The room of a state from which a machine goes on with another one or not. -/
def fork : Nat := state + 2 * way

/-- The room of a repetition of what takes so much room and may always read something.  Without a
greatest number the last one is a loop. -/
def repeatedRoom (least : Nat) (most : Option Nat) (alwaysReads : Bool) (inside : Nat) : Nat :=
  match most with
  | none =>
      if least = 0 ∧ !alwaysReads then inside + 2 * fork + state
      else max 1 least * inside + fork
  | some most =>
      if least = 0 ∧ most = 1 then inside + fork + state
      else if least = most then least * inside
      else
        (if least = 0 then state else least * inside) + state + (most - least) * (inside + fork)

/-- The machines that run machines again and again.  What can read nothing is run at most once. -/
def repeated (least : Nat) (most : Option Nat) (inside : Machine) : Machine :=
  let (least, most) :=
    if inside.canRead then (least, most) else (min least 1, some (min (most.getD 1) 1))
  if most = some 0 then nothing
  else if least = 1 ∧ most = some 1 then inside
  else
    { room := inside.room.map (repeatedRoom least most inside.alwaysReads)
      alwaysReads := decide (0 < least) && inside.alwaysReads
      canRead := inside.canRead
      opensText := decide (0 < least) && inside.opensText
      closesText := decide (0 < least) && inside.closesText }

/-- The room of a loop that looks for a place to begin, or of the state in its stead if there is a
single place. -/
def searchRoom (anchored : Bool) : Nat := if anchored then state else fork + 2 * state + branch

/-- Whether neither machine takes more room than it may.  Each has a state that is reached at the
end, and the one that reads onwards has two around the match. -/
def Fits (machine : Machine) : Prop :=
  machine.room.ahead + (searchRoom machine.opensText + 3 * state) ≤ limit ∧
    machine.room.back + (searchRoom machine.closesText + state) ≤ limit

instance (machine : Machine) : Decidable machine.Fits := inferInstanceAs (Decidable (_ ∧ _))

end Machine

end LoopLesson
