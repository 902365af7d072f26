import LoopLesson.Text.Blank
import LoopLesson.Text.Search

/-!
Splitting a list of arguments at its commas.

A quoted text reaches from a quotation mark to the next one of the same kind, whatever stands
between them, and parentheses are counted outside quoted texts.  A comma separates two arguments
when it stands in neither.
-/

namespace LoopLesson

open Text

/-- Where a reader of arguments is: how many parentheses and which quoted text are open. -/
structure ScanState where
  depth : Nat
  quote : Option Char
deriving DecidableEq, Repr

namespace ScanState

/-- Nothing is open. -/
def neutral : ScanState := { depth := 0, quote := none }

/-- The state after one more character.  A closing parenthesis that nothing opened is passed
over. -/
def next (state : ScanState) (c : Char) : ScanState :=
  match state.quote with
  | some quote => if c = quote then { state with quote := none } else state
  | none =>
      if isQuote c then { state with quote := some c }
      else if c = '(' then { state with depth := state.depth + 1 }
      else if c = ')' then { state with depth := state.depth - 1 }
      else state

/-- The state after a text. -/
def scan (state : ScanState) (text : List Char) : ScanState := text.foldl next state

@[simp] theorem scan_nil (state : ScanState) : state.scan [] = state := rfl

@[simp] theorem scan_cons (state : ScanState) (c : Char) (rest : List Char) :
    state.scan (c :: rest) = (state.next c).scan rest := rfl

theorem scan_append (state : ScanState) (left right : List Char) :
    state.scan (left ++ right) = (state.scan left).scan right := by
  simp [scan, List.foldl_append]

end ScanState

/-- The segments of a text between its separating commas, the first one apart. -/
def segments (state : ScanState) : List Char → List Char × List (List Char)
  | [] => ([], [])
  | c :: rest =>
      if state = .neutral ∧ c = ',' then
        let (first, others) := segments state rest
        ([], first :: others)
      else
        let (first, others) := segments (state.next c) rest
        (c :: first, others)

/-- The arguments of a list, each without the blanks at its ends.  There is always at least one. -/
def splitArguments (text : List Char) : List (List Char) :=
  let (first, others) := segments .neutral text
  (first :: others).map trim

end LoopLesson
