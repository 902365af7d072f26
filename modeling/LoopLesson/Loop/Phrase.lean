import LoopLesson.Loop.Clause

/-!
Phrases that are looked for anywhere in a text: an array between brackets, the first text that a
logging call prints, and the name that a loop over items gives to its item.
-/

namespace LoopLesson

open Text

/-- What stands between the first opening bracket and the first closing bracket after it. -/
def bracketed? (text : List Char) : Option (List Char) :=
  match text.dropWhile (· ≠ '[') with
  | [] => none
  | _ :: rest => if ']' ∈ rest then some (rest.takeWhile (· ≠ ']')) else none

/-- The inside of a quoted text at the front of a text. -/
def quotedAtFront? : List Char → Option (List Char)
  | [] => none
  | quote :: rest =>
      if isQuote quote ∧ quote ∈ rest then some (rest.takeWhile (· ≠ quote)) else none

/-- The quoted text that opens the arguments of a logging call at the front of a text. -/
def logCallText? (text : List Char) : Option (List Char) :=
  (after? "console.log" text).bind fun rest =>
    (after? "(" (skipBlanks rest)).bind fun rest => quotedAtFront? (skipBlanks rest)

/-- The quoted text that opens the arguments of the first such logging call in a text. -/
def loggedText? (text : List Char) : Option (List Char) :=
  search? (fun _ here => logCallText? here) none text

/-- The name in `name of` at the front of a text, where a word ends after `of`. -/
def nameBeforeOf? (text : List Char) : Option (List Char) :=
  (identifier? text).bind fun (name, rest) =>
    (skipSomeBlanks? rest).bind fun rest =>
      (after? "of" rest).bind fun rest =>
        if isBoundary (some 'f') rest.head? then some name else none

/-- The name that the first `const name of`, `let name of` or `var name of` introduces. -/
def itemName? (text : List Char) : Option (List Char) :=
  search? (fun before here =>
    if isBoundary before here.head? then afterDeclarator? nameBeforeOf? here else none) none text

end LoopLesson
