import LoopLesson.Pattern.NamePattern
import LoopLesson.Statement.Bindings
import LoopLesson.Text.Word

/-!
Replacing names by their values wherever they stand as whole words.

A name stands as a whole word where the places before and after it are word boundaries.  The names
are replaced one after the other in ascending order, each in the text that the ones before it have
left.  A name whose pattern cannot be used is passed over.
-/

namespace LoopLesson

open Text

/-- The last character before the rest of a text, once some more of it has been passed. -/
def lastBefore (before : Option Char) (passed : List Char) : Option Char :=
  match passed.getLast? with
  | some c => some c
  | none => before

/-- Whether a name stands as a whole word at the front of a text. -/
def standsHere (name : List Char) (before : Option Char) (text : List Char) : Bool :=
  name.isPrefixOf text && isBoundary before text.head? &&
    isBoundary (lastBefore before name) (text.drop name.length).head?

/-- Replaces a name by a value from a place on.  The first argument counts the characters of a
replaced name that are still to be passed over. -/
def replaceFrom (name value : List Char) : Nat → Option Char → List Char → List Char
  | 0, before, [] => if standsHere name before [] then value else []
  | 0, before, c :: rest =>
      if standsHere name before (c :: rest) then
        match name.length with
        | 0 => value ++ c :: replaceFrom name value 0 (some c) rest
        | pending + 1 => value ++ replaceFrom name value pending (some c) rest
      else
        c :: replaceFrom name value 0 (some c) rest
  | _ + 1, _, [] => []
  | pending + 1, _, c :: rest => replaceFrom name value pending (some c) rest

/-- Replaces a name by a value wherever it stands as a whole word, if the pattern that looks for it
can be used. -/
def replaceWord (name value text : List Char) : List Char :=
  if Pattern.Compiles (NamePattern.word name) then replaceFrom name value 0 none text else text

/-- Replaces every bound name by its value, in ascending order of the names. -/
def substitute (bindings : Bindings) (text : List Char) : List Char :=
  bindings.entries.foldl (fun text entry => replaceWord entry.1.toList entry.2.toList text) text

end LoopLesson
