import LoopLesson.Text.Word

/-!
Searching a text from left to right for the first place where something can be read.
-/

namespace LoopLesson
namespace Text

/-- The first reading at any place of a text.  A reading sees the character before the place and the
text from there on. -/
def search? {α : Type} (read : Option Char → List Char → Option α) :
    Option Char → List Char → Option α
  | before, [] => read before []
  | before, c :: rest =>
      match read before (c :: rest) with
      | some found => some found
      | none => search? read (some c) rest

/-- What is left of a text after another one at its front. -/
def strip? : List Char → List Char → Option (List Char)
  | [], text => some text
  | _ :: _, [] => none
  | c :: front, d :: text => if c = d then strip? front text else none

/-- What is left of a text after a literal at its front. -/
def after? (literal : String) (text : List Char) : Option (List Char) := strip? literal.toList text

theorem strip?_eq_some_iff {front text rest : List Char} :
    strip? front text = some rest ↔ front ++ rest = text := by
  induction front generalizing text with
  | nil => simp [strip?, eq_comm]
  | cons c front ih =>
      cases text with
      | nil => simp [strip?]
      | cons d text =>
          by_cases same : c = d
          · simp [strip?, same, ih]
          · simp [strip?, same]

theorem after?_eq_some_iff {literal : String} {text rest : List Char} :
    after? literal text = some rest ↔ literal.toList ++ rest = text :=
  strip?_eq_some_iff

/-- The pieces of a text between the given marks, the first one apart. -/
def pieces (mark : Char) : List Char → List Char × List (List Char)
  | [] => ([], [])
  | c :: rest =>
      let (first, others) := pieces mark rest
      if c = mark then ([], first :: others) else (c :: first, others)

def doubleQuote : Char := '\x22'

def singleQuote : Char := '\x27'

def backQuote : Char := '\x60'

/-- The three characters that open and close a quoted text. -/
def isQuote (c : Char) : Bool := c = doubleQuote || c = singleQuote || c = backQuote

end Text
end LoopLesson
