import LoopLesson.Text.Blank

/-!
Identifiers as the lessons write them: an ASCII letter, underscore or dollar sign, followed by any
number of those and of ASCII digits.
-/

namespace LoopLesson
namespace Text

def isIdentifierStart (c : Char) : Bool := c.isAlpha || c = '_' || c = '$'

def isIdentifierPart (c : Char) : Bool := isIdentifierStart c || c.isDigit

/-- Splits off the longest identifier at the front of a text. -/
def identifier? : List Char → Option (List Char × List Char)
  | [] => none
  | c :: rest =>
      if isIdentifierStart c then
        some (c :: rest.takeWhile isIdentifierPart, rest.dropWhile isIdentifierPart)
      else
        none

/-- A text that is one whole identifier. -/
def IsIdentifier (name : List Char) : Prop :=
  ∃ c rest, name = c :: rest ∧ isIdentifierStart c = true ∧ ∀ d ∈ rest, isIdentifierPart d = true

/-- The identifier and the rest are the text that was read. -/
theorem append_of_identifier? {text name rest : List Char}
    (found : identifier? text = some (name, rest)) : name ++ rest = text := by
  cases text with
  | nil => simp [identifier?] at found
  | cons c tail =>
      simp only [identifier?] at found
      split at found
      · simp only [Option.some.injEq, Prod.mk.injEq] at found
        obtain ⟨rfl, rfl⟩ := found
        simp [List.takeWhile_append_dropWhile]
      · contradiction

/-- What is split off is an identifier. -/
theorem isIdentifier_of_identifier? {text name rest : List Char}
    (found : identifier? text = some (name, rest)) : IsIdentifier name := by
  cases text with
  | nil => simp [identifier?] at found
  | cons c tail =>
      simp only [identifier?] at found
      split at found
      next start =>
        simp only [Option.some.injEq, Prod.mk.injEq] at found
        refine ⟨c, tail.takeWhile isIdentifierPart, found.1.symm, start, ?_⟩
        intro d member
        exact List.all_eq_true.mp List.all_takeWhile d member
      next => contradiction

end Text
end LoopLesson
