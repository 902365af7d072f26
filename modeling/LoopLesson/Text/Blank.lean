import LoopLesson.Text.CharClass

/-!
Blank characters are those with the Unicode property White_Space.  Trimming removes them from the
ends of a text and keeps every blank between two other characters.
-/

namespace LoopLesson
namespace Text

/-- The Unicode property White_Space. -/
def whiteSpace : CharClass where
  ranges := [
    (0x09, 0x0D), (0x20, 0x20), (0x85, 0x85), (0xA0, 0xA0), (0x1680, 0x1680),
    (0x2000, 0x200A), (0x2028, 0x2029), (0x202F, 0x202F), (0x205F, 0x205F), (0x3000, 0x3000)]

def isBlank (c : Char) : Bool := whiteSpace.holds c

def skipBlanks (text : List Char) : List Char := text.dropWhile isBlank

def dropTrailingBlanks (text : List Char) : List Char :=
  (text.reverse.dropWhile isBlank).reverse

def trim (text : List Char) : List Char := dropTrailingBlanks (skipBlanks text)

/-- A text without the blanks at its two ends. -/
def trimmed (text : String) : String := String.ofList (trim text.toList)

/-- Skips one blank or more. -/
def skipSomeBlanks? : List Char → Option (List Char)
  | [] => none
  | c :: rest => if isBlank c then some (skipBlanks rest) else none

theorem skipBlanks_of_not_blank {c : Char} (notBlank : isBlank c = false) (rest : List Char) :
    skipBlanks (c :: rest) = c :: rest := by
  simp [skipBlanks, notBlank]

end Text
end LoopLesson
