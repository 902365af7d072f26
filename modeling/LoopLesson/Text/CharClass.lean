/-!
Classes of characters given by inclusive ranges of code points, the form in which the Unicode
character database publishes its properties.
-/

namespace LoopLesson
namespace Text

/-- A class of characters, as inclusive ranges of code points. -/
structure CharClass where
  ranges : List (Nat × Nat)

namespace CharClass

/-- Whether the code point of a character lies in one of the ranges. -/
def holds (charClass : CharClass) (c : Char) : Bool :=
  charClass.ranges.any fun range => range.1 ≤ c.toNat && c.toNat ≤ range.2

theorem holds_iff (charClass : CharClass) (c : Char) :
    charClass.holds c = true ↔
      ∃ range ∈ charClass.ranges, range.1 ≤ c.toNat ∧ c.toNat ≤ range.2 := by
  simp [holds]

end CharClass

end Text
end LoopLesson
