/-!
Whole numbers as text, and the 64-bit words in which a loop keeps its counter.
-/

namespace LoopLesson
namespace Number

/-- The values of a signed 64-bit word. -/
def FitsWord (n : Int) : Prop := -0x8000000000000000 ≤ n ∧ n < 0x8000000000000000

instance (n : Int) : Decidable (FitsWord n) := inferInstanceAs (Decidable (_ ∧ _))

/-- The signed 64-bit word that agrees with a number modulo `2 ^ 64`. -/
def wrapWord (n : Int) : Int := n.bmod 0x10000000000000000

/-- The values of an unsigned 64-bit word. -/
def FitsUnsignedWord (n : Nat) : Prop := n < 0x10000000000000000

instance (n : Nat) : Decidable (FitsUnsignedWord n) := inferInstanceAs (Decidable (_ < _))

/-- Reads a text made of one ASCII digit or more. -/
def natural? (text : List Char) : Option Nat :=
  if text ≠ [] ∧ text.all Char.isDigit then some (Nat.ofDigitChars 10 text 0) else none

/-- Reads digits that a minus sign may precede. -/
def integer? : List Char → Option Int
  | [] => none
  | c :: rest =>
      if c = '-' then (natural? rest).map fun n => -(n : Int)
      else (natural? (c :: rest)).map Int.ofNat

/-- Reads a number that fits a signed 64-bit word. -/
def word? (text : List Char) : Option Int :=
  (integer? text).filter fun n => decide (FitsWord n)

/-- The decimal numeral of a natural number. -/
def naturalText (n : Nat) : String := String.ofList (Nat.toDigits 10 n)

/-- The decimal numeral of an integer, with a minus sign for a negative one. -/
def integerText (n : Int) : String :=
  if n < 0 then "-" ++ naturalText n.natAbs else naturalText n.natAbs

/-- What is written is read back. -/
theorem natural?_toDigits (n : Nat) : natural? (Nat.toDigits 10 n) = some n := by
  have digits : (Nat.toDigits 10 n).all Char.isDigit = true :=
    List.all_eq_true.mpr fun c member =>
      Nat.isDigit_of_mem_toDigits (by decide) (by decide) member
  simp only [natural?, ne_eq, Nat.toDigits_ne_nil, not_false_eq_true, digits, and_self, ↓reduceIte,
    Nat.ofDigitChars_ten_toDigits]

end Number
end LoopLesson
