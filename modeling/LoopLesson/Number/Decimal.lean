import LoopLesson.Number.Integer

/-!
Decimal numbers: a whole number of units of a power of ten, and the texts that spell one.

A spelling is a sign, digits with at most one point among or around them, and an exponent after
`e` or `E`.  At least one digit stands before the exponent, and the exponent has one too.
-/

namespace LoopLesson
namespace Number

/-- The number `digits · 10 ^ exponent`, negated when `negative`. -/
structure Decimal where
  negative : Bool
  digits : Nat
  exponent : Int
deriving DecidableEq, Repr

namespace Decimal

/-- The value without its sign. -/
def size (decimal : Decimal) : Rat := (decimal.digits : Rat) * (10 : Rat) ^ decimal.exponent

/-- A sign at the front of a text, where none counts as plus. -/
def splitSign : List Char → Bool × List Char
  | [] => (false, [])
  | c :: rest =>
      if c = '-' then (true, rest) else if c = '+' then (false, rest) else (false, c :: rest)

/-- The digits after a point at the front of a text, if there is one, and what follows them. -/
def splitFraction : List Char → List Char × List Char
  | [] => ([], [])
  | c :: rest =>
      if c = '.' then (rest.takeWhile Char.isDigit, rest.dropWhile Char.isDigit) else ([], c :: rest)

/-- The exponent that a text spells to its end, where no text spells zero. -/
def exponent? : List Char → Option Int
  | [] => some 0
  | c :: rest =>
      if c = 'e' ∨ c = 'E' then
        let (negative, digits) := splitSign rest
        (natural? digits).map fun n => if negative then -(n : Int) else (n : Int)
      else
        none

/-- Reads a spelling without a sign. -/
def unsigned? (negative : Bool) (text : List Char) : Option Decimal :=
  let whole := text.takeWhile Char.isDigit
  let (fraction, rest) := splitFraction (text.dropWhile Char.isDigit)
  if whole = [] ∧ fraction = [] then
    none
  else
    (exponent? rest).map fun exponent =>
      { negative
        digits := Nat.ofDigitChars 10 (whole ++ fraction) 0
        exponent := exponent - (fraction.length : Int) }

/-- The number of digits of a numeral. -/
def width (n : Nat) : Nat := (Nat.toDigits 10 n).length

/-- For a positive rational number, the exponent `e` with `10 ^ e ≤ r < 10 ^ (e + 1)`. -/
def leadingExponent (r : Rat) : Int :=
  let estimate : Int := (width r.num.natAbs : Int) - (width r.den : Int)
  if (10 : Rat) ^ estimate ≤ r then estimate else estimate - 1

end Decimal

end Number
end LoopLesson
