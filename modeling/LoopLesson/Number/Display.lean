import LoopLesson.Number.Shortest

/-!
How a number is shown: in the fewest digits that read back, positionally in the middle of the range
and with an exponent outside it.
-/

namespace LoopLesson
namespace Number

/-- The choices that turn the digits of a number into text. -/
structure Layout where
  /-- The least leading exponent that is written positionally. -/
  leastPositional : Int
  /-- The greatest leading exponent that is written positionally. -/
  greatestPositional : Int
  positiveExponentSign : String
  zeroText : String
  notANumberText : String
  infinityText : String

/-- Sizes from `10 ^ (-6)` up to `10 ^ 21` are positional, an exponent carries its sign, and zero
has none. -/
def Layout.console : Layout where
  leastPositional := -6
  greatestPositional := 20
  positiveExponentSign := "+"
  zeroText := "0"
  notANumberText := "NaN"
  infinityText := "Infinity"

namespace Layout

/-- Digits with a point after the first `point` of them, filled up with zeros where the point lies
outside the digits. -/
def positional (digits : List Char) (point : Int) : List Char :=
  if point ≤ 0 then
    '0' :: '.' :: List.replicate (-point).toNat '0' ++ digits
  else if point < digits.length then
    digits.take point.toNat ++ '.' :: digits.drop point.toNat
  else
    digits ++ List.replicate (point.toNat - digits.length) '0'

/-- Digits with a point after the first one, followed by an exponent. -/
def scientific (layout : Layout) (digits : List Char) (exponent : Int) : List Char :=
  let mantissa := if digits.length ≤ 1 then digits else digits.take 1 ++ '.' :: digits.drop 1
  let sign := if exponent < 0 then "-" else layout.positiveExponentSign
  mantissa ++ 'e' :: sign.toList ++ Nat.toDigits 10 exponent.natAbs

/-- The digits of a decimal number that is not zero, without the zeros at their end. -/
def significantDigits (decimal : Decimal) : List Char :=
  ((Nat.toDigits 10 decimal.digits).reverse.dropWhile (· = '0')).reverse

/-- The text of a decimal number that is not zero, without its sign. -/
def decimalText (layout : Layout) (decimal : Decimal) : List Char :=
  let point := (Decimal.width decimal.digits : Int) + decimal.exponent
  let digits := significantDigits decimal
  if layout.leastPositional ≤ point - 1 ∧ point - 1 ≤ layout.greatestPositional then
    positional digits point
  else
    layout.scientific digits (point - 1)

def render (layout : Layout) (x : Binary64) : String :=
  let sign := if x.negative then "-" else ""
  if x.isZero then layout.zeroText
  else if x.isNotANumber then layout.notANumberText
  else if x.isInfinite then sign ++ layout.infinityText
  else sign ++ String.ofList (layout.decimalText x.shortest)

end Layout

/-- The text of a number as a console shows it. -/
def Binary64.text (x : Binary64) : String := Layout.console.render x

end Number
end LoopLesson
