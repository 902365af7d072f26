import LoopLesson.Number.Display
import LoopLesson.Proofs.Loop.Grammar
import LoopLesson.Proofs.Number.Rounding

/-!
The texts that spell a size.

A spelling is made of digits, with a point among them or without one, and of an exponent.  The text
of a decimal number is such a spelling of its size, whether or not it is written with an exponent,
and reading a spelling gives the size that it spells.
-/

namespace LoopLesson
namespace Number

namespace Decimal

/-- An exponent is not written at all, or in digits behind `e` and a sign. -/
inductive SpellsExponent : List Char → Int → Prop
  | unwritten : SpellsExponent [] 0
  | plus (n : Nat) : SpellsExponent ('e' :: '+' :: Nat.toDigits 10 n) n
  | minus (n : Nat) : SpellsExponent ('e' :: '-' :: Nat.toDigits 10 n) (-n)

/-- The digits of a spelling write a number, of which those behind the point are a fraction. -/
inductive Spells : List Char → Rat → Prop
  | whole {digits tail : List Char} {n : Nat} {exponent : Int} (written : Digits digits n)
      (scaled : SpellsExponent tail exponent) : Spells (digits ++ tail) (n * 10 ^ exponent)
  | pointed {whole fraction tail : List Char} {n : Nat} {exponent : Int} (leading : whole ≠ [])
      (written : Digits (whole ++ fraction) n) (scaled : SpellsExponent tail exponent) :
      Spells (whole ++ '.' :: (fraction ++ tail)) (n * 10 ^ (exponent - (fraction.length : Int)))

section Reading

theorem splitSign_cons_of_isDigit {c : Char} (digit : c.isDigit = true) (rest : List Char) :
    splitSign (c :: rest) = (false, c :: rest) := by
  have notMinus : c ≠ '-' := by
    rintro rfl
    exact absurd digit (by decide)
  have notPlus : c ≠ '+' := by
    rintro rfl
    exact absurd digit (by decide)
  rw [splitSign, if_neg notMinus, if_neg notPlus]

theorem SpellsExponent.exponent?_eq {tail : List Char} {exponent : Int}
    (scaled : SpellsExponent tail exponent) : exponent? tail = some exponent := by
  cases scaled with
  | unwritten => rfl
  | plus n =>
      rw [exponent?, if_pos (.inl rfl)]
      simp [splitSign, natural?_toDigits]
  | minus n =>
      rw [exponent?, if_pos (.inl rfl)]
      simp [splitSign, natural?_toDigits]

theorem SpellsExponent.tail_cases {tail : List Char} {exponent : Int}
    (scaled : SpellsExponent tail exponent) :
    tail = [] ∨ ∃ sign n, (sign = '+' ∨ sign = '-') ∧ tail = 'e' :: sign :: Nat.toDigits 10 n := by
  cases scaled with
  | unwritten => exact .inl rfl
  | plus n => exact .inr ⟨'+', n, .inl rfl, rfl⟩
  | minus n => exact .inr ⟨'-', n, .inr rfl, rfl⟩

theorem takeWhile_dropWhile_digits {digits rest : List Char}
    (allDigits : ∀ c ∈ digits, c.isDigit = true)
    (ends : ∀ c, rest.head? = some c → c.isDigit = false) :
    (digits ++ rest).takeWhile Char.isDigit = digits ∧
      (digits ++ rest).dropWhile Char.isDigit = rest := by
  rw [List.takeWhile_append_of_pos allDigits, List.dropWhile_append_of_pos allDigits]
  cases rest with
  | nil => exact ⟨List.append_nil digits, rfl⟩
  | cons c later =>
      have outside := ends c rfl
      rw [List.takeWhile_cons, List.dropWhile_cons, outside]
      exact ⟨List.append_nil digits, rfl⟩

theorem SpellsExponent.ends {tail : List Char} {exponent : Int}
    (scaled : SpellsExponent tail exponent) (c : Char) (head : tail.head? = some c) :
    c.isDigit = false := by
  rcases scaled.tail_cases with rfl | ⟨sign, n, _signed, rfl⟩
  · cases head
  · cases head
    decide

theorem SpellsExponent.splitFraction_eq {tail : List Char} {exponent : Int}
    (scaled : SpellsExponent tail exponent) : splitFraction tail = ([], tail) := by
  rcases scaled.tail_cases with rfl | ⟨sign, n, _signed, rfl⟩
  · rfl
  · rw [splitFraction, if_neg (by decide)]

/-- A spelling is read as the size that it spells. -/
theorem Spells.unsigned?_eq {text : List Char} {r : Rat} (spelled : Spells text r)
    (negative : Bool) :
    ∃ decimal, unsigned? negative text = some decimal ∧ decimal.negative = negative ∧
      decimal.size = r := by
  cases spelled with
  | @whole digits tail n exponent written scaled =>
      obtain ⟨nonempty, allDigits, value⟩ := written
      obtain ⟨front, back⟩ := takeWhile_dropWhile_digits allDigits scaled.ends
      refine ⟨⟨negative, n, exponent⟩, ?_, rfl, rfl⟩
      unfold unsigned?
      simp only [front, back, scaled.splitFraction_eq, nonempty, false_and, if_false,
        scaled.exponent?_eq, Option.map_some, List.append_nil, value, List.length_nil,
        Nat.cast_zero, sub_zero]
  | @pointed whole fraction tail n exponent leading written scaled =>
      obtain ⟨_nonempty, allDigits, value⟩ := written
      have wholeDigits : ∀ c ∈ whole, c.isDigit = true :=
        fun c member => allDigits c (List.mem_append_left fraction member)
      have fractionDigits : ∀ c ∈ fraction, c.isDigit = true :=
        fun c member => allDigits c (List.mem_append_right whole member)
      have point : ∀ c, ('.' :: (fraction ++ tail)).head? = some c → c.isDigit = false := by
        rintro c ⟨⟩
        decide
      obtain ⟨front, back⟩ := takeWhile_dropWhile_digits wholeDigits point
      obtain ⟨fractionFront, fractionBack⟩ := takeWhile_dropWhile_digits fractionDigits scaled.ends
      refine ⟨⟨negative, n, exponent - (fraction.length : Int)⟩, ?_, rfl, rfl⟩
      unfold unsigned?
      simp only [front, back, splitFraction, if_true, fractionFront, fractionBack, leading,
        false_and, if_false, scaled.exponent?_eq, Option.map_some, value]

theorem Spells.starts_with_digit {text : List Char} {r : Rat} (spelled : Spells text r) :
    ∃ c rest, text = c :: rest ∧ c.isDigit = true := by
  cases spelled with
  | @whole digits tail _ _ written _ =>
      cases digits with
      | nil => exact absurd rfl written.1
      | cons c rest => exact ⟨c, rest ++ tail, rfl, written.2.1 c List.mem_cons_self⟩
  | @pointed whole fraction tail _ _ leading written _ =>
      cases whole with
      | nil => exact absurd rfl leading
      | cons c rest => exact ⟨c, _, rfl, written.2.1 c List.mem_cons_self⟩

end Reading

section Characters

/-- The characters of a signed spelling. -/
def isSpellingChar (c : Char) : Bool := c.isDigit || c = '.' || c = 'e' || c = '+' || c = '-'

theorem isSpellingChar_of_isDigit {c : Char} (digit : c.isDigit = true) :
    isSpellingChar c = true := by
  simp [isSpellingChar, digit]

theorem SpellsExponent.isSpellingChar_of_mem {tail : List Char} {exponent : Int}
    (scaled : SpellsExponent tail exponent) {c : Char} (member : c ∈ tail) :
    isSpellingChar c = true := by
  rcases scaled.tail_cases with rfl | ⟨sign, n, signed, rfl⟩
  · cases member
  · rcases List.mem_cons.mp member with rfl | later
    · decide
    · rcases List.mem_cons.mp later with rfl | digit
      · rcases signed with rfl | rfl <;> decide
      · apply isSpellingChar_of_isDigit
        exact Nat.isDigit_of_mem_toDigits (by decide) (by decide) digit

theorem Spells.isSpellingChar_of_mem {text : List Char} {r : Rat} (spelled : Spells text r)
    {c : Char} (member : c ∈ text) : isSpellingChar c = true := by
  cases spelled with
  | whole written scaled =>
      rcases List.mem_append.mp member with digit | further
      · exact isSpellingChar_of_isDigit (written.2.1 c digit)
      · exact scaled.isSpellingChar_of_mem further
  | pointed _ written scaled =>
      rcases List.mem_append.mp member with digit | further
      · exact isSpellingChar_of_isDigit (written.2.1 c (List.mem_append_left _ digit))
      · rcases List.mem_cons.mp further with rfl | behind
        · decide
        · rcases List.mem_append.mp behind with digit | later
          · exact isSpellingChar_of_isDigit (written.2.1 c (List.mem_append_right _ digit))
          · exact scaled.isSpellingChar_of_mem later

end Characters

end Decimal

namespace Layout

open Decimal

section Layouts

variable {digits : List Char} {n : Nat}

theorem digits_behind_zeros (written : Digits digits n) (zeros : Nat) :
    Digits (List.replicate zeros '0' ++ digits) n := by
  obtain ⟨nonempty, allDigits, value⟩ := written
  refine ⟨List.append_ne_nil_of_right_ne_nil _ nonempty, ?_, ?_⟩
  · intro c member
    rcases List.mem_append.mp member with zero | digit
    · rw [List.eq_of_mem_replicate zero]
      decide
    · exact allDigits c digit
  · rw [Nat.ofDigitChars_append, Nat.ofDigitChars_replicate_zero, Nat.mul_zero, value]

theorem digits_before_zeros (written : Digits digits n) (zeros : Nat) :
    Digits (digits ++ List.replicate zeros '0') (10 ^ zeros * n) := by
  obtain ⟨nonempty, allDigits, value⟩ := written
  refine ⟨List.append_ne_nil_of_left_ne_nil nonempty _, ?_, ?_⟩
  · intro c member
    rcases List.mem_append.mp member with digit | zero
    · exact allDigits c digit
    · rw [List.eq_of_mem_replicate zero]
      decide
  · rw [Nat.ofDigitChars_append, Nat.ofDigitChars_replicate_zero, value]

/-- A point stands behind some of the digits, in front of an exponent or of nothing. -/
theorem spells_pointed (written : Digits digits n) {tail : List Char} {exponent : Int}
    (scaled : SpellsExponent tail exponent) (count : Nat) (positive : 0 < count)
    (fits : count ≤ digits.length) :
    Spells (digits.take count ++ '.' :: (digits.drop count ++ tail))
      (n * 10 ^ (exponent + (count : Int) - (digits.length : Int))) := by
  have leading : digits.take count ≠ [] := by
    apply List.ne_nil_of_length_pos
    rw [List.length_take]
    omega
  have joined : Digits (digits.take count ++ digits.drop count) n := by
    rw [List.take_append_drop]
    exact written
  have place : exponent + (count : Int) - (digits.length : Int) =
      exponent - ((digits.drop count).length : Int) := by
    rw [List.length_drop]
    omega
  rw [place]
  exact .pointed leading joined scaled

theorem spells_positional (written : Digits digits n) (point : Int) :
    Spells (positional digits point) (n * 10 ^ (point - (digits.length : Int))) := by
  unfold positional
  split
  · rename_i before
    -- The zero in front of the point is one of the digits, so the point stands behind the first.
    have shifted := digits_behind_zeros written ((-point).toNat + 1)
    have length : (List.replicate ((-point).toNat + 1) '0' ++ digits).length =
        (-point).toNat + 1 + digits.length := by
      rw [List.length_append, List.length_replicate]
    have spelled := spells_pointed shifted .unwritten 1 (by decide) (by omega)
    have place : (0 : Int) + (1 : Nat) - ((-point).toNat + 1 + digits.length : Nat) =
        point - (digits.length : Int) := by
      omega
    rw [length, place, List.append_nil] at spelled
    exact spelled
  · rename_i behind
    split
    · rename_i inside
      have spelled := spells_pointed written .unwritten point.toNat (by omega) (by omega)
      have place : (0 : Int) + (point.toNat : Int) - (digits.length : Int) =
          point - (digits.length : Int) := by
        omega
      rw [place, List.append_nil] at spelled
      exact spelled
    · rename_i beyond
      have spelled := Spells.whole
        (digits_before_zeros written (point.toNat - digits.length)) .unwritten
      have place : point - (digits.length : Int) = (point.toNat - digits.length : Nat) := by
        omega
      rw [List.append_nil, zpow_zero, mul_one, Nat.cast_mul, Nat.cast_pow, mul_comm] at spelled
      rw [place, zpow_natCast]
      exact spelled

theorem spellsExponent_console (exponent : Int) :
    SpellsExponent
      ('e' :: (if exponent < 0 then "-" else console.positiveExponentSign).toList ++
        Nat.toDigits 10 exponent.natAbs) exponent := by
  split
  · rename_i negative
    have value : exponent = -(exponent.natAbs : Int) := by omega
    conv => rhs; rw [value]
    exact .minus exponent.natAbs
  · rename_i positive
    have value : exponent = (exponent.natAbs : Int) := by omega
    conv => rhs; rw [value]
    exact .plus exponent.natAbs

theorem spells_scientific (written : Digits digits n) (exponent : Int) :
    Spells (console.scientific digits exponent)
      (n * 10 ^ (exponent + 1 - (digits.length : Int))) := by
  have scaled := spellsExponent_console exponent
  have positive : 0 < digits.length := List.length_pos_of_ne_nil written.1
  unfold scientific
  dsimp only
  split
  · rename_i single
    have place : exponent + 1 - (digits.length : Int) = exponent := by omega
    rw [place, List.append_assoc]
    exact .whole written scaled
  · rename_i several
    have spelled := spells_pointed written scaled 1 (by decide) (by omega)
    simp only [List.append_assoc, List.cons_append] at spelled ⊢
    exact spelled

end Layouts

section SignificantDigits

theorem exists_zeros_significantDigits (decimal : Decimal) :
    ∃ zeros, Nat.toDigits 10 decimal.digits =
      significantDigits decimal ++ List.replicate zeros '0' := by
  -- Seen from the end, the zeros are the ones that are dropped.
  let numeral := (Nat.toDigits 10 decimal.digits).reverse
  refine ⟨(numeral.takeWhile (· = '0')).length, ?_⟩
  have zeros : numeral.takeWhile (· = '0') =
      List.replicate (numeral.takeWhile (· = '0')).length '0' := by
    apply List.eq_replicate_of_mem
    intro c member
    exact of_decide_eq_true (List.all_eq_true.mp List.all_takeWhile c member)
  have cut : numeral.takeWhile (· = '0') ++ numeral.dropWhile (· = '0') = numeral :=
    List.takeWhile_append_dropWhile
  have turned := congrArg List.reverse cut
  rw [List.reverse_append, zeros, List.reverse_replicate, List.reverse_reverse] at turned
  exact turned.symm

theorem digits_significantDigits {decimal : Decimal} (nonzero : decimal.digits ≠ 0) :
    ∃ n zeros, Digits (significantDigits decimal) n ∧ 10 ^ zeros * n = decimal.digits ∧
      (significantDigits decimal).length + zeros = width decimal.digits := by
  obtain ⟨zeros, numeral⟩ := exists_zeros_significantDigits decimal
  have value := Nat.ofDigitChars_ten_toDigits (n := decimal.digits)
  rw [numeral, Nat.ofDigitChars_append, Nat.ofDigitChars_replicate_zero] at value
  refine ⟨_, zeros, ⟨?_, ?_, rfl⟩, value, ?_⟩
  · intro empty
    rw [empty, Nat.ofDigitChars_nil, Nat.mul_zero] at value
    exact nonzero value.symm
  · intro c member
    apply Nat.isDigit_of_mem_toDigits (b := 10) (n := decimal.digits) (by decide) (by decide)
    rw [numeral]
    exact List.mem_append_left _ member
  · unfold width
    rw [numeral, List.length_append, List.length_replicate]

/-- In either layout, the text of a decimal number spells its size. -/
theorem spells_decimalText {decimal : Decimal} (nonzero : decimal.digits ≠ 0) :
    Spells (console.decimalText decimal) decimal.size := by
  obtain ⟨n, zeros, written, value, length⟩ := digits_significantDigits nonzero
  have size : decimal.size = n * 10 ^ ((width decimal.digits : Int) + decimal.exponent -
      ((significantDigits decimal).length : Int)) := by
    have place : (width decimal.digits : Int) + decimal.exponent -
        ((significantDigits decimal).length : Int) = (zeros : Int) + decimal.exponent := by
      omega
    unfold Decimal.size
    rw [place, zpow_ten_add, zpow_natCast, ← value, Nat.cast_mul, Nat.cast_pow]
    ring
  rw [size]
  unfold decimalText
  dsimp only
  split
  · exact spells_positional written _
  · have spelled := spells_scientific written
      ((width decimal.digits : Int) + decimal.exponent - 1)
    rw [sub_add_cancel] at spelled
    exact spelled

end SignificantDigits

end Layout

end Number
end LoopLesson
