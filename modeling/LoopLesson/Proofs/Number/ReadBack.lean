import LoopLesson.Proofs.Number.Spelling

/-!
Shown numbers read back.

The text of a finite number is a sign, except for zero, and a spelling of a size that rounds to the
number.  So reading the text gives the number again, without the sign of a zero.
-/

namespace LoopLesson
namespace Number
namespace Binary64

open Decimal Layout

/-- The number itself, except that a negative zero becomes zero. -/
def withoutZeroSign (x : Binary64) : Binary64 := if x.isZero then x.abs else x

theorem withoutZeroSign_eq (x : Binary64) :
    x.withoutZeroSign = { x.abs with negative := x.negative && !x.isZero } := by
  unfold withoutZeroSign
  cases x.isZero <;> simp [abs]

@[simp] theorem isFinite_withoutZeroSign (x : Binary64) :
    x.withoutZeroSign.isFinite = x.isFinite := by
  unfold withoutZeroSign
  split <;> rfl

section Signed

/-- A spelling behind a sign, where plus is not written. -/
def signed (negative : Bool) (spelling : List Char) : List Char :=
  if negative then '-' :: spelling else spelling

theorem splitSign_signed {spelling : List Char} {r : Rat} (spelled : Spells spelling r)
    (negative : Bool) : splitSign (signed negative spelling) = (negative, spelling) := by
  cases negative with
  | true => rfl
  | false =>
      obtain ⟨c, rest, rfl, digit⟩ := spelled.starts_with_digit
      exact splitSign_cons_of_isDigit digit rest

theorem toLower_of_isDigit {c : Char} (digit : c.isDigit = true) : c.toLower = c := by
  have bounds := Text.toNat_of_isDigit digit
  unfold Char.toLower
  apply dif_neg
  rintro ⟨upper, _⟩
  have large : 65 ≤ c.toNat := UInt32.le_iff_toNat_le.mp upper
  omega

theorem ofWord?_of_spells {spelling : List Char} {r : Rat} (spelled : Spells spelling r)
    (negative : Bool) : ofWord? negative spelling = none := by
  obtain ⟨c, rest, rfl, digit⟩ := spelled.starts_with_digit
  -- Lower case keeps the digit, and all three words start with a letter.
  have starts (word : String) (same : String.ofList ((c :: rest).map Char.toLower) = word) :
      word.toList.head? = some c := by
    rw [← same, String.toList_ofList, List.map_cons, toLower_of_isDigit digit, List.head?_cons]
  have differs (word : String) (first : Char) (head : word.toList.head? = some first)
      (letter : first.isDigit = false) :
      String.ofList ((c :: rest).map Char.toLower) ≠ word := by
    intro same
    rw [starts word same] at head
    cases head
    exact absurd digit (Bool.eq_false_iff.mp letter)
  have short := differs "inf" 'i' (by decide) (by decide)
  have long := differs "infinity" 'i' (by decide) (by decide)
  have none := differs "nan" 'n' (by decide) (by decide)
  unfold ofWord?
  dsimp only
  rw [if_neg (not_or.mpr ⟨short, long⟩), if_neg none]

theorem read?_signed {spelling : List Char} {r : Rat} (spelled : Spells spelling r)
    (negative : Bool) : read? (signed negative spelling) = some (ofSize negative r) := by
  obtain ⟨decimal, found, sign, size⟩ := spelled.unsigned?_eq negative
  unfold read?
  rw [splitSign_signed spelled]
  dsimp only
  rw [ofWord?_of_spells spelled]
  dsimp only
  rw [found, Option.map_some, ofDecimal_eq_ofSize, sign, size]

theorem isSpellingChar_of_mem_signed {spelling : List Char} {r : Rat} (spelled : Spells spelling r)
    (negative : Bool) {c : Char} (member : c ∈ signed negative spelling) :
    isSpellingChar c = true := by
  unfold signed at member
  split at member
  · rcases List.mem_cons.mp member with rfl | further
    · decide
    · exact spelled.isSpellingChar_of_mem further
  · exact spelled.isSpellingChar_of_mem member

end Signed

section Texts

variable {x : Binary64}

theorem text_of_isZero (zero : x.isZero = true) : x.text = "0" := by
  unfold text render
  exact if_pos zero

theorem text_of_nonzero (finite : x.isFinite = true) (nonzero : x.isZero = false) :
    x.text.toList = signed x.negative (console.decimalText x.shortest) := by
  have below : x.magnitude.val < infinityMagnitude := of_decide_eq_true finite
  have number : x.isNotANumber = false := decide_eq_false (by omega)
  have bounded : x.isInfinite = false := decide_eq_false (by omega)
  unfold text render
  dsimp only
  rw [nonzero, number, bounded]
  cases x.negative <;> simp [signed]

theorem ofSize_zero_of_isZero (finite : x.isFinite = true) (zero : x.isZero = true) :
    ofSize false 0 = x.abs := by
  have magnitude : x.magnitude.val = 0 := of_decide_eq_true zero
  have kept := ofMagnitude_of_isFinite finite false
  rw [magnitude] at kept
  unfold ofSize
  rw [if_pos rfl]
  exact kept

/-- A finite number is shown as a spelling that rounds to it, and zero without its sign. -/
theorem exists_spelling_text (finite : x.isFinite = true) :
    ∃ spelling r, x.text.toList = signed (x.negative && !x.isZero) spelling ∧ Spells spelling r ∧
      ofSize false r = x.abs := by
  cases zero : x.isZero with
  | true =>
      have spelled := Spells.whole (natural?_eq_some_iff.mp (natural?_toDigits 0)) .unwritten
      rw [Nat.cast_zero, zero_mul] at spelled
      refine ⟨['0'], 0, ?_, spelled, ofSize_zero_of_isZero finite zero⟩
      rw [text_of_isZero zero, Bool.not_true, Bool.and_false]
      decide
  | false =>
      refine ⟨console.decimalText x.shortest, x.shortest.size, ?_,
        spells_decimalText (digits_shortest_ne_zero finite zero), ofSize_size_shortest finite⟩
      rw [text_of_nonzero finite zero, Bool.not_false, Bool.and_true]

theorem read?_text (finite : x.isFinite = true) :
    read? x.text.toList = some x.withoutZeroSign := by
  obtain ⟨spelling, r, shown, spelled, rounded⟩ := exists_spelling_text finite
  rw [shown, read?_signed spelled, ofSize_eq_of_false, rounded, withoutZeroSign_eq]

theorem isSpellingChar_of_mem_text (finite : x.isFinite = true) {c : Char}
    (member : c ∈ x.text.toList) : isSpellingChar c = true := by
  obtain ⟨spelling, r, shown, spelled, _rounded⟩ := exists_spelling_text finite
  rw [shown] at member
  exact isSpellingChar_of_mem_signed spelled _ member

theorem text_toList_ne_nil (finite : x.isFinite = true) : x.text.toList ≠ [] := by
  obtain ⟨spelling, r, shown, spelled, _rounded⟩ := exists_spelling_text finite
  obtain ⟨c, rest, rfl, _digit⟩ := spelled.starts_with_digit
  rw [shown]
  unfold signed
  split <;> exact List.cons_ne_nil _ _

end Texts

end Binary64
end Number
end LoopLesson
