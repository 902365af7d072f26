import LoopLesson.Text.Identifier

/-!
Blanks and identifiers as pieces of a text.

A reader that skips blanks or splits off an identifier cuts its text into pieces.  The other way
round, a text that is put together from such pieces is cut at the same places, as long as the next
piece cannot belong to the one before.
-/

namespace LoopLesson
namespace Text

def AllBlank (text : List Char) : Prop := ∀ c ∈ text, isBlank c = true

def StartsSolid (text : List Char) : Prop := ∀ c, text.head? = some c → isBlank c = false

def EndsSolid (text : List Char) : Prop := ∀ c, text.getLast? = some c → isBlank c = false

theorem allBlank_nil : AllBlank [] := by
  intro c member
  cases member

theorem startsSolid_cons {c : Char} (notBlank : isBlank c = false) (rest : List Char) :
    StartsSolid (c :: rest) := by
  intro first head
  cases head
  exact notBlank

theorem StartsSolid.append {text : List Char} (starts : StartsSolid text) (nonempty : text ≠ [])
    (rest : List Char) : StartsSolid (text ++ rest) := by
  intro c head
  cases text with
  | nil => exact absurd rfl nonempty
  | cons first further => exact starts c head

theorem isBlank_eq_false_of_visible {c : Char} (low : 33 ≤ c.toNat) (high : c.toNat ≤ 126) :
    isBlank c = false := by
  apply Bool.eq_false_iff.mpr
  intro blank
  obtain ⟨range, listed, from_le, le_to⟩ := (CharClass.holds_iff whiteSpace c).mp blank
  simp only [whiteSpace, List.mem_cons, List.not_mem_nil, or_false] at listed
  rcases listed with rfl | rfl | rfl | rfl | rfl | rfl | rfl | rfl | rfl | rfl <;>
    simp only at from_le le_to <;> omega

theorem toNat_of_isDigit {c : Char} (digit : c.isDigit = true) :
    48 ≤ c.toNat ∧ c.toNat ≤ 57 := by
  simpa [Char.isDigit, UInt32.le_iff_toNat_le] using digit

theorem isBlank_of_isDigit {c : Char} (digit : c.isDigit = true) : isBlank c = false := by
  have bounds := toNat_of_isDigit digit
  exact isBlank_eq_false_of_visible (by omega) (by omega)

theorem toNat_of_isAlpha {c : Char} (letter : c.isAlpha = true) :
    65 ≤ c.toNat ∧ c.toNat ≤ 122 := by
  rcases Bool.or_eq_true_iff.mp letter with upper | lower
  · have bounds : 'A'.val ≤ c.val ∧ c.val ≤ 'Z'.val := of_decide_eq_true upper
    have low : 65 ≤ c.toNat := UInt32.le_iff_toNat_le.mp bounds.1
    have high : c.toNat ≤ 90 := UInt32.le_iff_toNat_le.mp bounds.2
    omega
  · have bounds := Bool.and_eq_true_iff.mp lower
    have low : 97 ≤ c.toNat := UInt32.le_iff_toNat_le.mp (of_decide_eq_true bounds.1)
    have high : c.toNat ≤ 122 := UInt32.le_iff_toNat_le.mp (of_decide_eq_true bounds.2)
    omega

theorem toNat_of_isIdentifierPart {c : Char} (part : isIdentifierPart c = true) :
    c.toNat < 0x80 := by
  simp only [isIdentifierPart, isIdentifierStart, Bool.or_eq_true, decide_eq_true_eq] at part
  rcases part with ((letter | rfl) | rfl) | digit
  · have bounds := toNat_of_isAlpha letter
    omega
  · decide
  · decide
  · have bounds := toNat_of_isDigit digit
    omega

theorem isBlank_of_isAlpha {c : Char} (letter : c.isAlpha = true) : isBlank c = false := by
  have bounds := toNat_of_isAlpha letter
  exact isBlank_eq_false_of_visible (by omega) (by omega)

theorem isBlank_of_isIdentifierStart {c : Char} (start : isIdentifierStart c = true) :
    isBlank c = false := by
  simp only [isIdentifierStart, Bool.or_eq_true, decide_eq_true_eq] at start
  rcases start with (letter | underscore) | dollar
  · exact isBlank_of_isAlpha letter
  · subst c
    decide
  · subst c
    decide

theorem isBlank_of_isIdentifierPart {c : Char} (part : isIdentifierPart c = true) :
    isBlank c = false := by
  rcases Bool.or_eq_true_iff.mp part with start | digit
  · exact isBlank_of_isIdentifierStart start
  · exact isBlank_of_isDigit digit

section Blanks

theorem exists_blanks_skipBlanks (text : List Char) :
    ∃ blanks, AllBlank blanks ∧ text = blanks ++ skipBlanks text := by
  refine ⟨text.takeWhile isBlank, ?_, ?_⟩
  · intro c member
    exact List.all_eq_true.mp List.all_takeWhile c member
  · exact (List.takeWhile_append_dropWhile).symm

theorem startsSolid_skipBlanks (text : List Char) : StartsSolid (skipBlanks text) := by
  intro c head
  have stops := List.head?_dropWhile_not isBlank text
  unfold skipBlanks at head
  rw [head] at stops
  simpa using stops

theorem skipBlanks_of_startsSolid {text : List Char} (solid : StartsSolid text) :
    skipBlanks text = text := by
  cases text with
  | nil => rfl
  | cons c rest => exact skipBlanks_of_not_blank (solid c rfl) rest

/-- Blanks before a text that starts with none are all that is skipped. -/
theorem skipBlanks_append {blanks rest : List Char} (blank : AllBlank blanks)
    (solid : StartsSolid rest) : skipBlanks (blanks ++ rest) = rest := by
  induction blanks with
  | nil => exact skipBlanks_of_startsSolid solid
  | cons c further ih =>
      have first : isBlank c = true := blank c List.mem_cons_self
      have later : AllBlank further := fun d member => blank d (List.mem_cons_of_mem c member)
      unfold skipBlanks
      rw [List.cons_append, List.dropWhile_cons_of_pos first]
      exact ih later

theorem skipSomeBlanks?_eq_some_iff {text rest : List Char} :
    skipSomeBlanks? text = some rest ↔
      ∃ blanks, blanks ≠ [] ∧ AllBlank blanks ∧ StartsSolid rest ∧ text = blanks ++ rest := by
  constructor
  · intro skipped
    cases text with
    | nil => cases skipped
    | cons c further =>
        rw [skipSomeBlanks?] at skipped
        split at skipped
        · rename_i first
          cases skipped
          obtain ⟨blanks, blank, split⟩ := exists_blanks_skipBlanks further
          refine ⟨c :: blanks, List.cons_ne_nil c blanks, ?_, startsSolid_skipBlanks further, ?_⟩
          · intro d member
            rcases List.mem_cons.mp member with same | later
            · subst d
              exact first
            · exact blank d later
          · rw [List.cons_append, ← split]
        · cases skipped
  · rintro ⟨blanks, nonempty, blank, solid, rfl⟩
    cases blanks with
    | nil => exact absurd rfl nonempty
    | cons c further =>
        have first : isBlank c = true := blank c List.mem_cons_self
        have later : AllBlank further := fun d member => blank d (List.mem_cons_of_mem c member)
        rw [List.cons_append, skipSomeBlanks?, if_pos first, skipBlanks_append later solid]

end Blanks

section Trimming

theorem exists_blanks_dropTrailingBlanks (text : List Char) :
    ∃ blanks, AllBlank blanks ∧ text = dropTrailingBlanks text ++ blanks := by
  obtain ⟨blanks, blank, split⟩ := exists_blanks_skipBlanks text.reverse
  refine ⟨blanks.reverse, ?_, ?_⟩
  · intro c member
    exact blank c (List.mem_reverse.mp member)
  · have turned := congrArg List.reverse split
    rw [List.reverse_reverse, List.reverse_append] at turned
    exact turned

theorem endsSolid_dropTrailingBlanks (text : List Char) : EndsSolid (dropTrailingBlanks text) := by
  intro c last
  unfold dropTrailingBlanks at last
  rw [List.getLast?_reverse] at last
  exact startsSolid_skipBlanks text.reverse c last

theorem dropTrailingBlanks_append {text blanks : List Char} (solid : EndsSolid text)
    (blank : AllBlank blanks) : dropTrailingBlanks (text ++ blanks) = text := by
  have turned : StartsSolid text.reverse := by
    intro c head
    rw [List.head?_reverse] at head
    exact solid c head
  have reversed : AllBlank blanks.reverse := fun c member => blank c (List.mem_reverse.mp member)
  have skipped := skipBlanks_append reversed turned
  unfold dropTrailingBlanks
  unfold skipBlanks at skipped
  rw [List.reverse_append, skipped, List.reverse_reverse]

/-- A text is what is left of it after trimming, between blanks. -/
theorem exists_blanks_trim (text : List Char) :
    ∃ lead trail, AllBlank lead ∧ AllBlank trail ∧ text = lead ++ (trim text ++ trail) := by
  obtain ⟨lead, leadBlank, front⟩ := exists_blanks_skipBlanks text
  obtain ⟨trail, trailBlank, back⟩ := exists_blanks_dropTrailingBlanks (skipBlanks text)
  refine ⟨lead, trail, leadBlank, trailBlank, ?_⟩
  unfold trim
  rw [← back]
  exact front

theorem trim_append {lead text trail : List Char} (leadBlank : AllBlank lead)
    (starts : StartsSolid text) (ends : EndsSolid text) (trailBlank : AllBlank trail)
    (nonempty : text ≠ []) : trim (lead ++ (text ++ trail)) = text := by
  unfold trim
  rw [skipBlanks_append leadBlank (starts.append nonempty trail),
    dropTrailingBlanks_append ends trailBlank]

theorem startsSolid_trim (text : List Char) : StartsSolid (trim text) := by
  intro c head
  obtain ⟨blanks, _blank, back⟩ := exists_blanks_dropTrailingBlanks (skipBlanks text)
  apply startsSolid_skipBlanks text c
  unfold trim at head
  rw [back, List.head?_append, head, Option.some_or]

theorem trim_trim (text : List Char) : trim (trim text) = trim text := by
  by_cases empty : trim text = []
  · rw [empty]
    rfl
  · have again := trim_append allBlank_nil (startsSolid_trim text)
      (endsSolid_dropTrailingBlanks (skipBlanks text)) allBlank_nil empty
    rw [List.nil_append, List.append_nil] at again
    exact again

/-- What precedes a character that is not blank is skipped as if it stood alone. -/
theorem skipBlanks_append_cons {c : Char} (notBlank : isBlank c = false) (text rest : List Char) :
    skipBlanks (text ++ c :: rest) = skipBlanks text ++ c :: rest := by
  induction text with
  | nil => exact skipBlanks_of_not_blank notBlank rest
  | cons d further ih =>
      cases blank : isBlank d with
      | true =>
          unfold skipBlanks at ih ⊢
          rw [List.cons_append, List.dropWhile_cons_of_pos blank, List.dropWhile_cons_of_pos blank]
          exact ih
      | false =>
          rw [skipBlanks_of_not_blank blank, List.cons_append, skipBlanks_of_not_blank blank]

theorem dropTrailingBlanks_append_cons {c : Char} (notBlank : isBlank c = false)
    (text rest : List Char) :
    dropTrailingBlanks (text ++ c :: rest) = text ++ c :: dropTrailingBlanks rest := by
  have turned : (text ++ c :: rest).reverse = rest.reverse ++ c :: text.reverse := by
    rw [List.reverse_append, List.reverse_cons, List.append_assoc]
    rfl
  have skipped := skipBlanks_append_cons notBlank rest.reverse text.reverse
  unfold dropTrailingBlanks
  unfold skipBlanks at skipped
  rw [turned, skipped, List.reverse_append, List.reverse_cons, List.reverse_reverse,
    List.append_assoc]
  rfl

/-- Trimming keeps everything from one character that is not blank to another. -/
theorem trim_around {first last : Char} (opens : isBlank first = false)
    (closes : isBlank last = false) (before inner after : List Char) :
    trim (before ++ first :: (inner ++ last :: after)) =
      skipBlanks before ++ first :: (inner ++ last :: dropTrailingBlanks after) := by
  unfold trim
  rw [skipBlanks_append_cons opens, ← List.cons_append, ← List.append_assoc,
    dropTrailingBlanks_append_cons closes, List.append_assoc, List.cons_append]

end Trimming

section Identifiers

theorem IsIdentifier.ne_nil {name : List Char} (identifier : IsIdentifier name) : name ≠ [] := by
  obtain ⟨c, further, rfl, _start, _parts⟩ := identifier
  exact List.cons_ne_nil c further

theorem IsIdentifier.all_parts {name : List Char} (identifier : IsIdentifier name) :
    ∀ c ∈ name, isIdentifierPart c = true := by
  obtain ⟨first, further, rfl, start, parts⟩ := identifier
  exact List.forall_mem_cons.mpr ⟨Bool.or_eq_true_iff.mpr (.inl start), parts⟩

theorem IsIdentifier.startsSolid {name : List Char} (identifier : IsIdentifier name)
    (rest : List Char) : StartsSolid (name ++ rest) := by
  obtain ⟨c, further, rfl, start, _parts⟩ := identifier
  exact startsSolid_cons (isBlank_of_isIdentifierStart start) (further ++ rest)

/-- An identifier is split off whole, where no character that could belong to it follows. -/
theorem identifier?_append {name rest : List Char} (identifier : IsIdentifier name)
    (ends : ∀ c, rest.head? = some c → isIdentifierPart c = false) :
    identifier? (name ++ rest) = some (name, rest) := by
  obtain ⟨c, further, rfl, start, parts⟩ := identifier
  have stops : rest.takeWhile isIdentifierPart = [] ∧ rest.dropWhile isIdentifierPart = rest := by
    cases rest with
    | nil => exact ⟨rfl, rfl⟩
    | cons d later =>
        have outside := ends d rfl
        rw [List.takeWhile_cons, List.dropWhile_cons, outside]
        exact ⟨rfl, rfl⟩
  rw [List.cons_append, identifier?, if_pos start, List.takeWhile_append_of_pos parts,
    List.dropWhile_append_of_pos parts, stops.1, stops.2, List.append_nil]

end Identifiers

end Text
end LoopLesson
