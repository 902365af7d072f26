import LoopLesson.Loop.Items
import LoopLesson.Proofs.Number.ReadBack
import LoopLesson.Proofs.Text.Pieces

/-!
Arrays of shown numbers read back.

An array is written as the texts of its numbers with a comma and a blank between them, in brackets.
The reader finds the brackets in any surroundings that open no other bracket before, cuts what they
enclose at the same commas, and reads every piece as the number that it shows.
-/

namespace LoopLesson

open Text

namespace Text

theorem pieces_of_not_mem {mark : Char} {text : List Char} (unmarked : mark ∉ text) :
    pieces mark text = (text, []) := by
  induction text with
  | nil => rfl
  | cons c rest ih =>
      obtain ⟨different, further⟩ := not_or.mp (mt List.mem_cons.mpr unmarked)
      rw [pieces, ih further]
      exact if_neg (Ne.symm different)

theorem pieces_append_cons {mark : Char} {text : List Char} (unmarked : mark ∉ text)
    (rest : List Char) :
    pieces mark (text ++ mark :: rest) =
      (text, (pieces mark rest).1 :: (pieces mark rest).2) := by
  induction text with
  | nil =>
      rw [List.nil_append, pieces]
      exact if_pos rfl
  | cons c further ih =>
      obtain ⟨different, later⟩ := not_or.mp (mt List.mem_cons.mpr unmarked)
      rw [List.cons_append, pieces, ih later]
      exact if_neg (Ne.symm different)

end Text

/-- What stands between two brackets is found behind a text that opens none. -/
theorem bracketed?_around {before inner : List Char} (unopened : '[' ∉ before)
    (unclosed : ']' ∉ inner) (after : List Char) :
    bracketed? (before ++ '[' :: (inner ++ ']' :: after)) = some inner := by
  have skipped : ∀ c ∈ before, decide (c ≠ '[') = true := by
    intro c member
    apply decide_eq_true
    rintro rfl
    exact unopened member
  have kept : ∀ c ∈ inner, decide (c ≠ ']') = true := by
    intro c member
    apply decide_eq_true
    rintro rfl
    exact unclosed member
  have closes : ']' ∈ inner ++ ']' :: after :=
    List.mem_append_right inner List.mem_cons_self
  unfold bracketed?
  rw [List.dropWhile_append_of_pos skipped, List.dropWhile_cons_of_neg (by decide)]
  dsimp only
  rw [if_pos closes, List.takeWhile_append_of_pos kept, List.takeWhile_cons_of_neg (by decide),
    List.append_nil]

namespace ItemLoop

open Number (Binary64)

/-- How an array of numbers is shown. -/
def arrayText (items : List Binary64) : String :=
  "[" ++ ", ".intercalate (items.map Binary64.text) ++ "]"

def innerText (items : List Binary64) : List Char :=
  [',', ' '].intercalate (items.map fun x => x.text.toList)

/-- A text that stays whole between the commas of an array. -/
structure IsItemText (text : List Char) : Prop where
  nonempty : text ≠ []
  solid : ∀ c ∈ text, isBlank c = false
  unseparated : ',' ∉ text
  unclosed : ']' ∉ text

section Cutting

theorem IsItemText.trim_eq {text : List Char} (item : IsItemText text) {lead : List Char}
    (blank : AllBlank lead) : trim (lead ++ text) = text := by
  have starts : StartsSolid text := fun c head => item.solid c (List.mem_of_mem_head? head)
  have ends : EndsSolid text := fun c last => item.solid c (List.mem_of_getLast? last)
  have trimmed := trim_append blank starts ends allBlank_nil item.nonempty
  rw [List.append_nil] at trimmed
  exact trimmed

theorem pieces_items {text : List Char} {others : List (List Char)}
    (items : ∀ item ∈ text :: others, IsItemText item) :
    pieces ',' ([',', ' '].intercalate (text :: others)) = (text, others.map (' ' :: ·)) := by
  induction others generalizing text with
  | nil =>
      rw [List.intercalate_singleton]
      exact pieces_of_not_mem (items text List.mem_cons_self).unseparated
  | cons next rest ih =>
      have later := ih fun item member => items item (List.mem_cons_of_mem text member)
      -- Every piece but the first starts with the blank that follows its comma.
      have blank : pieces ',' (' ' :: [',', ' '].intercalate (next :: rest)) =
          (' ' :: next, rest.map (' ' :: ·)) := by
        rw [pieces, later]
        rfl
      have cut := pieces_append_cons (items text List.mem_cons_self).unseparated
        (' ' :: [',', ' '].intercalate (next :: rest))
      rw [blank] at cut
      rw [List.intercalate_cons_cons, List.append_assoc]
      exact cut

theorem itemTexts_items {texts : List (List Char)} (items : ∀ text ∈ texts, IsItemText text) :
    itemTexts ([',', ' '].intercalate texts) = texts := by
  cases texts with
  | nil => rfl
  | cons text others =>
      have single : AllBlank [' '] := by
        intro c member
        rw [List.mem_singleton.mp member]
        decide
      have first : trim text = text := (items text List.mem_cons_self).trim_eq allBlank_nil
      have rest : (others.map (' ' :: ·)).map trim = others := by
        rw [List.map_map]
        conv => rhs; rw [← List.map_id others]
        apply List.map_congr_left
        intro item member
        exact (items item (List.mem_cons_of_mem text member)).trim_eq single
      unfold itemTexts
      rw [pieces_items items]
      dsimp only
      rw [List.map_cons, first, rest, List.filter_eq_self]
      intro item member
      exact decide_eq_true (items item member).nonempty

theorem unclosed_items {texts : List (List Char)} (items : ∀ text ∈ texts, IsItemText text) :
    ']' ∉ [',', ' '].intercalate texts := by
  induction texts with
  | nil => exact List.not_mem_nil
  | cons text others ih =>
      have first := (items text List.mem_cons_self).unclosed
      have later := ih fun item member => items item (List.mem_cons_of_mem text member)
      cases others with
      | nil =>
          rw [List.intercalate_singleton]
          exact first
      | cons next rest =>
          rw [List.intercalate_cons_cons]
          intro member
          rcases List.mem_append.mp member with front | further
          · rcases List.mem_append.mp front with inside | between
            · exact first inside
            · exact absurd between (by decide)
          · exact later further

end Cutting

section Showing

theorem isBlank_of_isSpellingChar {c : Char} (spelling : Number.Decimal.isSpellingChar c = true) :
    isBlank c = false := by
  simp only [Number.Decimal.isSpellingChar, Bool.or_eq_true, decide_eq_true_eq] at spelling
  rcases spelling with (((digit | rfl) | rfl) | rfl) | rfl
  · exact isBlank_of_isDigit digit
  · decide
  · decide
  · decide
  · decide

theorem isItemText_text {x : Binary64} (finite : x.isFinite = true) :
    IsItemText x.text.toList where
  nonempty := Binary64.text_toList_ne_nil finite
  solid := fun _ member =>
    isBlank_of_isSpellingChar (Binary64.isSpellingChar_of_mem_text finite member)
  unseparated := fun member =>
    absurd (Binary64.isSpellingChar_of_mem_text finite member) (by decide)
  unclosed := fun member =>
    absurd (Binary64.isSpellingChar_of_mem_text finite member) (by decide)

theorem readItem_text {x : Binary64} (finite : x.isFinite = true) :
    readItem x.text.toList = .ok x.withoutZeroSign := by
  unfold readItem
  rw [Binary64.read?_text finite]
  dsimp only
  rw [Binary64.isFinite_withoutZeroSign, if_pos finite]

theorem mapM_readItem_texts {items : List Binary64} (finite : ∀ x ∈ items, x.isFinite = true) :
    (items.map fun x => x.text.toList).mapM readItem =
      .ok (items.map Binary64.withoutZeroSign) := by
  induction items with
  | nil => rfl
  | cons x rest ih =>
      have later := ih fun y member => finite y (List.mem_cons_of_mem x member)
      rw [List.map_cons, List.mapM_cons, readItem_text (finite x List.mem_cons_self), later]
      rfl

theorem toList_arrayText (items : List Binary64) :
    (arrayText items).toList = '[' :: (innerText items ++ [']']) := by
  unfold arrayText innerText
  rw [String.toList_append, String.toList_append, String.toList_intercalate, List.map_map]
  rfl

variable {items : List Binary64}

theorem isItemText_of_mem_texts (finite : ∀ x ∈ items, x.isFinite = true) :
    ∀ text ∈ items.map fun x => x.text.toList, IsItemText text := by
  intro text member
  obtain ⟨x, listed, rfl⟩ := List.mem_map.mp member
  exact isItemText_text (finite x listed)

theorem itemTexts_innerText (finite : ∀ x ∈ items, x.isFinite = true) :
    itemTexts (innerText items) = items.map fun x => x.text.toList :=
  itemTexts_items (isItemText_of_mem_texts finite)

theorem readItems_around (nonempty : items ≠ []) (finite : ∀ x ∈ items, x.isFinite = true)
    {before : List Char} (unopened : '[' ∉ before) (after : List Char) :
    readItems (before ++ '[' :: (innerText items ++ ']' :: after)) =
      .ok (items.map Binary64.withoutZeroSign) := by
  have unclosed : ']' ∉ innerText items := unclosed_items (isItemText_of_mem_texts finite)
  have present : (items.map fun x => x.text.toList) ≠ [] := mt List.map_eq_nil_iff.mp nonempty
  unfold readItems
  rw [bracketed?_around unopened unclosed]
  dsimp only
  rw [itemTexts_innerText finite, if_neg present, mapM_readItem_texts finite]

theorem withoutZeroSign_eq_of_arrayText_eq {others : List Binary64}
    (finite : ∀ x ∈ items, x.isFinite = true) (othersFinite : ∀ y ∈ others, y.isFinite = true)
    (alike : arrayText others = arrayText items) :
    others.map Binary64.withoutZeroSign = items.map Binary64.withoutZeroSign := by
  have texts := congrArg String.toList alike
  rw [toList_arrayText, toList_arrayText] at texts
  have inner : innerText others = innerText items :=
    List.append_cancel_right (List.cons.inj texts).2
  -- Cutting and reading take back what showing does, item by item.
  have cut := congrArg itemTexts inner
  rw [itemTexts_innerText finite, itemTexts_innerText othersFinite] at cut
  have read := congrArg (List.mapM readItem) cut
  rw [mapM_readItem_texts finite, mapM_readItem_texts othersFinite] at read
  exact Except.ok.inj read

theorem trim_around_arrayText (before after : String) (items : List Binary64) :
    trim (before ++ arrayText items ++ after).toList = skipBlanks before.toList ++
      '[' :: (innerText items ++ ']' :: dropTrailingBlanks after.toList) := by
  have written : (before ++ arrayText items ++ after).toList =
      before.toList ++ '[' :: (innerText items ++ ']' :: after.toList) := by
    rw [String.toList_append, String.toList_append, toList_arrayText, List.append_assoc,
      List.cons_append, List.append_assoc]
    rfl
  rw [written]
  exact trim_around (by decide) (by decide) before.toList (innerText items) after.toList

/-- A start that shows an array, behind any text that opens no bracket and in front of any text, is
read as the items of that array, and only arrays of the same items are shown alike. -/
theorem shown_items_read_back {script : Script} {before after : String} (nonempty : items ≠ [])
    (finite : ∀ x ∈ items, x.isFinite = true) (unopened : '[' ∉ before.toList)
    (shown : script.start = before ++ arrayText items ++ after) :
    (∃ loop, ItemLoop.read script = .ok loop ∧
      loop.items = items.map Binary64.withoutZeroSign) ∧
    ∀ others : List Binary64, (∀ y ∈ others, y.isFinite = true) →
      arrayText others = arrayText items →
      others.map Binary64.withoutZeroSign = items.map Binary64.withoutZeroSign := by
  constructor
  · -- Neither bracket is blank, so trimming only shortens what surrounds the array.
    have trimmed := trim_around_arrayText before after items
    rw [← shown] at trimmed
    have stillUnopened : '[' ∉ skipBlanks before.toList := by
      intro member
      exact unopened ((List.dropWhile_sublist isBlank).mem member)
    have found : readItems script.trimmed.start.toList =
        .ok (items.map Binary64.withoutZeroSign) := by
      unfold Script.trimmed Text.trimmed
      rw [String.toList_ofList, trimmed]
      exact readItems_around nonempty finite stillUnopened _
    refine ⟨⟨items.map Binary64.withoutZeroSign, messageOf script.trimmed.body,
      itemNameOf script.trimmed.condition, script.trimmed⟩, ?_, rfl⟩
    unfold ItemLoop.read
    dsimp only
    rw [found]
    rfl
  · intro others othersFinite alike
    exact withoutZeroSign_eq_of_arrayText_eq finite othersFinite alike

/-- Negative zero, a large number, the smallest one negated and one with seventeen digits. -/
def extremes : List Binary64 :=
  [0x8000000000000000, 0x444B1AE4D6E2EF50, 0x8000000000000001, 0x3FD3333333333334].map
    Binary64.ofBits

def extremesScript : Script :=
  { start := " const found = [0, 1e+21, -5e-324, 0.30000000000000004]; // [7] " }

theorem extremes_read_back :
    extremesScript.start = " const found = " ++ arrayText extremes ++ "; // [7] " ∧
    (∃ loop, ItemLoop.read extremesScript = .ok loop ∧
      loop.items = Binary64.ofBits 0 :: extremes.tail) ∧
    ∀ others : List Binary64, (∀ y ∈ others, y.isFinite = true) →
      arrayText others = arrayText extremes →
      others.map Binary64.withoutZeroSign = Binary64.ofBits 0 :: extremes.tail := by
  have shown : extremesScript.start = " const found = " ++ arrayText extremes ++ "; // [7] " := by
    decide +kernel
  have kept : extremes.map Binary64.withoutZeroSign = Binary64.ofBits 0 :: extremes.tail := by
    decide
  have read := shown_items_read_back (by decide) (by decide) (by decide) shown
  rw [kept] at read
  exact ⟨shown, read⟩

end Showing

end ItemLoop

end LoopLesson
