import Mathlib.Data.List.Forall2
import Mathlib.Data.List.TakeWhile
import LoopLesson.Proofs.Loop.Arrays

/-!
Which start texts hold an array, and what the array holds.

The array stands between the first opening bracket and the first closing bracket after it, and its
items are what stands between the commas, the blank ones left out.  A start is refused for want of
brackets, of items or of numbers, in this order.  Blanks around an item, blank items, whatever
surrounds the brackets and the other parts of the script make no difference.
-/

namespace LoopLesson

open Text

namespace Text

/-- A text cut at its first opening bracket and at the first closing bracket after that. -/
structure CutAtBrackets (text before inner after : List Char) : Prop where
  whole : text = before ++ '[' :: (inner ++ ']' :: after)
  unopened : '[' ∉ before
  unclosed : ']' ∉ inner

section Brackets

/-- What follows some occurrence of a character follows its first occurrence. -/
theorem mem_behind_first {mark c : Char} {before rest earlier later : List Char}
    (same : earlier ++ mark :: later = before ++ mark :: rest) (first : mark ∉ before)
    (member : c ∈ later) : c ∈ rest := by
  rcases List.append_eq_append_iff.mp same with ⟨more, rfl, tail⟩ | ⟨more, rfl, tail⟩
  · cases more with
    | nil =>
        rw [← (List.cons.inj tail).2]
        exact member
    | cons d further =>
        rw [(List.cons.inj tail).1] at first
        exact absurd (List.mem_append_right earlier List.mem_cons_self) first
  · cases more with
    | nil =>
        rw [(List.cons.inj tail).2]
        exact member
    | cons d further =>
        rw [(List.cons.inj tail).2]
        exact List.mem_append_right further (List.mem_cons_of_mem mark member)

theorem exists_cutAtBrackets {text earlier between later : List Char}
    (split : text = earlier ++ '[' :: (between ++ ']' :: later)) :
    ∃ before inner after, CutAtBrackets text before inner after := by
  have opens : '[' ∈ text := by
    rw [split]
    exact List.mem_append_right earlier List.mem_cons_self
  obtain ⟨before, rest, cut, unopened⟩ := List.eq_append_cons_of_mem opens
  have closes : ']' ∈ rest := by
    rw [split] at cut
    exact mem_behind_first cut unopened (List.mem_append_right between List.mem_cons_self)
  obtain ⟨inner, after, rfl, unclosed⟩ := List.eq_append_cons_of_mem closes
  exact ⟨before, inner, after, cut, unopened, unclosed⟩

theorem bracketed?_of_cut {text before inner after : List Char}
    (cut : CutAtBrackets text before inner after) : bracketed? text = some inner := by
  rw [cut.whole]
  exact bracketed?_around cut.unopened cut.unclosed after

theorem bracketed?_of_uncut {text : List Char}
    (uncut : ¬∃ before inner after, text = before ++ '[' :: (inner ++ ']' :: after)) :
    bracketed? text = none := by
  unfold bracketed?
  cases dropped : text.dropWhile (· ≠ '[') with
  | nil => rfl
  | cons c rest =>
      have opens : c = '[' := by
        have stops := List.head?_dropWhile_not (· ≠ '[') text
        rw [dropped] at stops
        simpa using stops
      subst c
      have split : text = text.takeWhile (· ≠ '[') ++ '[' :: rest := by
        rw [← dropped, List.takeWhile_append_dropWhile]
      apply if_neg
      intro closes
      obtain ⟨inner, after, rfl, _unclosed⟩ := List.eq_append_cons_of_mem closes
      exact uncut ⟨_, inner, after, split⟩

end Brackets

section Commas

theorem pieces_eq_splitOn (mark : Char) (text : List Char) :
    (pieces mark text).1 :: (pieces mark text).2 = text.splitOn mark := by
  induction text with
  | nil => rfl
  | cons c rest ih =>
      unfold List.splitOn at ih ⊢
      rw [List.splitOnP_cons_eq_if_modifyHead, ← ih]
      by_cases same : c = mark
      · simp [pieces, same]
      · simp [pieces, same]

/-- A segment holds characters of its text only, and none of the marks. -/
theorem of_mem_splitOn {mark : Char} {text segment : List Char}
    (listed : segment ∈ text.splitOn mark) : ∀ c ∈ segment, c ≠ mark ∧ c ∈ text := by
  rw [← pieces_eq_splitOn] at listed
  induction text generalizing segment with
  | nil =>
      rw [List.mem_singleton.mp listed]
      exact List.forall_mem_nil _
  | cons d rest ih =>
      have further : segment ∈ (pieces mark rest).1 :: (pieces mark rest).2 →
          ∀ c ∈ segment, c ≠ mark ∧ c ∈ d :: rest := fun later c member =>
        ⟨(ih later c member).1, List.mem_cons_of_mem d (ih later c member).2⟩
      by_cases same : d = mark
      · simp only [pieces, same, if_true] at listed
        rcases List.mem_cons.mp listed with rfl | later
        · exact List.forall_mem_nil _
        · exact further later
      · simp only [pieces, same, if_false] at listed
        rcases List.mem_cons.mp listed with rfl | later
        · refine List.forall_mem_cons.mpr ⟨⟨same, List.mem_cons_self⟩, ?_⟩
          intro c member
          have found := ih List.mem_cons_self c member
          exact ⟨found.1, List.mem_cons_of_mem d found.2⟩
        · exact further (List.mem_cons_of_mem _ later)

theorem mem_intercalate_singleton {mark c : Char} {segments : List (List Char)}
    (member : c ∈ [mark].intercalate segments) : c = mark ∨ ∃ segment ∈ segments, c ∈ segment := by
  induction segments with
  | nil => cases member
  | cons segment rest ih =>
      cases rest with
      | nil =>
          rw [List.intercalate_singleton] at member
          exact .inr ⟨segment, List.mem_cons_self, member⟩
      | cons next further =>
          rw [List.intercalate_cons_cons] at member
          simp only [List.mem_append, List.mem_singleton] at member
          rcases member with (inside | between) | later
          · exact .inr ⟨segment, List.mem_cons_self, inside⟩
          · exact .inl between
          · rcases ih later with same | ⟨found, listed, inside⟩
            · exact .inl same
            · exact .inr ⟨found, List.mem_cons_of_mem segment listed, inside⟩

end Commas

section Blanks

theorem AllBlank.append {front back : List Char} (first : AllBlank front) (second : AllBlank back) :
    AllBlank (front ++ back) := by
  intro c member
  rcases List.mem_append.mp member with here | there
  · exact first c here
  · exact second c there

theorem AllBlank.not_mem {blanks : List Char} (blank : AllBlank blanks) {c : Char}
    (solid : isBlank c = false) : c ∉ blanks := by
  intro member
  rw [blank c member] at solid
  cases solid

theorem trim_of_allBlank {blanks : List Char} (blank : AllBlank blanks) : trim blanks = [] := by
  have skipped : skipBlanks blanks = [] := List.dropWhile_eq_nil_iff.mpr blank
  unfold trim
  rw [skipped]
  rfl

theorem trim_between_blanks {lead trail : List Char} (leadBlank : AllBlank lead)
    (trailBlank : AllBlank trail) (text : List Char) :
    trim (lead ++ (text ++ trail)) = trim text := by
  obtain ⟨front, back, frontBlank, backBlank, split⟩ := exists_blanks_trim text
  by_cases empty : trim text = []
  · rw [empty, List.nil_append] at split
    rw [empty, split]
    exact trim_of_allBlank (leadBlank.append ((frontBlank.append backBlank).append trailBlank))
  · have kept := trim_append (leadBlank.append frontBlank) (startsSolid_trim text)
      (endsSolid_dropTrailingBlanks (skipBlanks text)) (backBlank.append trailBlank) empty
    rw [← kept]
    conv => lhs; rw [split]
    simp only [List.append_assoc]

end Blanks

end Text

namespace ItemLoop

open Number (Binary64)

/-- The items among the segments of an array: the segments without their blanks, but for those that
are blank altogether. -/
def presentItems (segments : List (List Char)) : List (List Char) :=
  (segments.map trim).filter (· ≠ [])

/-- A text that reads as a finite number. -/
def IsFiniteNumber (text : List Char) (x : Binary64) : Prop :=
  Binary64.read? text = some x ∧ x.isFinite = true

/-- What the start of a script says about the array that it should hold. -/
inductive ArrayOutcome (start : List Char) : Except LessonFault (List Binary64) → Prop
  | unreadable (uncut : ¬∃ before inner after, start = before ++ '[' :: (inner ++ ']' :: after)) :
      ArrayOutcome start (.error .arrayUnreadable)
  | empty {before inner after : List Char} (cut : CutAtBrackets start before inner after)
      (absent : presentItems (inner.splitOn ',') = []) : ArrayOutcome start (.error .arrayEmpty)
  | notANumber {before inner after item : List Char} (cut : CutAtBrackets start before inner after)
      (listed : item ∈ presentItems (inner.splitOn ',')) (other : ¬∃ x, IsFiniteNumber item x) :
      ArrayOutcome start (.error .itemNotANumber)
  | numbers {before inner after : List Char} {items : List Binary64}
      (cut : CutAtBrackets start before inner after)
      (present : presentItems (inner.splitOn ',') ≠ [])
      (values : List.Forall₂ IsFiniteNumber (presentItems (inner.splitOn ',')) items) :
      ArrayOutcome start (.ok items)

section Items

theorem itemTexts_eq_presentItems (inner : List Char) :
    itemTexts inner = presentItems (inner.splitOn ',') := by
  unfold itemTexts presentItems
  rw [← pieces_eq_splitOn]

theorem readItem_eq_ok_iff {text : List Char} {x : Binary64} :
    readItem text = .ok x ↔ IsFiniteNumber text x := by
  constructor
  · intro read
    unfold readItem at read
    split at read
    · rename_i y reads
      split at read
      · rename_i finite
        cases read
        exact ⟨reads, finite⟩
      · cases read
    · cases read
  · rintro ⟨reads, finite⟩
    unfold readItem
    rw [reads]
    exact if_pos finite

theorem readItem_of_not_number {text : List Char} (other : ¬∃ x, IsFiniteNumber text x) :
    readItem text = .error .itemNotANumber := by
  unfold readItem
  split
  · rename_i x reads
    exact if_neg fun finite => other ⟨x, reads, finite⟩
  · rfl

theorem mapM_readItem_of_forall₂ {texts : List (List Char)} {items : List Binary64}
    (values : List.Forall₂ IsFiniteNumber texts items) : texts.mapM readItem = .ok items := by
  induction values with
  | nil => rfl
  | cons first _rest ih =>
      rw [List.mapM_cons, readItem_eq_ok_iff.mpr first, ih]
      rfl

theorem exists_forall₂_of_numbers {texts : List (List Char)}
    (numbers : ∀ text ∈ texts, ∃ x, IsFiniteNumber text x) :
    ∃ items, List.Forall₂ IsFiniteNumber texts items := by
  induction texts with
  | nil => exact ⟨[], .nil⟩
  | cons text rest ih =>
      obtain ⟨⟨x, first⟩, later⟩ := List.forall_mem_cons.mp numbers
      obtain ⟨items, values⟩ := ih later
      exact ⟨x :: items, .cons first values⟩

/-- One item that is no number is enough, wherever it stands. -/
theorem mapM_readItem_of_not_number {texts : List (List Char)} {text : List Char}
    (listed : text ∈ texts) (other : ¬∃ x, IsFiniteNumber text x) :
    texts.mapM readItem = .error .itemNotANumber := by
  induction texts with
  | nil => cases listed
  | cons first rest ih =>
      rw [List.mapM_cons]
      by_cases number : ∃ x, IsFiniteNumber first x
      · obtain ⟨x, reads⟩ := number
        have later : text ∈ rest := by
          rcases List.mem_cons.mp listed with rfl | later
          · exact absurd ⟨x, reads⟩ other
          · exact later
        rw [readItem_eq_ok_iff.mpr reads, ih later]
        rfl
      · rw [readItem_of_not_number number]
        rfl

end Items

section Outcomes

variable {start : List Char}

theorem readItems_of_uncut
    (uncut : ¬∃ before inner after, start = before ++ '[' :: (inner ++ ']' :: after)) :
    readItems start = .error .arrayUnreadable := by
  unfold readItems
  rw [bracketed?_of_uncut uncut]

theorem readItems_of_cut {before inner after : List Char}
    (cut : CutAtBrackets start before inner after) :
    readItems start =
      if presentItems (inner.splitOn ',') = [] then .error .arrayEmpty
      else (presentItems (inner.splitOn ',')).mapM readItem := by
  unfold readItems
  rw [bracketed?_of_cut cut, ← itemTexts_eq_presentItems]

theorem ArrayOutcome.readItems_eq {result : Except LessonFault (List Binary64)}
    (outcome : ArrayOutcome start result) : readItems start = result := by
  cases outcome with
  | unreadable uncut => exact readItems_of_uncut uncut
  | empty cut absent => rw [readItems_of_cut cut, if_pos absent]
  | notANumber cut listed other =>
      rw [readItems_of_cut cut, if_neg (List.ne_nil_of_mem listed),
        mapM_readItem_of_not_number listed other]
  | numbers cut present values =>
      rw [readItems_of_cut cut, if_neg present, mapM_readItem_of_forall₂ values]

theorem exists_arrayOutcome (start : List Char) : ∃ result, ArrayOutcome start result := by
  by_cases brackets : ∃ before inner after, start = before ++ '[' :: (inner ++ ']' :: after)
  case neg => exact ⟨_, .unreadable brackets⟩
  obtain ⟨_, _, _, split⟩ := brackets
  obtain ⟨before, inner, after, cut⟩ := exists_cutAtBrackets split
  by_cases absent : presentItems (inner.splitOn ',') = []
  case pos => exact ⟨_, .empty cut absent⟩
  by_cases numbers : ∀ item ∈ presentItems (inner.splitOn ','), ∃ x, IsFiniteNumber item x
  · obtain ⟨items, values⟩ := exists_forall₂_of_numbers numbers
    exact ⟨_, .numbers cut absent values⟩
  · simp only [not_forall] at numbers
    obtain ⟨item, listed, other⟩ := numbers
    exact ⟨_, .notANumber cut listed other⟩

theorem readItems_eq_iff_outcome {result : Except LessonFault (List Binary64)} :
    readItems start = result ↔ ArrayOutcome start result := by
  constructor
  · intro answered
    obtain ⟨described, outcome⟩ := exists_arrayOutcome start
    rw [← answered, outcome.readItems_eq]
    exact outcome
  · exact ArrayOutcome.readItems_eq

theorem map_items_read (script : Script) :
    (read script).map ItemLoop.items = readItems (trim script.start.toList) := by
  have trimmed : script.trimmed.start.toList = trim script.start.toList := String.toList_ofList
  unfold read
  dsimp only
  rw [trimmed]
  cases readItems (trim script.start.toList) <;> rfl

end Outcomes

/-- Segments with blanks added around some of them, and blank segments inserted between them. -/
inductive Padded : List (List Char) → List (List Char) → Prop
  | done : Padded [] []
  | widened {lead segment trail : List Char} {segments padded : List (List Char)}
      (leadBlank : AllBlank lead) (trailBlank : AllBlank trail) (rest : Padded segments padded) :
      Padded (segment :: segments) ((lead ++ (segment ++ trail)) :: padded)
  | inserted {blanks : List Char} {segments padded : List (List Char)}
      (blank : AllBlank blanks) (rest : Padded segments padded) :
      Padded segments (blanks :: padded)

namespace Padded

variable {segments padded : List (List Char)}

theorem presentItems_eq (padding : Padded segments padded) :
    presentItems padded = presentItems segments := by
  unfold presentItems
  induction padding with
  | done => rfl
  | widened leadBlank trailBlank _rest ih =>
      rw [List.map_cons, List.map_cons, trim_between_blanks leadBlank trailBlank, List.filter_cons,
        List.filter_cons, ih]
  | inserted blank _rest ih =>
      rw [List.map_cons, trim_of_allBlank blank, List.filter_cons_of_neg (by simp), ih]

theorem ne_nil (padding : Padded segments padded) (nonempty : segments ≠ []) : padded ≠ [] := by
  cases padding with
  | done => exact nonempty
  | widened => exact List.cons_ne_nil _ _
  | inserted => exact List.cons_ne_nil _ _

theorem not_mem (padding : Padded segments padded) {c : Char} (solid : isBlank c = false)
    (absent : ∀ segment ∈ segments, c ∉ segment) : ∀ segment ∈ padded, c ∉ segment := by
  induction padding with
  | done => exact absent
  | widened leadBlank trailBlank _rest ih =>
      obtain ⟨first, later⟩ := List.forall_mem_cons.mp absent
      refine List.forall_mem_cons.mpr ⟨?_, ih later⟩
      simp only [List.mem_append, not_or]
      exact ⟨leadBlank.not_mem solid, first, trailBlank.not_mem solid⟩
  | inserted blank _rest ih =>
      exact List.forall_mem_cons.mpr ⟨blank.not_mem solid, ih absent⟩

end Padded

section Surroundings

variable {text before inner after : List Char}

/-- Trimming does not reach into the brackets. -/
theorem cutAtBrackets_trim (cut : CutAtBrackets text before inner after) :
    CutAtBrackets (trim text) (skipBlanks before) inner (dropTrailingBlanks after) where
  whole := by
    rw [cut.whole]
    exact trim_around (by decide) (by decide) before inner after
  unopened := fun member => cut.unopened ((List.dropWhile_sublist isBlank).mem member)
  unclosed := cut.unclosed

/-- Brackets that are not closed behind the first one stay so under trimming. -/
theorem trim_uncut {rest : List Char} (whole : text = before ++ '[' :: rest)
    (unopened : '[' ∉ before) (unclosed : ']' ∉ rest) :
    ¬∃ before inner after, trim text = before ++ '[' :: (inner ++ ']' :: after) := by
  rintro ⟨earlier, between, later, brackets⟩
  obtain ⟨lead, trail, _leadBlank, _trailBlank, split⟩ := exists_blanks_trim text
  have same : (lead ++ earlier) ++ '[' :: (between ++ ']' :: (later ++ trail)) =
      before ++ '[' :: rest := by
    rw [← whole, split, brackets]
    simp only [List.append_assoc, List.cons_append]
  exact unclosed (mem_behind_first same unopened (by simp))

theorem readItems_trim_eq_of_items {other front between back : List Char}
    (cut : CutAtBrackets text before inner after) (alike : CutAtBrackets other front between back)
    (items : presentItems (between.splitOn ',') = presentItems (inner.splitOn ',')) :
    readItems (trim other) = readItems (trim text) := by
  rw [readItems_of_cut (cutAtBrackets_trim cut), readItems_of_cut (cutAtBrackets_trim alike), items]

theorem readItems_trim_eq_of_front {other front rest : List Char}
    (whole : text = before ++ '[' :: rest) (unopened : '[' ∉ before)
    (written : other = front ++ '[' :: rest) (stillUnopened : '[' ∉ front) :
    readItems (trim other) = readItems (trim text) := by
  by_cases closes : ']' ∈ rest
  · obtain ⟨inner, after, rfl, unclosed⟩ := List.eq_append_cons_of_mem closes
    exact readItems_trim_eq_of_items ⟨whole, unopened, unclosed⟩
      ⟨written, stillUnopened, unclosed⟩ rfl
  · rw [readItems_of_uncut (trim_uncut whole unopened closes),
      readItems_of_uncut (trim_uncut written stillUnopened closes)]

theorem cutAtBrackets_padded (cut : CutAtBrackets text before inner after)
    {padded : List (List Char)} (padding : Padded (inner.splitOn ',') padded) {front : List Char}
    (unopened : '[' ∉ front) (back : List Char) :
    CutAtBrackets (front ++ '[' :: ([','].intercalate padded ++ ']' :: back)) front
      ([','].intercalate padded) back where
  whole := rfl
  unopened := unopened
  unclosed := by
    intro closes
    have clean : ∀ segment ∈ inner.splitOn ',', ']' ∉ segment := fun segment listed member =>
      cut.unclosed (of_mem_splitOn listed ']' member).2
    rcases mem_intercalate_singleton closes with same | ⟨segment, listed, member⟩
    · cases same
    · exact padding.not_mem (by decide) clean segment listed member

theorem splitOn_padded {padded : List (List Char)} (padding : Padded (inner.splitOn ',') padded) :
    ([','].intercalate padded).splitOn ',' = padded := by
  apply List.splitOn_intercalate
  · exact padding.not_mem (by decide) fun _segment listed member =>
      (of_mem_splitOn listed ',' member).1 rfl
  · exact padding.ne_nil (List.splitOn_ne_nil ',' inner)

end Surroundings

/-- The start of a script decides what becomes of it.  Reading answers the items of its array, in
their order, or the first fault of the three; and the answer stays the same when blanks or blank
items are added inside the brackets, when the text around them is replaced by one that opens no
bracket before, also where the bracket is not closed, and when the other parts of the script are. -/
theorem read_classifies_start (script : Script) :
    (∀ result, (read script).map ItemLoop.items = result ↔
      ArrayOutcome (trim script.start.toList) result) ∧
    (∀ (other : Script) (before inner after front back : List Char) (padded : List (List Char)),
      CutAtBrackets script.start.toList before inner after →
      Padded (inner.splitOn ',') padded → '[' ∉ front →
      other.start.toList = front ++ '[' :: ([','].intercalate padded ++ ']' :: back) →
      (read other).map ItemLoop.items = (read script).map ItemLoop.items) ∧
    (∀ (other : Script) (before rest front : List Char),
      script.start.toList = before ++ '[' :: rest → '[' ∉ before →
      other.start.toList = front ++ '[' :: rest → '[' ∉ front →
      (read other).map ItemLoop.items = (read script).map ItemLoop.items) ∧
    ∀ condition step body : String,
      (read { script with condition, step, body }).map ItemLoop.items =
        (read script).map ItemLoop.items := by
  refine ⟨?_, ?_, ?_, ?_⟩
  · intro result
    rw [map_items_read]
    exact readItems_eq_iff_outcome
  · intro other before inner after front back padded cut padding unopened written
    have alike := cutAtBrackets_padded cut padding unopened back
    rw [← written] at alike
    rw [map_items_read, map_items_read]
    apply readItems_trim_eq_of_items cut alike
    rw [splitOn_padded padding, padding.presentItems_eq]
  · intro other before rest front whole unopened written stillUnopened
    rw [map_items_read, map_items_read]
    exact readItems_trim_eq_of_front whole unopened written stillUnopened
  · intro condition step body
    rw [map_items_read, map_items_read]

/-- Blank items, blanks around the items and other texts around the brackets change nothing, and
neither do brackets that come too late. -/
theorem padded_array_reads_alike :
    ∃ (script other : Script) (items : List Binary64),
      script.start = "const xs = [1.5, -2]; // [9]" ∧ other.start = "] = [ , 1.5\t,, -2]" ∧
      items = [.ofBits 0x3FF8000000000000, .ofBits 0xC000000000000000] ∧
      ArrayOutcome (trim script.start.toList) (.ok items) ∧
      (read other).map ItemLoop.items = .ok items := by
  let script : Script := { start := "const xs = [1.5, -2]; // [9]" }
  let other : Script := { start := "] = [ , 1.5\t,, -2]", step := "i++" }
  let items : List Binary64 := [.ofBits 0x3FF8000000000000, .ofBits 0xC000000000000000]
  have cut : CutAtBrackets script.start.toList "const xs = ".toList "1.5, -2".toList
      "; // [9]".toList := ⟨by decide, by decide, by decide⟩
  have padding : Padded ("1.5, -2".toList.splitOn ',')
      [" ".toList, " 1.5\t".toList, [], " -2".toList] := by
    have space : AllBlank " ".toList := List.all_eq_true.mp (by decide)
    have tab : AllBlank "\t".toList := List.all_eq_true.mp (by decide)
    have last : Padded [" -2".toList] [" -2".toList] :=
      @Padded.widened [] " -2".toList [] _ _ allBlank_nil allBlank_nil .done
    exact .inserted space
      (@Padded.widened " ".toList "1.5".toList "\t".toList _ _ space tab
        (.inserted allBlank_nil last))
  have readable : (read script).map ItemLoop.items = .ok items := by decide +kernel
  obtain ⟨outcomes, alike, _fronts, _parts⟩ := read_classifies_start script
  refine ⟨script, other, items, rfl, rfl, rfl, (outcomes _).mp readable, ?_⟩
  rw [← readable]
  exact alike other _ _ _ "] = ".toList [] _ cut padding (by decide) (by decide)

end ItemLoop
end LoopLesson
