import LoopLesson.Proofs.Statement.Splitting
import Mathlib.Logic.ExistsUnique

/-!
Splitting a list of arguments loses and invents nothing.

Every text is joined in exactly one way from parts that can be told apart, and these parts, trimmed,
are the arguments into which it is split.  So splitting undoes joining, and a text that leaves
nothing open is split apart from what follows the comma behind it.
-/

namespace LoopLesson

open Text ScanState

section Segments

theorem intercalate_segments (state : ScanState) (text : List Char) :
    [','].intercalate ((segments state text).1 :: (segments state text).2) = text := by
  induction text generalizing state with
  | nil => rfl
  | cons c rest ih =>
      by_cases here : state = neutral ∧ c = ','
      · obtain ⟨rfl, rfl⟩ := here
        rw [segments_cons_of_comma, List.intercalate_cons_cons, ih]
        rfl
      · rw [segments_cons_of_not_comma here]
        dsimp only
        have later := ih (state.next c)
        cases others : (segments (state.next c) rest).2 with
        | nil =>
            rw [others, List.intercalate_singleton] at later
            rw [List.intercalate_singleton, later]
        | cons next further =>
            rw [others, List.intercalate_cons_cons] at later
            rw [List.intercalate_cons_cons, List.cons_append, List.cons_append, later]

theorem segmented_cons {part : List Char} {others : List (List Char)}
    (unseparated : neutral.Unseparated part)
    (later : others ≠ [] → neutral.scan part = neutral ∧ Segmented others) :
    Segmented (part :: others) := by
  cases others with
  | nil => exact segmented_singleton unseparated
  | cons next further =>
      obtain ⟨closed, segmented⟩ := later (List.cons_ne_nil next further)
      exact segmented_cons_cons.mpr ⟨⟨unseparated, closed⟩, segmented⟩

/-- The first segment is read from the state at its beginning, and every later one from the comma
before it, where nothing is open. -/
theorem segments_spec (state : ScanState) (text : List Char) :
    state.Unseparated (segments state text).1 ∧
      ((segments state text).2 ≠ [] →
        state.scan (segments state text).1 = neutral ∧ Segmented (segments state text).2) := by
  induction text generalizing state with
  | nil => exact ⟨unseparated_nil state, fun others => absurd rfl others⟩
  | cons c rest ih =>
      by_cases here : state = neutral ∧ c = ','
      · obtain ⟨rfl, rfl⟩ := here
        obtain ⟨unseparated, later⟩ := ih neutral
        rw [segments_cons_of_comma]
        exact ⟨unseparated_nil neutral, fun _ => ⟨rfl, segmented_cons unseparated later⟩⟩
      · obtain ⟨unseparated, later⟩ := ih (state.next c)
        rw [segments_cons_of_not_comma here]
        exact ⟨unseparated_cons.mpr ⟨here, unseparated⟩, later⟩

theorem unseparated_iff_segments {state : ScanState} {text : List Char} :
    state.Unseparated text ↔ segments state text = (text, []) := by
  constructor
  · exact segments_of_unseparated
  · intro whole
    have unseparated := (segments_spec state text).1
    rwa [whole] at unseparated

instance (state : ScanState) (text : List Char) : Decidable (state.Unseparated text) :=
  decidable_of_iff (segments state text = (text, [])) unseparated_iff_segments.symm

theorem segmented_segments (text : List Char) :
    Segmented ((segments neutral text).1 :: (segments neutral text).2) :=
  segmented_cons (segments_spec neutral text).1 (segments_spec neutral text).2

end Segments

section Spacing

theorem isSegment_space : IsSegment [' '] :=
  isSegment_of_plain fun c member => by
    rw [List.mem_singleton.mp member]
    exact ⟨by decide, by decide, by decide, by decide⟩

theorem unseparated_space_cons {text : List Char} (unseparated : neutral.Unseparated text) :
    neutral.Unseparated (' ' :: text) :=
  unseparated_append.mpr ⟨isSegment_space.unseparated, unseparated⟩

theorem trim_space_cons (text : List Char) : trim (' ' :: text) = trim text := by
  unfold trim skipBlanks
  rw [List.dropWhile_cons_of_pos (by decide)]

/-- A blank in front of a part belongs to it. -/
theorem Segmented.map_space {parts : List (List Char)} (segmented : Segmented parts) :
    Segmented (parts.map (' ' :: ·)) where
  nonempty := mt List.map_eq_nil_iff.mp segmented.nonempty
  closed := by
    rw [← List.map_dropLast]
    intro part member
    obtain ⟨text, listed, rfl⟩ := List.mem_map.mp member
    exact segmented.closed text listed
  unseparated := by
    intro part member
    obtain ⟨text, listed, rfl⟩ := List.mem_map.mp member
    exact unseparated_space_cons (segmented.unseparated text listed)

theorem intercalate_comma_space (part : List Char) (further : List (List Char)) :
    [',', ' '].intercalate (part :: further) =
      [','].intercalate (part :: further.map (' ' :: ·)) := by
  induction further generalizing part with
  | nil => rfl
  | cons next further ih =>
      rw [List.intercalate_cons_cons, ih next, List.map_cons, List.intercalate_cons_cons]
      cases further with
      | nil => simp
      | cons other more => simp [List.intercalate_cons_cons]

theorem Segmented.splitArguments_comma_space {tokens : List (List Char)}
    (segmented : Segmented tokens) (trimmed : ∀ token ∈ tokens, trim token = token) :
    splitArguments ([',', ' '].intercalate tokens) = tokens := by
  cases tokens with
  | nil => exact absurd rfl segmented.nonempty
  | cons token further =>
      have spaced : Segmented (token :: further.map (' ' :: ·)) := by
        cases further with
        | nil => exact segmented
        | cons next more =>
            obtain ⟨first, later⟩ := segmented_cons_cons.mp segmented
            exact segmented_cons_cons.mpr ⟨first, later.map_space⟩
      have kept : ∀ other ∈ further, (trim ∘ (' ' :: ·)) other = id other := by
        intro other member
        exact (trim_space_cons other).trans (trimmed other (List.mem_cons_of_mem token member))
      rw [intercalate_comma_space, spaced.splitArguments_intercalate, List.map_cons, List.map_map,
        trimmed token List.mem_cons_self, List.map_congr_left kept, List.map_id]

end Spacing

theorem splitArguments_append_of_closed {left : List Char} (closed : neutral.scan left = neutral)
    (right : List Char) :
    splitArguments (left ++ ',' :: right) = splitArguments left ++ splitArguments right := by
  unfold splitArguments
  rw [segments_append_of_closed closed, ← List.map_append, List.cons_append]

/-- A text is joined from exactly one list of parts that can be told apart, and it is split into
these parts, trimmed.  Trimmed tokens that can be told apart are split as they were joined, and
where nothing is left open before a comma, the two sides are split apart. -/
theorem splitArguments_undoes_joining :
    (∀ text, ∃! parts, Segmented parts ∧ [','].intercalate parts = text) ∧
    (∀ parts, Segmented parts → splitArguments ([','].intercalate parts) = parts.map trim) ∧
    (∀ tokens, Segmented tokens → (∀ token ∈ tokens, trim token = token) →
      splitArguments ([',', ' '].intercalate tokens) = tokens) ∧
    ∀ left right, neutral.scan left = neutral →
      splitArguments (left ++ ',' :: right) = splitArguments left ++ splitArguments right := by
  refine ⟨?_, ?_, ?_, ?_⟩
  · intro text
    refine ⟨(segments neutral text).1 :: (segments neutral text).2,
      ⟨segmented_segments text, intercalate_segments neutral text⟩, ?_⟩
    rintro parts ⟨segmented, rfl⟩
    cases parts with
    | nil => exact absurd rfl segmented.nonempty
    | cons part further => rw [segmented.segments_intercalate]
  · intro parts segmented
    exact segmented.splitArguments_intercalate
  · intro tokens segmented trimmed
    exact segmented.splitArguments_comma_space trimmed
  · intro left right closed
    exact splitArguments_append_of_closed closed right

/-- A call with a comma of its own, a quoted comma, nothing, and a text that is never closed. -/
def manyArguments : List (List Char) :=
  ["max(i, 2)".toList, "a) ','".toList, [], "(\"b, c".toList]

theorem manyArguments_split :
    Segmented manyArguments ∧
      splitArguments "max(i, 2), a) ',', , (\"b, c".toList = manyArguments := by
  have segmented : Segmented manyArguments :=
    { nonempty := by decide
      closed := by decide
      unseparated := by decide }
  have joined : [',', ' '].intercalate manyArguments = "max(i, 2), a) ',', , (\"b, c".toList := by
    decide +kernel
  rw [← joined]
  exact ⟨segmented, splitArguments_undoes_joining.2.2.1 manyArguments segmented (by decide +kernel)⟩

end LoopLesson
