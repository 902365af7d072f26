import LoopLesson.Statement.Arguments

/-!
Texts that keep together when a list of arguments is split at its commas.

A comma separates two arguments where nothing is open.  A text is a segment of its own when it holds
no such comma and leaves nothing open, and segments that are joined with commas are split there
again, whatever stands in their quoted texts.
-/

namespace LoopLesson

open Text

namespace ScanState

/-- A text without a comma at which nothing is open, read from a state on. -/
def Unseparated (state : ScanState) (text : List Char) : Prop :=
  ∀ before after, text = before ++ ',' :: after → state.scan before ≠ neutral

theorem unseparated_nil (state : ScanState) : state.Unseparated [] := by
  intro before after split
  cases before <;> cases split

theorem unseparated_cons {state : ScanState} {c : Char} {rest : List Char} :
    state.Unseparated (c :: rest) ↔
      ¬(state = neutral ∧ c = ',') ∧ (state.next c).Unseparated rest := by
  constructor
  · intro unseparated
    constructor
    · rintro ⟨rfl, rfl⟩
      exact unseparated [] rest rfl rfl
    · intro before after split
      exact unseparated (c :: before) after (congrArg (List.cons c) split)
  · rintro ⟨first, later⟩ before after split
    cases before with
    | nil =>
        obtain ⟨rfl, rfl⟩ := List.cons.inj split
        exact fun nothingOpen => first ⟨nothingOpen, rfl⟩
    | cons d before =>
        obtain ⟨rfl, rest⟩ := List.cons.inj split
        exact later before after rest

theorem unseparated_append {state : ScanState} {left right : List Char} :
    state.Unseparated (left ++ right) ↔
      state.Unseparated left ∧ (state.scan left).Unseparated right := by
  induction left generalizing state with
  | nil => exact ⟨fun whole => ⟨unseparated_nil state, whole⟩, fun both => both.2⟩
  | cons c left ih =>
      rw [List.cons_append, unseparated_cons, unseparated_cons, ih, scan_cons, and_assoc]

end ScanState

open ScanState

/-- A text that holds no separating comma and leaves nothing open. -/
structure IsSegment (text : List Char) : Prop where
  unseparated : neutral.Unseparated text
  neutral : neutral.scan text = neutral

theorem isSegment_nil : IsSegment [] := ⟨unseparated_nil _, rfl⟩

theorem IsSegment.append {left right : List Char} (leftSegment : IsSegment left)
    (rightSegment : IsSegment right) : IsSegment (left ++ right) where
  unseparated := by
    rw [unseparated_append, leftSegment.neutral]
    exact ⟨leftSegment.unseparated, rightSegment.unseparated⟩
  neutral := by rw [scan_append, leftSegment.neutral, rightSegment.neutral]

section Segments

/-- A character that opens, closes and separates nothing. -/
structure IsPlain (c : Char) : Prop where
  unquoted : isQuote c = false
  ne_open : c ≠ '('
  ne_close : c ≠ ')'
  ne_comma : c ≠ ','

theorem IsPlain.next_neutral {c : Char} (plain : IsPlain c) : neutral.next c = neutral := by
  simp only [ScanState.next, ScanState.neutral, plain.unquoted, plain.ne_open, plain.ne_close]
  rfl

theorem isSegment_of_plain {text : List Char} (plain : ∀ c ∈ text, IsPlain c) : IsSegment text := by
  induction text with
  | nil => exact isSegment_nil
  | cons c rest ih =>
      have first := plain c List.mem_cons_self
      have later := ih fun d member => plain d (List.mem_cons_of_mem c member)
      constructor
      · rw [unseparated_cons, first.next_neutral]
        exact ⟨fun comma => first.ne_comma comma.2, later.unseparated⟩
      · rw [scan_cons, first.next_neutral, later.neutral]

/-- Inside a quoted text nothing changes until the quotation mark comes back. -/
theorem inside_quotes {quote : Char} {inner : List Char} (unclosed : quote ∉ inner) :
    ScanState.Unseparated ⟨0, some quote⟩ inner ∧
      ScanState.scan ⟨0, some quote⟩ inner = ⟨0, some quote⟩ := by
  induction inner with
  | nil => exact ⟨unseparated_nil _, rfl⟩
  | cons c rest ih =>
      obtain ⟨different, unclosedRest⟩ := not_or.mp (mt List.mem_cons.mpr unclosed)
      have stays : ScanState.next ⟨0, some quote⟩ c = ⟨0, some quote⟩ := if_neg (Ne.symm different)
      obtain ⟨unseparated, same⟩ := ih unclosedRest
      rw [unseparated_cons, scan_cons, stays]
      have notNeutral : (⟨0, some quote⟩ : ScanState) ≠ ScanState.neutral := nofun
      exact ⟨⟨fun comma => notNeutral comma.1, unseparated⟩, same⟩

theorem isSegment_quoted {quote : Char} (isQuote : isQuote quote = true) {inner : List Char}
    (unclosed : quote ∉ inner) : IsSegment (quote :: (inner ++ [quote])) := by
  have opens : neutral.next quote = ⟨0, some quote⟩ := if_pos isQuote
  have closes : ScanState.next ⟨0, some quote⟩ quote = ScanState.neutral := if_pos rfl
  obtain ⟨unseparated, stays⟩ := inside_quotes unclosed
  have notComma : quote ≠ ',' := by
    rintro rfl
    exact absurd isQuote (by decide)
  constructor
  · rw [unseparated_cons, opens, unseparated_append, stays, unseparated_cons]
    refine ⟨fun comma => notComma comma.2, unseparated, fun comma => notComma comma.2, ?_⟩
    exact unseparated_nil _
  · rw [scan_cons, opens, scan_append, stays, scan_cons, closes, scan_nil]

end Segments

section Splitting

theorem segments_cons_of_comma (rest : List Char) :
    segments neutral (',' :: rest) =
      ([], (segments neutral rest).1 :: (segments neutral rest).2) := by
  rw [segments, if_pos ⟨rfl, rfl⟩]

theorem segments_cons_of_not_comma {state : ScanState} {c : Char}
    (notHere : ¬(state = neutral ∧ c = ',')) (rest : List Char) :
    segments state (c :: rest) =
      (c :: (segments (state.next c) rest).1, (segments (state.next c) rest).2) := by
  rw [segments, if_neg notHere]

theorem segments_of_unseparated {state : ScanState} {text : List Char}
    (unseparated : state.Unseparated text) : segments state text = (text, []) := by
  induction text generalizing state with
  | nil => rfl
  | cons c rest ih =>
      obtain ⟨notHere, later⟩ := unseparated_cons.mp unseparated
      rw [segments_cons_of_not_comma notHere, ih later]

/-- A comma separates where the text before it leaves nothing open, whatever commas that text holds
itself. -/
theorem segments_append_of_closed {state : ScanState} {left : List Char}
    (closed : state.scan left = neutral) (right : List Char) :
    segments state (left ++ ',' :: right) =
      ((segments state left).1,
        (segments state left).2 ++ (segments neutral right).1 :: (segments neutral right).2) := by
  induction left generalizing state with
  | nil =>
      subst closed
      exact segments_cons_of_comma right
  | cons c left ih =>
      by_cases here : state = neutral ∧ c = ','
      · obtain ⟨rfl, rfl⟩ := here
        have kept : neutral.scan left = neutral := closed
        rw [List.cons_append, segments_cons_of_comma, segments_cons_of_comma, ih kept]
        rfl
      · rw [List.cons_append, segments_cons_of_not_comma here, segments_cons_of_not_comma here,
          ih closed]

/-- Texts that can be told apart after they are joined with commas: none holds a separating comma,
and all but the last leave nothing open. -/
structure Segmented (parts : List (List Char)) : Prop where
  nonempty : parts ≠ []
  closed : ∀ part ∈ parts.dropLast, ScanState.neutral.scan part = ScanState.neutral
  unseparated : ∀ part ∈ parts, ScanState.neutral.Unseparated part

theorem segmented_singleton {part : List Char} (unseparated : neutral.Unseparated part) :
    Segmented [part] where
  nonempty := List.cons_ne_nil part []
  closed := nofun
  unseparated := by
    intro other member
    rw [List.mem_singleton.mp member]
    exact unseparated

theorem segmented_cons_cons {part next : List Char} {further : List (List Char)} :
    Segmented (part :: next :: further) ↔ IsSegment part ∧ Segmented (next :: further) := by
  constructor
  · rintro ⟨_nonempty, closed, unseparated⟩
    rw [List.dropLast_cons_cons] at closed
    refine ⟨⟨unseparated part List.mem_cons_self, closed part List.mem_cons_self⟩,
      List.cons_ne_nil next further, ?_, ?_⟩
    · exact fun other member => closed other (List.mem_cons_of_mem part member)
    · exact fun other member => unseparated other (List.mem_cons_of_mem part member)
  · rintro ⟨first, later⟩
    refine ⟨List.cons_ne_nil part _, ?_, ?_⟩
    · rw [List.dropLast_cons_cons]
      exact List.forall_mem_cons.mpr ⟨first.neutral, later.closed⟩
    · exact List.forall_mem_cons.mpr ⟨first.unseparated, later.unseparated⟩

/-- Texts that can be told apart are found again between the commas that join them. -/
theorem Segmented.segments_intercalate {part : List Char} {further : List (List Char)}
    (segmented : Segmented (part :: further)) :
    segments neutral ([','].intercalate (part :: further)) = (part, further) := by
  induction further generalizing part with
  | nil =>
      rw [List.intercalate_singleton]
      exact segments_of_unseparated (segmented.unseparated part List.mem_cons_self)
  | cons next further ih =>
      obtain ⟨first, later⟩ := segmented_cons_cons.mp segmented
      rw [List.intercalate_cons_cons, List.append_assoc, List.singleton_append,
        segments_append_of_closed first.neutral, segments_of_unseparated first.unseparated,
        ih later]
      rfl

theorem Segmented.splitArguments_intercalate {parts : List (List Char)}
    (segmented : Segmented parts) : splitArguments ([','].intercalate parts) = parts.map trim := by
  cases parts with
  | nil => exact absurd rfl segmented.nonempty
  | cons part further =>
      unfold splitArguments
      rw [segmented.segments_intercalate]

/-- Segments that are joined with commas are split there again. -/
theorem splitArguments_intercalate {texts : List (List Char)} (nonempty : texts ≠ [])
    (each : ∀ text ∈ texts, IsSegment text) :
    splitArguments ([','].intercalate texts) = texts.map trim := by
  have segmented : Segmented texts :=
    { nonempty
      closed := fun text member => (each text (List.dropLast_subset texts member)).neutral
      unseparated := fun text member => (each text member).unseparated }
  exact segmented.splitArguments_intercalate

end Splitting

end LoopLesson
