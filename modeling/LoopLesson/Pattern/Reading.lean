import LoopLesson.Pattern.Quoted

/-!
How the signs of a pattern are read, one after the other.

Every sign takes the reader of patterns from where it stands to where it has the part that the sign
stands for.  What comes after the sign matters only where it could be a question mark or a brace.
-/

namespace LoopLesson
namespace Pattern
namespace Reader

/-- A reader at a place with the parts since another place, the latest first. -/
def standing (start : Nat) (parts : List Pattern) (frames : List Frame) (offset : Nat)
    (text : List Char) : Reader :=
  { cursor := { offset, text }, sequence := { start, parts }, frames }

/-- After so many steps, reading on from one reader is reading on from another one. -/
def Leads (count : Nat) (before after : Reader) : Prop :=
  ∀ steps, readAll (steps + count) before = readAll steps after

theorem Leads.zero (reader : Reader) : Leads 0 reader reader := fun _ => rfl

theorem Leads.trans {sooner later : Nat} {first second third : Reader}
    (leads : Leads sooner first second) (leadsOn : Leads later second third) :
    Leads (later + sooner) first third := by
  intro steps
  rw [← Nat.add_assoc, leads, leadsOn]

variable {start offset : Nat} {parts : List Pattern} {frames : List Frame} {rest : List Char}

theorem leads_of_part {c : Char} {after : Reader}
    (read : (standing start parts frames offset (c :: rest)).part c = .ok after) :
    Leads 1 (standing start parts frames offset (c :: rest)) after :=
  fun steps => congrArg (·.bind (readAll steps)) read

theorem readAll_at_end (steps : Nat) :
    readAll steps (standing start parts frames offset []) =
      (standing start parts frames offset []).finish := by
  cases steps with
  | zero => rfl
  | succ steps => rfl

section Signs

theorem leads_literal {c : Char} (plain : isMeta c = false) :
    Leads 1 (standing start parts frames offset (c :: rest))
      (standing start
        (.primitive (.literal ⟨⟨offset, offset + 1⟩, c, false⟩) :: parts)
        frames (offset + 1) rest) := by
  apply leads_of_part
  simp only [isMeta, List.contains_eq_mem, decide_eq_false_iff_not] at plain
  simp at plain
  simp [part, single, standing, push, Sequence.push, Cursor.advance, Cursor.charSpan, plain]

/-- A dash has a meaning of its own between brackets only. -/
theorem leads_dash :
    Leads 1 (standing start parts frames offset ('-' :: rest))
      (standing start
        (.primitive (.literal ⟨⟨offset, offset + 1⟩, '-', false⟩) :: parts)
        frames (offset + 1) rest) :=
  leads_of_part rfl

theorem leads_start :
    Leads 1 (standing start parts frames offset ('^' :: rest))
      (standing start (.primitive (.assertion ⟨offset, offset + 1⟩ .lineStart) :: parts) frames
        (offset + 1) rest) :=
  leads_of_part rfl

theorem leads_end :
    Leads 1 (standing start parts frames offset ('$' :: rest))
      (standing start (.primitive (.assertion ⟨offset, offset + 1⟩ .lineEnd) :: parts) frames
        (offset + 1) rest) :=
  leads_of_part rfl

theorem leads_escape {c : Char} {found : Primitive}
    (read : escape ⟨offset, '\\' :: c :: rest, false⟩ = .ok (found, ⟨offset + 2, rest, false⟩)) :
    Leads 1 (standing start parts frames offset ('\\' :: c :: rest))
      (standing start (.primitive found :: parts) frames (offset + 2) rest) := by
  apply leads_of_part
  change (escape _).map _ = _
  dsimp only [standing]
  rw [read]
  rfl

theorem leads_escaped {c : Char} (special : isMeta c = true) :
    Leads 1 (standing start parts frames offset ('\\' :: c :: rest))
      (standing start
        (.primitive (.literal ⟨⟨offset, offset + 2⟩, c, false⟩) :: parts)
        frames (offset + 2) rest) := by
  apply leads_escape
  have noLetter := isAlphanum_of_isMeta special
  have notLetter {d : Char} (letter : d.isAlphanum = true) : c ≠ d := by
    rintro rfl
    rw [noLetter] at letter
    cases letter
  have noDigit : c.isDigit = false := (Bool.or_eq_false_iff.mp noLetter).2
  have escapable : isEscapable c = true := by
    rw [isEscapable, special, Bool.true_or]
  simp [escape, Cursor.advance, Cursor.spanTo, noDigit, escapable,
    notLetter (d := 'x') (by decide), notLetter (d := 'u') (by decide),
    notLetter (d := 'U') (by decide), notLetter (d := 'p') (by decide),
    notLetter (d := 'P') (by decide)]

theorem leads_boundary (apart : Apart rest) :
    Leads 1 (standing start parts frames offset ('\\' :: 'b' :: rest))
      (standing start (.primitive (.assertion ⟨offset, offset + 2⟩ .wordEdge) :: parts) frames
        (offset + 2) rest) := by
  apply leads_escape
  change wordBoundary ⟨offset, '\\' :: 'b' :: rest, false⟩ ⟨offset + 2, rest, false⟩ = _
  cases rest with
  | nil => rfl
  | cons c rest =>
      have noBrace : c ≠ '\x7b' := fun same => apart.2 (congrArg some same)
      simp [wordBoundary, noBrace, Cursor.spanTo]

theorem leads_space :
    Leads 1 (standing start parts frames offset ('\\' :: 's' :: rest))
      (standing start (.primitive (.shorthand ⟨offset, offset + 2⟩ false .space) :: parts) frames
        (offset + 2) rest) :=
  leads_escape rfl

theorem leads_digit :
    Leads 1 (standing start parts frames offset ('\\' :: 'd' :: rest))
      (standing start (.primitive (.shorthand ⟨offset, offset + 2⟩ false .digit) :: parts) frames
        (offset + 2) rest) :=
  leads_escape rfl

theorem skipPreference_of_apart (apart : Apart rest) :
    skipPreference ⟨offset, rest, false⟩ = ⟨offset, rest, false⟩ := by
  rw [skipPreference, if_neg apart.1]

theorem leads_repetition (counts : Counts) {sign : Char} {inside : Pattern}
    (known : signCounts? sign = some counts) (isSign : sign ∈ ['?', '*', '+'])
    (repeatable : inside.isRepeatable = true) (apart : Apart rest) :
    Leads 1 (standing start (inside :: parts) frames offset (sign :: rest))
      (standing start
        (.repetition ⟨inside.span.start, offset + 1⟩ counts.least counts.most inside :: parts)
        frames (offset + 1) rest) := by
  apply leads_of_part
  have repeats : (standing start (inside :: parts) frames offset (sign :: rest)).part sign =
      (standing start (inside :: parts) frames offset (sign :: rest)).repeatLast sign := by
    simp only [List.mem_cons, List.not_mem_nil, or_false] at isSign
    rcases isSign with rfl | rfl | rfl
    · rfl
    · rfl
    · rfl
  have counted : Pattern.counts ⟨offset, sign :: rest, false⟩ sign =
      .ok (counts, ⟨offset + 1, rest, false⟩) := by
    rw [Pattern.counts, known]
    exact congrArg (fun cursor => Except.ok (counts, cursor)) (skipPreference_of_apart apart)
  rw [repeats]
  simp only [repeatLast, standing, repeatable, if_true, counted]
  rfl

theorem leads_optional {inside : Pattern} (repeatable : inside.isRepeatable = true)
    (apart : Apart rest) :
    Leads 1 (standing start (inside :: parts) frames offset ('?' :: rest))
      (standing start (.repetition ⟨inside.span.start, offset + 1⟩ 0 (some 1) inside :: parts)
        frames (offset + 1) rest) :=
  leads_repetition ⟨0, some 1⟩ rfl (by decide) repeatable apart

theorem leads_star {inside : Pattern} (repeatable : inside.isRepeatable = true)
    (apart : Apart rest) :
    Leads 1 (standing start (inside :: parts) frames offset ('*' :: rest))
      (standing start (.repetition ⟨inside.span.start, offset + 1⟩ 0 none inside :: parts)
        frames (offset + 1) rest) :=
  leads_repetition ⟨0, none⟩ rfl (by decide) repeatable apart

theorem leads_plus {inside : Pattern} (repeatable : inside.isRepeatable = true)
    (apart : Apart rest) :
    Leads 1 (standing start (inside :: parts) frames offset ('+' :: rest))
      (standing start (.repetition ⟨inside.span.start, offset + 1⟩ 1 none inside :: parts)
        frames (offset + 1) rest) :=
  leads_repetition ⟨1, none⟩ rfl (by decide) repeatable apart

theorem lookAroundLength?_of_apart (apart : Apart rest) : lookAroundLength? rest = none := by
  cases rest with
  | nil => rfl
  | cons c rest =>
      have noMark : '?' ≠ c := fun same => apart.1 (congrArg some same.symm)
      simp [lookAroundLength?, Text.after?, Text.strip?, noMark]

theorem leads_opening (apart : Apart rest) :
    Leads 1 (standing start parts frames offset ('(' :: rest))
      (standing (offset + 1) []
        (.group ⟨start, parts⟩ ⟨offset, offset + 1⟩ true [] false :: frames) (offset + 1)
        rest) := by
  apply leads_of_part
  have opened : groupOpening [] ⟨offset, '(' :: rest, false⟩ =
      .ok (.capturing, ⟨offset + 1, rest, false⟩) := by
    have none := lookAroundLength?_of_apart apart
    cases rest with
    | nil => rfl
    | cons c rest =>
        have noMark : c ≠ '?' := fun same => apart.1 (congrArg some same)
        simp [groupOpening, Cursor.next, Cursor.advance, Cursor.skipSpace, none, noMark]
  change openGroup _ = _
  simp only [openGroup, standing, opened]
  rfl

theorem leads_bar {around : Sequence} {span : PatternSpan} :
    Leads 1 (standing start parts (.group around span true [] false :: frames) offset ('|' :: rest))
      (standing (offset + 1) []
        (.alternation start [Sequence.toPattern ⟨start, parts⟩ offset] ::
          .group around span true [] false :: frames) (offset + 1) rest) :=
  leads_of_part rfl

theorem leads_closing {start' : Nat} {parts' : List Pattern} {span : PatternSpan} :
    Leads 1
      (standing start parts (.group ⟨start', parts'⟩ span true [] false :: frames) offset
        (')' :: rest))
      (standing start'
        (.group ⟨span.start, offset + 1⟩ true [] (Sequence.toPattern ⟨start, parts⟩ offset) ::
          parts') frames (offset + 1) rest) :=
  leads_of_part rfl

theorem leads_closing_alternation {first start' : Nat} {branches parts' : List Pattern}
    {span : PatternSpan} :
    Leads 1
      (standing start parts
        (.alternation first branches :: .group ⟨start', parts'⟩ span true [] false :: frames) offset
        (')' :: rest))
      (standing start'
        (.group ⟨span.start, offset + 1⟩ true []
          (.alternation ⟨first, offset⟩
            (Sequence.toPattern ⟨start, parts⟩ offset :: branches).reverse) ::
          parts') frames (offset + 1) rest) :=
  leads_of_part rfl

theorem leads_signs :
    Leads 1 (standing start parts frames offset ('[' :: '+' :: '-' :: ']' :: rest))
      (standing start
        (.bracket ⟨offset, offset + 4⟩ false
          (.union ⟨offset + 1, offset + 3⟩ [.literal ⟨⟨offset + 1, offset + 2⟩, '+', false⟩,
            .literal ⟨⟨offset + 2, offset + 3⟩, '-', false⟩]) :: parts)
        frames (offset + 4) rest) := by
  apply leads_of_part
  have read : bracketAt ⟨offset, '[' :: '+' :: '-' :: ']' :: rest, false⟩ = .ok
      (.bracket ⟨offset, offset + 4⟩ false
          (.union ⟨offset + 1, offset + 3⟩ [.literal ⟨⟨offset + 1, offset + 2⟩, '+', false⟩,
            .literal ⟨⟨offset + 2, offset + 3⟩, '-', false⟩]), ⟨offset + 4, rest, false⟩) := by
    rfl
  simp [part, standing, read, Except.map, push, Sequence.push]

end Signs

end Reader
end Pattern
end LoopLesson
