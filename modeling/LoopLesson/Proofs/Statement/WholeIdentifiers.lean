import LoopLesson.Proofs.Statement.WholeWords
import LoopLesson.Proofs.Text.Pieces
import Mathlib.Data.List.Infix

/-!
Names of a loop in a text: when they are replaced as whole identifiers.

A name of a loop is an identifier, which may hold dollar signs, but a name is replaced between word
boundaries, and the dollar sign is no word character.  So substitution and the identifiers of a text
agree, whatever the value, exactly if the name has boundaries on its sides where it is an identifier
of its own.  They agree where no dollar sign opens or closes the name or stands next to it.  A name
that a dollar sign opens or closes is replaced nowhere as an identifier of its own.
-/

namespace LoopLesson

open Text

section Marking

variable {inClass : Char → Bool} {name : List Char} {marker : Char}

/-- A marker in the place of the name shows where the name was replaced: not in what was copied. -/
theorem not_isWholeWord_of_copied (nonempty : name ≠ []) {passed front rest result : List Char}
    (unmarked : marker ∉ front)
    (copied : replaceFrom name [marker] 0 passed.getLast? (front ++ rest) = front ++ result) :
    (∀ before after, front ++ rest = before ++ (name ++ after) → before.length < front.length →
      ¬IsWholeWord name (passed ++ before) after) ∧
    replaceFrom name [marker] 0 (passed ++ front).getLast? rest = result := by
  induction front generalizing passed with
  | nil =>
      rw [List.append_nil]
      exact ⟨fun _ _ _ impossible => absurd impossible (Nat.not_lt_zero _), copied⟩
  | cons c front ih =>
      obtain ⟨different, unmarkedFront⟩ := not_or.mp (mt List.mem_cons.mpr unmarked)
      have notWhole : ∀ after, c :: (front ++ rest) = name ++ after →
          ¬IsWholeWord name passed after := by
        intro after split whole
        rw [List.cons_append, split, replaceFrom_name nonempty whole] at copied
        exact different (List.cons.inj copied).1
      have notHere := standsHere_eq_false nonempty notWhole
      rw [List.cons_append, replaceFrom_cons_of_not_here notHere] at copied
      have behind : replaceFrom name [marker] 0 (passed ++ [c]).getLast? (front ++ rest) =
          front ++ result := by
        rw [List.getLast?_concat]
        exact (List.cons.inj copied).2
      obtain ⟨later, remaining⟩ := ih unmarkedFront behind
      rw [List.append_assoc] at remaining
      refine ⟨?_, remaining⟩
      intro before after split starts
      cases before with
      | nil =>
          rw [List.append_nil]
          exact notWhole after split
      | cons d before =>
          obtain ⟨rfl, splitRest⟩ := List.cons.inj split
          have notLater := later before after splitRest (Nat.lt_of_succ_lt_succ starts)
          rwa [List.append_assoc] at notLater

theorem isWholeWord_of_marked (nonempty : name ≠ []) {passed rest result : List Char}
    (unmarked : marker ∉ name)
    (marked : replaceFrom name [marker] 0 passed.getLast? (name ++ rest) = marker :: result) :
    IsWholeWord name passed rest := by
  obtain ⟨c, further, rfl⟩ := List.exists_cons_of_ne_nil nonempty
  apply Classical.byContradiction
  intro notWhole
  have notHere : standsHere (c :: further) passed.getLast? (c :: (further ++ rest)) = false := by
    apply standsHere_eq_false nonempty
    intro after split
    rw [List.cons_append, List.cons.injEq] at split
    rwa [← List.append_cancel_left split.2]
  rw [List.cons_append, replaceFrom_cons_of_not_here notHere] at marked
  rw [← (List.cons.inj marked).1] at unmarked
  exact unmarked List.mem_cons_self

/-- If a stretch is marked exactly when it is the name, then in it the name is a whole word exactly
when it is the whole stretch. -/
theorem standsAlike_in_stretch (nonempty : name ≠ []) (allName : ∀ c ∈ name, inClass c = true)
    {passed stretch rest result : List Char} (all : ∀ c ∈ stretch, inClass c = true)
    (opens : IsIsolated inClass passed rest) (unmarked : marker ∉ stretch)
    (same : replaceFrom name [marker] 0 passed.getLast? (stretch ++ rest) =
      replacing name [marker] stretch ++ result) :
    (∀ before after, stretch ++ rest = before ++ (name ++ after) →
      before.length < stretch.length →
      (IsWholeWord name (passed ++ before) after ↔ IsIsolated inClass (passed ++ before) after)) ∧
    replaceFrom name [marker] 0 (passed ++ stretch).getLast? rest = result := by
  by_cases isName : stretch = name
  · rw [replacing, if_pos isName, isName] at same
    rw [isName] at unmarked
    have whole := isWholeWord_of_marked nonempty unmarked same
    rw [replaceFrom_name nonempty whole] at same
    rw [isName]
    refine ⟨?_, List.append_cancel_left same⟩
    intro before after split starts
    obtain ⟨further, inside, rfl⟩ := exists_rest_of_stretch allName opens.after split starts
    obtain ⟨rfl, rfl⟩ := eq_nil_of_eq_around inside
    rw [List.append_nil, List.nil_append]
    exact ⟨fun _ => opens, fun _ => whole⟩
  · rw [replacing, if_neg isName] at same
    obtain ⟨never, remaining⟩ := not_isWholeWord_of_copied nonempty unmarked same
    refine ⟨?_, remaining⟩
    intro before after split starts
    obtain ⟨further, inside, rfl⟩ := exists_rest_of_stretch allName opens.after split starts
    constructor
    · exact fun whole => absurd whole (never before _ split starts)
    · exact fun isolated => absurd ((isIsolated_iff_of_stretch all opens inside).mp isolated) isName

theorem standsAlike_of_marked (nonempty : name ≠ []) (allName : ∀ c ∈ name, inClass c = true)
    {passed text : List Char} (ended : ∀ c, passed.getLast? = some c → inClass c = false)
    (unmarked : marker ∉ text)
    (same : replaceFrom name [marker] 0 passed.getLast? text =
      mapStretches inClass (replacing name [marker]) text) :
    StandsAlike inClass name passed text := by
  induction text using stretch_induction inClass generalizing passed with
  | last stretch all =>
      have opens : IsIsolated inClass passed [] := ⟨ended, fun _ none => nomatch none⟩
      have inside : replaceFrom name [marker] 0 passed.getLast? (stretch ++ []) =
          replacing name [marker] stretch ++ [] := by
        rw [List.append_nil, List.append_nil, same, mapStretches_of_all _ all]
      obtain ⟨alike, _remaining⟩ :=
        standsAlike_in_stretch nonempty allName all opens unmarked inside
      intro before after split
      apply alike before after (by rw [List.append_nil, split])
      have positive := List.length_pos_iff.mpr nonempty
      rw [split, List.length_append, List.length_append]
      omega
  | before stretch c rest all outside ih =>
      have next := head?_cons_outside outside rest
      have unmarkedStretch : marker ∉ stretch := mt (List.mem_append_left _) unmarked
      have unmarkedRest : marker ∉ rest :=
        fun member => unmarked (List.mem_append_right _ (List.mem_cons_of_mem c member))
      rw [mapStretches_stretch_cons _ all outside] at same
      obtain ⟨alike, remaining⟩ :=
        standsAlike_in_stretch nonempty allName all ⟨ended, next⟩ unmarkedStretch same
      rw [replaceFrom_cons_outside nonempty allName outside] at remaining
      have further : StandsAlike inClass name (passed ++ stretch ++ [c]) rest := by
        apply ih (getLast?_concat_outside outside (passed ++ stretch)) unmarkedRest
        rw [List.getLast?_concat]
        exact (List.cons.inj remaining).2
      intro before after split
      by_cases starts : before.length < stretch.length
      · exact alike before after split starts
      · obtain ⟨gap, rfl, splitRest⟩ :=
          exists_gap_of_stretch nonempty allName outside split starts
        have later := further gap after splitRest
        simpa only [List.append_assoc, List.cons_append, List.nil_append] using later

/-- Whatever the value, replacing a name replaces the stretches that are equal to it, exactly if the
name is a whole word where it is a stretch. -/
theorem replaceWord_eq_iff (usable : Pattern.Compiles (NamePattern.word name))
    (nonempty : name ≠ []) (allName : ∀ c ∈ name, inClass c = true) {text : List Char}
    (unmarked : marker ∉ text) :
    (∀ value, replaceWord name value text = mapStretches inClass (replacing name value) text) ↔
      StandsAlike inClass name [] text := by
  constructor
  · intro same
    have marked := same [marker]
    rw [replaceWord_of_compiles usable] at marked
    exact standsAlike_of_marked nonempty allName getLast?_nil_outside unmarked marked
  · exact replaceWord_eq_mapStretches usable nonempty allName

theorem mem_stretchList_of_isolated (allName : ∀ c ∈ name, inClass c = true)
    {before after : List Char} (isolated : IsIsolated inClass before after) :
    name ∈ stretchList inClass (before ++ (name ++ after)) := by
  have opened : name ∈ stretchList inClass (name ++ after) := by
    cases after with
    | nil =>
        rw [List.append_nil, stretchList_of_all allName]
        exact List.mem_singleton_self name
    | cons c rest =>
        rw [stretchList_stretch_cons allName (isolated.after c rfl)]
        exact List.mem_cons_self
  cases last : before.getLast? with
  | none =>
      rw [List.getLast?_eq_none_iff.mp last]
      exact opened
  | some c =>
      obtain ⟨front, rfl⟩ := List.getLast?_eq_some_iff.mp last
      rw [List.append_assoc, List.singleton_append,
        stretchList_append_cons front (isolated.before c last)]
      exact List.mem_append_right _ opened

/-- A name that is a stretch of a text leaves its mark there. -/
theorem ne_mapStretches_of_isolated (allName : ∀ c ∈ name, inClass c = true)
    {before after : List Char} (isolated : IsIsolated inClass before after)
    (unmarked : marker ∉ before ++ (name ++ after)) :
    before ++ (name ++ after) ≠
      mapStretches inClass (replacing name [marker]) (before ++ (name ++ after)) := by
  intro same
  have marked : marker ∈ replacing name [marker] name := by
    rw [replacing, if_pos rfl]
    exact List.mem_singleton_self marker
  have shown := mem_mapStretches (mem_stretchList_of_isolated allName isolated) marked
  rw [← same] at shown
  exact unmarked shown

end Marking

section Dollar

variable {name text : List Char}

/-- Of the ASCII characters, those of an identifier are the word characters and the dollar sign. -/
theorem isIdentifierPart_eq_of_ascii {c : Char} (ascii : c.toNat < 0x80) :
    isIdentifierPart c = (isWord c || decide (c = '$')) := by
  rw [isWord_of_ascii ascii]
  unfold isIdentifierPart isIdentifierStart isAsciiWord Char.isAlphanum
  cases c.isAlpha <;> cases c.isDigit <;> cases decide (c = '_') <;> cases decide (c = '$') <;> rfl

theorem isWord_of_isIdentifierPart {c : Char} (part : isIdentifierPart c = true)
    (notDollar : c ≠ '$') : isWord c = true := by
  rwa [isIdentifierPart_eq_of_ascii (toNat_of_isIdentifierPart part), decide_eq_false notDollar,
    Bool.or_false] at part

theorem isIsolated_word_iff_identifier {before after : List Char}
    (asciiBefore : ∀ c ∈ before, c.toNat < 0x80) (asciiAfter : ∀ c ∈ after, c.toNat < 0x80)
    (freeBefore : before.getLast? ≠ some '$') (freeAfter : after.head? ≠ some '$') :
    IsIsolated isWord before after ↔ IsIsolated isIdentifierPart before after := by
  have sameBefore : ∀ c, before.getLast? = some c → isIdentifierPart c = isWord c := by
    intro c last
    have notDollar : c ≠ '$' := fun dollar => freeBefore (dollar ▸ last)
    rw [isIdentifierPart_eq_of_ascii (asciiBefore c (List.mem_of_getLast? last)),
      decide_eq_false notDollar, Bool.or_false]
  have sameAfter : ∀ c, after.head? = some c → isIdentifierPart c = isWord c := by
    intro c head
    have notDollar : c ≠ '$' := fun dollar => freeAfter (dollar ▸ head)
    rw [isIdentifierPart_eq_of_ascii (asciiAfter c (List.mem_of_mem_head? head)),
      decide_eq_false notDollar, Bool.or_false]
  constructor
  · rintro ⟨noWordBefore, noWordAfter⟩
    exact ⟨fun c last => (sameBefore c last).trans (noWordBefore c last),
      fun c head => (sameAfter c head).trans (noWordAfter c head)⟩
  · rintro ⟨noPartBefore, noPartAfter⟩
    exact ⟨fun c last => (sameBefore c last).symm.trans (noPartBefore c last),
      fun c head => (sameAfter c head).symm.trans (noPartAfter c head)⟩

/-- Where no dollar sign opens or closes a name or stands next to it, the name is a whole word
exactly if it is an identifier of its own. -/
theorem standsAlike_of_no_dollar (identifier : IsIdentifier name)
    (ascii : ∀ c ∈ text, c.toNat < 0x80) (opens : name.head? ≠ some '$')
    (closes : name.getLast? ≠ some '$') (noneBefore : ¬ '$' :: name <:+: text)
    (noneAfter : ¬name ++ ['$'] <:+: text) : StandsAlike isIdentifierPart name [] text := by
  intro before after split
  have freeBefore : before.getLast? ≠ some '$' := by
    intro last
    obtain ⟨front, rfl⟩ := List.getLast?_eq_some_iff.mp last
    exact noneBefore ⟨front, after, by rw [split]; simp⟩
  have freeAfter : after.head? ≠ some '$' := by
    intro head
    obtain ⟨rest, rfl⟩ := List.head?_eq_some_iff.mp head
    exact noneAfter ⟨before, rest, by rw [split]; simp⟩
  have first := List.head?_eq_some_head identifier.ne_nil
  have last := List.getLast?_eq_some_getLast identifier.ne_nil
  have wordFirst : isWord (name.head identifier.ne_nil) = true :=
    isWord_of_isIdentifierPart (identifier.all_parts _ (List.head_mem _))
      fun dollar => opens (dollar ▸ first)
  have wordLast : isWord (name.getLast identifier.ne_nil) = true :=
    isWord_of_isIdentifierPart (identifier.all_parts _ (List.getLast_mem _))
      fun dollar => closes (dollar ▸ last)
  rw [split] at ascii
  rw [List.nil_append, isWholeWord_iff_isIsolated first wordFirst last wordLast]
  apply isIsolated_word_iff_identifier _ _ freeBefore freeAfter
  · exact fun c member => ascii c (List.mem_append_left _ member)
  · exact fun c member => ascii c (List.mem_append_right _ (List.mem_append_right _ member))

/-- A name that a dollar sign opens or closes has no boundary there where it is an identifier of its
own. -/
theorem not_isWholeWord_of_dollar {before after : List Char}
    (asciiBefore : ∀ c ∈ before, c.toNat < 0x80) (asciiAfter : ∀ c ∈ after, c.toNat < 0x80)
    (dollar : name.head? = some '$' ∨ name.getLast? = some '$')
    (isolated : IsIsolated isIdentifierPart before after) : ¬IsWholeWord name before after := by
  have notWord {c : Char} (ascii : c.toNat < 0x80) (outside : isIdentifierPart c = false) :
      isWord c = false := by
    rw [isIdentifierPart_eq_of_ascii ascii] at outside
    exact (Bool.or_eq_false_iff.mp outside).1
  have dollarSign : isWord '$' = false := by decide
  rintro ⟨opens, closes⟩
  rcases dollar with first | last
  · rw [first] at opens
    cases neighbour : before.getLast? with
    | none =>
        rw [neighbour] at opens
        exact absurd opens (by decide)
    | some c =>
        have outside := notWord (asciiBefore c (List.mem_of_getLast? neighbour))
          (isolated.before c neighbour)
        rw [neighbour, isBoundary, isWordNeighbour, isWordNeighbour, outside, dollarSign] at opens
        cases opens
  · rw [last] at closes
    cases neighbour : after.head? with
    | none =>
        rw [neighbour] at closes
        exact absurd closes (by decide)
    | some c =>
        have outside := notWord (asciiAfter c (List.mem_of_mem_head? neighbour))
          (isolated.after c neighbour)
        rw [neighbour, isBoundary, isWordNeighbour, isWordNeighbour, outside, dollarSign] at closes
        cases closes

end Dollar

theorem substitute_single (name value : String) (text : List Char) :
    substitute (.ofList [(name, value)]) text = replaceWord name.toList value.toList text := rfl

/-- In an ASCII text, a name of a loop whose pattern can be used is replaced as a whole identifier,
whatever its value, exactly if it is a whole word where it is an identifier of its own.  This holds
where no dollar sign opens or closes the name or stands next to it, and it fails wherever a name
that a dollar sign opens or closes is an identifier of its own. -/
theorem substitute_whole_identifiers_iff {name : String} {text : List Char}
    (identifier : IsIdentifier name.toList) (ascii : ∀ c ∈ text, c.toNat < 0x80) :
    (Pattern.Compiles (NamePattern.word name.toList) →
      ((∀ value, substitute (.ofList [(name, value)]) text =
        mapStretches isIdentifierPart (replacing name.toList value.toList) text) ↔
      ∀ before after, text = before ++ (name.toList ++ after) →
        (IsWholeWord name.toList before after ↔ IsIsolated isIdentifierPart before after))) ∧
    (Pattern.Compiles (NamePattern.word name.toList) →
      name.toList.head? ≠ some '$' → name.toList.getLast? ≠ some '$' →
      ¬ '$' :: name.toList <:+: text → ¬name.toList ++ ['$'] <:+: text →
      ∀ value, substitute (.ofList [(name, value)]) text =
        mapStretches isIdentifierPart (replacing name.toList value.toList) text) ∧
    (name.toList.head? = some '$' ∨ name.toList.getLast? = some '$' →
      ∀ before after, text = before ++ (name.toList ++ after) →
        IsIsolated isIdentifierPart before after →
        ∃ value, substitute (.ofList [(name, value)]) text ≠
          mapStretches isIdentifierPart (replacing name.toList value.toList) text) := by
  have unmarked : '\u0080' ∉ text := fun member => absurd (ascii _ member) (by decide)
  have values (usable : Pattern.Compiles (NamePattern.word name.toList)) :
      (∀ value : String, substitute (.ofList [(name, value)]) text =
        mapStretches isIdentifierPart (replacing name.toList value.toList) text) ↔
      StandsAlike isIdentifierPart name.toList [] text := by
    rw [← replaceWord_eq_iff usable identifier.ne_nil identifier.all_parts unmarked]
    constructor
    · intro same value
      have replaced := same (String.ofList value)
      rwa [substitute_single, String.toList_ofList] at replaced
    · exact fun same value => same value.toList
  refine ⟨values, ?_, ?_⟩
  · intro usable opens closes noneBefore noneAfter
    exact (values usable).mpr
      (standsAlike_of_no_dollar identifier ascii opens closes noneBefore noneAfter)
  · intro dollar before after split isolated
    by_cases usable : Pattern.Compiles (NamePattern.word name.toList)
    · apply Classical.not_forall.mp
      rw [values usable]
      intro alike
      have whole := (alike before after split).mpr isolated
      rw [split] at ascii
      apply not_isWholeWord_of_dollar _ _ dollar isolated whole
      · exact fun c member => ascii c (List.mem_append_left _ member)
      · exact fun c member => ascii c (List.mem_append_right _ (List.mem_append_right _ member))
    · -- The text stays as it is, and so does not show the mark.
      refine ⟨String.ofList ['\u0080'], ?_⟩
      rw [substitute_single, String.toList_ofList, replaceWord_of_not_compiles usable, split]
      rw [split] at unmarked
      exact ne_mapStretches_of_isolated identifier.all_parts isolated unmarked

theorem inner_dollar_substituted :
    IsIdentifier "a$b".toList ∧ Pattern.Compiles (NamePattern.word "a$b".toList) ∧
      substitute (.ofList [("a$b", "7")]) "(a$b) + xa$b + $ - a$b".toList =
        "(7) + xa$b + $ - 7".toList := by
  have identifier : IsIdentifier "a$b".toList :=
    ⟨'a', ['$', 'b'], rfl, by decide, List.all_eq_true.mp (by decide)⟩
  have low : "(a$b) + xa$b + $ - a$b".toList.all (fun c => c.toNat < 0x80) = true := by decide
  have ascii : ∀ c ∈ "(a$b) + xa$b + $ - a$b".toList, c.toNat < 0x80 :=
    fun c member => of_decide_eq_true (List.all_eq_true.mp low c member)
  refine ⟨identifier, by decide, ?_⟩
  rw [(substitute_whole_identifiers_iff identifier ascii).2.1 (by decide) (by decide) (by decide)
    (by decide) (by decide)]
  decide

/-- A name that opens with a dollar sign is not replaced, and a name is replaced in another one that
goes on with a dollar sign. -/
theorem dollar_names_missed :
    (IsIdentifier "$i".toList ∧ substitute (.ofList [("$i", "7")]) "$i".toList = "$i".toList ∧
      mapStretches isIdentifierPart (replacing "$i".toList "7".toList) "$i".toList = "7".toList) ∧
    (IsIdentifier "i".toList ∧ substitute (.ofList [("i", "7")]) "i$ + i".toList = "7$ + 7".toList ∧
      mapStretches isIdentifierPart (replacing "i".toList "7".toList) "i$ + i".toList =
        "i$ + 7".toList) := by
  have opened : IsIdentifier "$i".toList :=
    ⟨'$', ['i'], rfl, by decide, List.all_eq_true.mp (by decide)⟩
  have plain : IsIdentifier "i".toList := ⟨'i', [], rfl, by decide, nofun⟩
  exact ⟨⟨opened, by decide, by decide⟩, plain, by decide, by decide⟩

end LoopLesson
