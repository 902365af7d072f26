import LoopLesson.Proofs.Text.Stretches
import LoopLesson.Statement.Substitution

/-!
Where a name is replaced, and where it is a stretch of its own.

A name is replaced where a word boundary stands on both of its sides.  It is a stretch of a class of
characters where no other character of the class stands next to it.  In a text in which these are
the same places, replacing the name is replacing the stretches that are equal to it.
-/

namespace LoopLesson

open Text

/-- A name between two texts has a word boundary on both of its sides. -/
structure IsWholeWord (name before after : List Char) : Prop where
  opens : isBoundary before.getLast? name.head? = true
  closes : isBoundary name.getLast? after.head? = true

/-- Between two texts, no character of the class is next. -/
structure IsIsolated (inClass : Char → Bool) (before after : List Char) : Prop where
  before : ∀ c, before.getLast? = some c → inClass c = false
  after : ∀ c, after.head? = some c → inClass c = false

/-- Wherever a name stands in a text, it has boundaries on its sides exactly if it is a stretch.
What has been passed stands before the text. -/
def StandsAlike (inClass : Char → Bool) (name passed text : List Char) : Prop :=
  ∀ before after, text = before ++ (name ++ after) →
    (IsWholeWord name (passed ++ before) after ↔ IsIsolated inClass (passed ++ before) after)

theorem StandsAlike.behind {inClass : Char → Bool} {name passed front rest : List Char}
    (alike : StandsAlike inClass name passed (front ++ rest)) :
    StandsAlike inClass name (passed ++ front) rest := by
  intro before after split
  have whole := alike (front ++ before) after (by rw [split, List.append_assoc])
  rwa [← List.append_assoc] at whole

/-- Replaces a stretch that is equal to a name. -/
def replacing (name value stretch : List Char) : List Char :=
  if stretch = name then value else stretch

section Boundaries

theorem isBoundary_before_word {before : Option Char} {c : Char} (word : isWord c = true) :
    isBoundary before (some c) = true ↔ ∀ d, before = some d → isWord d = false := by
  cases before <;> simp [isBoundary, isWordNeighbour, word]

theorem isBoundary_after_word {after : Option Char} {c : Char} (word : isWord c = true) :
    isBoundary (some c) after = true ↔ ∀ d, after = some d → isWord d = false := by
  cases after <;> simp [isBoundary, isWordNeighbour, word]

/-- A name whose first and last characters are word characters is a whole word where no other word
character is next to it. -/
theorem isWholeWord_iff_isIsolated {name before after : List Char} {first last : Char}
    (head : name.head? = some first) (opens : isWord first = true)
    (ends : name.getLast? = some last) (closes : isWord last = true) :
    IsWholeWord name before after ↔ IsIsolated isWord before after := by
  constructor
  · rintro ⟨boundaryBefore, boundaryAfter⟩
    rw [head, isBoundary_before_word opens] at boundaryBefore
    rw [ends, isBoundary_after_word closes] at boundaryAfter
    exact ⟨boundaryBefore, boundaryAfter⟩
  · rintro ⟨freeBefore, freeAfter⟩
    constructor
    · rw [head, isBoundary_before_word opens]
      exact freeBefore
    · rw [ends, isBoundary_after_word closes]
      exact freeAfter

end Boundaries

section Scanning

variable {name value : List Char}

theorem lastBefore_of_ne_nil (nonempty : name ≠ []) (before : Option Char) :
    lastBefore before name = name.getLast? := by
  unfold lastBefore
  rw [List.getLast?_eq_some_getLast nonempty]

theorem standsHere_iff (nonempty : name ≠ []) {passed text : List Char} :
    standsHere name passed.getLast? text = true ↔
      ∃ after, text = name ++ after ∧ IsWholeWord name passed after := by
  have head (after : List Char) : (name ++ after).head? = name.head? := by
    obtain ⟨c, further, rfl⟩ := List.exists_cons_of_ne_nil nonempty
    rfl
  unfold standsHere
  rw [Bool.and_eq_true, Bool.and_eq_true, List.isPrefixOf_iff_prefix,
    lastBefore_of_ne_nil nonempty]
  constructor
  · rintro ⟨⟨⟨after, rfl⟩, opens⟩, closes⟩
    rw [head] at opens
    rw [List.drop_left] at closes
    exact ⟨after, rfl, opens, closes⟩
  · rintro ⟨after, rfl, opens, closes⟩
    rw [head, List.drop_left]
    exact ⟨⟨List.prefix_append name after, opens⟩, closes⟩

theorem standsHere_eq_false (nonempty : name ≠ []) {passed text : List Char}
    (never : ∀ after, text = name ++ after → ¬IsWholeWord name passed after) :
    standsHere name passed.getLast? text = false := by
  apply Bool.eq_false_iff.mpr
  intro stands
  obtain ⟨after, split, whole⟩ := (standsHere_iff nonempty).mp stands
  exact never after split whole

theorem replaceFrom_nil (nonempty : name ≠ []) (passed : List Char) :
    replaceFrom name value 0 passed.getLast? [] = [] := by
  have nowhere : standsHere name passed.getLast? [] = false := by
    apply standsHere_eq_false nonempty
    intro after split
    exact absurd (List.append_eq_nil_iff.mp split.symm).1 nonempty
  rw [replaceFrom, nowhere]
  rfl

theorem replaceFrom_cons_of_not_here {before : Option Char} {c : Char} {rest : List Char}
    (notHere : standsHere name before (c :: rest) = false) :
    replaceFrom name value 0 before (c :: rest) = c :: replaceFrom name value 0 (some c) rest := by
  rw [replaceFrom, notHere]
  rfl

/-- The characters of a replaced name are passed over. -/
theorem replaceFrom_pending (name value passed pending rest : List Char) :
    replaceFrom name value pending.length passed.getLast? (pending ++ rest) =
      replaceFrom name value 0 (passed ++ pending).getLast? rest := by
  induction pending generalizing passed with
  | nil => rw [List.append_nil]; rfl
  | cons c further ih =>
      have later := ih (passed ++ [c])
      rw [List.getLast?_concat, List.append_assoc] at later
      rw [List.length_cons, List.cons_append, replaceFrom, later]
      rfl

theorem replaceFrom_name (nonempty : name ≠ []) {passed rest : List Char}
    (whole : IsWholeWord name passed rest) :
    replaceFrom name value 0 passed.getLast? (name ++ rest) =
      value ++ replaceFrom name value 0 (passed ++ name).getLast? rest := by
  have here := (standsHere_iff nonempty).mpr ⟨rest, rfl, whole⟩
  obtain ⟨c, further, rfl⟩ := List.exists_cons_of_ne_nil nonempty
  have skipped := replaceFrom_pending (c :: further) value (passed ++ [c]) further rest
  rw [List.getLast?_concat, List.append_assoc] at skipped
  rw [List.cons_append] at here ⊢
  rw [replaceFrom, here, if_pos rfl, List.length_cons]
  dsimp only
  rw [skipped]
  rfl

/-- Where the name stands nowhere as a whole word, everything is copied. -/
theorem replaceFrom_copy (nonempty : name ≠ []) {passed front rest : List Char}
    (never : ∀ before after, front ++ rest = before ++ (name ++ after) →
      before.length < front.length → ¬IsWholeWord name (passed ++ before) after) :
    replaceFrom name value 0 passed.getLast? (front ++ rest) =
      front ++ replaceFrom name value 0 (passed ++ front).getLast? rest := by
  induction front generalizing passed with
  | nil => rw [List.append_nil]; rfl
  | cons c front ih =>
      have notHere : standsHere name passed.getLast? (c :: (front ++ rest)) = false := by
        apply standsHere_eq_false nonempty
        intro after split
        have here := never [] after split (Nat.zero_lt_succ front.length)
        rwa [List.append_nil] at here
      have later : ∀ before after, front ++ rest = before ++ (name ++ after) →
          before.length < front.length → ¬IsWholeWord name (passed ++ [c] ++ before) after := by
        intro before after split starts
        rw [List.append_assoc]
        exact never (c :: before) after (congrArg (List.cons c) split) (Nat.succ_lt_succ starts)
      have copied := ih later
      rw [List.getLast?_concat, List.append_assoc] at copied
      rw [List.cons_append, replaceFrom_cons_of_not_here notHere, copied]
      rfl

end Scanning

section Stretches

variable {inClass : Char → Bool} {name value : List Char}

theorem head?_cons_outside {c : Char} (outside : inClass c = false) (rest : List Char) :
    ∀ d, (c :: rest).head? = some d → inClass d = false := by
  rintro d ⟨⟩
  exact outside

theorem getLast?_concat_outside {c : Char} (outside : inClass c = false) (passed : List Char) :
    ∀ d, (passed ++ [c]).getLast? = some d → inClass d = false := by
  rw [List.getLast?_concat]
  rintro d ⟨⟩
  exact outside

theorem eq_nil_of_eq_around {before further : List Char}
    (split : name = before ++ (name ++ further)) : before = [] ∧ further = [] := by
  have lengths := congrArg List.length split
  rw [List.length_append, List.length_append] at lengths
  exact ⟨List.eq_nil_of_length_eq_zero (by omega), List.eq_nil_of_length_eq_zero (by omega)⟩

/-- A name that starts in a stretch ends in it, since all of its characters are of the class. -/
theorem exists_rest_of_stretch (all : ∀ c ∈ name, inClass c = true)
    {stretch rest before after : List Char} (ends : ∀ c, rest.head? = some c → inClass c = false)
    (split : stretch ++ rest = before ++ (name ++ after))
    (starts : before.length < stretch.length) :
    ∃ further, stretch = before ++ (name ++ further) ∧ after = further ++ rest := by
  rcases List.append_eq_append_iff.mp split with ⟨gap, longer, _tail⟩ | ⟨gap, rfl, inside⟩
  · rw [longer, List.length_append] at starts
    omega
  · rcases List.append_eq_append_iff.mp inside with ⟨further, rfl, rfl⟩ | ⟨excess, rfl, outside⟩
    · exact ⟨further, rfl, rfl⟩
    · cases excess with
      | nil => exact ⟨[], by rw [List.append_nil, List.append_nil], outside.symm⟩
      | cons c more =>
          have held := all c (List.mem_append_right gap List.mem_cons_self)
          have left := ends c (by rw [outside]; rfl)
          exact absurd held (Bool.eq_false_iff.mp left)

/-- A name that does not start in a stretch starts behind the character that ends it. -/
theorem exists_gap_of_stretch (nonempty : name ≠ []) (allName : ∀ c ∈ name, inClass c = true)
    {stretch rest before after : List Char} {c : Char} (outside : inClass c = false)
    (split : stretch ++ c :: rest = before ++ (name ++ after))
    (late : ¬before.length < stretch.length) :
    ∃ gap, before = stretch ++ c :: gap ∧ rest = gap ++ (name ++ after) := by
  have longer : stretch <+: before := by
    apply List.prefix_of_prefix_length_le (List.prefix_append stretch (c :: rest))
    · rw [split]
      exact List.prefix_append before (name ++ after)
    · omega
  obtain ⟨gap, rfl⟩ := longer
  rw [List.append_assoc] at split
  have behind := List.append_cancel_left split
  cases gap with
  | nil =>
      obtain ⟨d, further, rfl⟩ := List.exists_cons_of_ne_nil nonempty
      obtain ⟨rfl, _rest⟩ := List.cons.inj behind
      exact absurd (allName c List.mem_cons_self) (Bool.eq_false_iff.mp outside)
  | cons d gap =>
      obtain ⟨rfl, splitRest⟩ := List.cons.inj behind
      exact ⟨gap, rfl, splitRest⟩

/-- In a stretch, the name stands alone only if it is the whole stretch. -/
theorem isIsolated_iff_of_stretch {passed stretch rest before further : List Char}
    (all : ∀ c ∈ stretch, inClass c = true) (opens : IsIsolated inClass passed rest)
    (split : stretch = before ++ (name ++ further)) :
    IsIsolated inClass (passed ++ before) (further ++ rest) ↔ stretch = name := by
  constructor
  · rintro ⟨beforeName, afterName⟩
    have first : before = [] := by
      rcases List.eq_nil_or_concat before with empty | ⟨front, c, ended⟩
      · exact empty
      · rw [List.concat_eq_append] at ended
        subst ended
        have outside := beforeName c (by rw [← List.append_assoc, List.getLast?_concat])
        have listed : c ∈ stretch := by
          rw [split]
          exact List.mem_append_left _ (List.mem_append_right front List.mem_cons_self)
        exact absurd (all c listed) (Bool.eq_false_iff.mp outside)
    have none : further = [] := by
      cases further with
      | nil => rfl
      | cons c more =>
          have listed : c ∈ stretch := by
            rw [split]
            exact List.mem_append_right _ (List.mem_append_right _ List.mem_cons_self)
          exact absurd (all c listed) (Bool.eq_false_iff.mp (afterName c rfl))
    rw [split, first, none, List.nil_append, List.append_nil]
  · intro same
    rw [same] at split
    obtain ⟨rfl, rfl⟩ := eq_nil_of_eq_around split
    rw [List.append_nil, List.nil_append]
    exact opens

theorem replaceFrom_stretch (value : List Char) (nonempty : name ≠ [])
    (allName : ∀ c ∈ name, inClass c = true) {passed stretch rest : List Char}
    (all : ∀ c ∈ stretch, inClass c = true) (opens : IsIsolated inClass passed rest)
    (alike : StandsAlike inClass name passed (stretch ++ rest)) :
    replaceFrom name value 0 passed.getLast? (stretch ++ rest) =
      replacing name value stretch ++
        replaceFrom name value 0 (passed ++ stretch).getLast? rest := by
  by_cases same : stretch = name
  · have whole : IsWholeWord name passed rest := by
      have here := (alike [] rest (by rw [same, List.nil_append])).mpr
      rw [List.append_nil] at here
      exact here opens
    rw [replacing, if_pos same, same]
    exact replaceFrom_name nonempty whole
  · rw [replacing, if_neg same]
    apply replaceFrom_copy nonempty
    intro before after split starts whole
    obtain ⟨further, inside, rfl⟩ := exists_rest_of_stretch allName opens.after split starts
    have isolated := (alike before (further ++ rest) split).mp whole
    exact same ((isIsolated_iff_of_stretch all opens inside).mp isolated)

theorem replaceFrom_cons_outside (nonempty : name ≠ []) (allName : ∀ c ∈ name, inClass c = true)
    {passed : List Char} {c : Char} (outside : inClass c = false) (rest : List Char) :
    replaceFrom name value 0 passed.getLast? (c :: rest) =
      c :: replaceFrom name value 0 (some c) rest := by
  apply replaceFrom_cons_of_not_here
  apply standsHere_eq_false nonempty
  intro after split
  obtain ⟨d, further, rfl⟩ := List.exists_cons_of_ne_nil nonempty
  obtain ⟨rfl, _rest⟩ := List.cons.inj split
  exact absurd (allName c List.mem_cons_self) (Bool.eq_false_iff.mp outside)

/-- Where the name has boundaries on its sides exactly as a stretch, replacing it is replacing the
stretches that are equal to it. -/
theorem replaceFrom_eq_mapStretches (nonempty : name ≠ [])
    (allName : ∀ c ∈ name, inClass c = true) {passed text : List Char}
    (ended : ∀ c, passed.getLast? = some c → inClass c = false)
    (alike : StandsAlike inClass name passed text) :
    replaceFrom name value 0 passed.getLast? text =
      mapStretches inClass (replacing name value) text := by
  induction text using stretch_induction inClass generalizing passed with
  | last stretch all =>
      rw [← List.append_nil stretch] at alike
      have opens : IsIsolated inClass passed [] := ⟨ended, fun _ none => nomatch none⟩
      have step := replaceFrom_stretch value nonempty allName all opens alike
      rwa [replaceFrom_nil nonempty, List.append_nil, List.append_nil,
        ← mapStretches_of_all (replacing name value) all] at step
  | before stretch c rest all outside ih =>
      have next := head?_cons_outside outside rest
      have further : StandsAlike inClass name (passed ++ stretch ++ [c]) rest := alike.behind.behind
      have later := ih (getLast?_concat_outside outside (passed ++ stretch)) further
      rw [List.getLast?_concat] at later
      rw [replaceFrom_stretch value nonempty allName all ⟨ended, next⟩ alike,
        replaceFrom_cons_outside nonempty allName outside, later,
        mapStretches_stretch_cons _ all outside]

theorem getLast?_nil_outside (c : Char) (last : ([] : List Char).getLast? = some c) :
    inClass c = false := nomatch last

theorem replaceWord_of_compiles (usable : Pattern.Compiles (NamePattern.word name))
    (value text : List Char) : replaceWord name value text = replaceFrom name value 0 none text :=
  if_pos usable

theorem replaceWord_of_not_compiles (tooLarge : ¬Pattern.Compiles (NamePattern.word name))
    (value text : List Char) : replaceWord name value text = text :=
  if_neg tooLarge

theorem replaceWord_eq_mapStretches (usable : Pattern.Compiles (NamePattern.word name))
    (nonempty : name ≠ []) (allName : ∀ c ∈ name, inClass c = true) {text : List Char}
    (alike : StandsAlike inClass name [] text) (value : List Char) :
    replaceWord name value text = mapStretches inClass (replacing name value) text := by
  rw [replaceWord_of_compiles usable]
  exact replaceFrom_eq_mapStretches nonempty allName getLast?_nil_outside alike

end Stretches

end LoopLesson
