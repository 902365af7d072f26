import LoopLesson.Proofs.Statement.WholeWords

/-!
Replacing names one after the other is replacing all of them at once.

Names are replaced in the text that the names before them have left.  If the names are words and no
value shows one of them as a word, then what has been put into the text is never touched again, and
every word of the text is replaced by its own value, unless it is so long that its pattern cannot be
used.  So the order of the names does not matter, nor does a name that is no word of the text.
-/

namespace LoopLesson

open Text

/-- Replaces the names of a list of entries one after the other. -/
def replaceEach (entries : List (String × String)) (text : List Char) : List Char :=
  entries.foldl (fun text entry => replaceWord entry.1.toList entry.2.toList text) text

theorem substitute_eq_replaceEach (bindings : Bindings) (text : List Char) :
    substitute bindings text = replaceEach bindings.entries text := rfl

/-- What stands for a word: its value, or itself if it is not the name of an entry or cannot be
looked for. -/
def wordValue (entries : List (String × String)) (word : List Char) : List Char :=
  if Pattern.Compiles (NamePattern.word word) then
    (entries.lookup (String.ofList word)).elim word String.toList
  else
    word

/-- The names are words, and no value shows one of them as a word. -/
structure Unmixed (entries : List (String × String)) : Prop where
  nonempty : ∀ entry ∈ entries, entry.1.toList ≠ []
  words : ∀ entry ∈ entries, ∀ c ∈ entry.1.toList, isWord c = true
  fresh : ∀ entry ∈ entries, ∀ other ∈ entries,
    other.1.toList ∉ stretchList isWord entry.2.toList

theorem Unmixed.of_subset {entries others : List (String × String)} (unmixed : Unmixed entries)
    (subset : others ⊆ entries) : Unmixed others where
  nonempty := fun entry member => unmixed.nonempty entry (subset member)
  words := fun entry member => unmixed.words entry (subset member)
  fresh := fun entry member other listed =>
    unmixed.fresh entry (subset member) other (subset listed)

section Words

variable {name : List Char}

theorem standsAlike_of_word (nonempty : name ≠ []) (words : ∀ c ∈ name, isWord c = true)
    (passed text : List Char) : StandsAlike isWord name passed text := by
  intro before after _split
  exact isWholeWord_iff_isIsolated (List.head?_eq_some_head nonempty)
    (words _ (List.head_mem nonempty)) (List.getLast?_eq_some_getLast nonempty)
    (words _ (List.getLast_mem nonempty))

/-- A name that is a word is replaced where it is a word of the text. -/
theorem replaceWord_of_word (usable : Pattern.Compiles (NamePattern.word name))
    (nonempty : name ≠ []) (words : ∀ c ∈ name, isWord c = true) (value text : List Char) :
    replaceWord name value text = mapStretches isWord (replacing name value) text :=
  replaceWord_eq_mapStretches usable nonempty words (standsAlike_of_word nonempty words [] text)
    value

end Words

section Values

variable {entries : List (String × String)}

theorem wordValue_of_not_named {word : List Char}
    (unnamed : ∀ entry ∈ entries, entry.1.toList ≠ word) : wordValue entries word = word := by
  have missing : entries.lookup (String.ofList word) = none := by
    apply List.lookup_eq_none_iff.mpr
    intro entry member
    apply bne_iff_ne.mpr
    intro same
    apply unnamed entry member
    rw [← same, String.toList_ofList]
  unfold wordValue
  rw [missing]
  exact ite_self word

theorem wordValue_cons_of_compiles {name : String}
    (usable : Pattern.Compiles (NamePattern.word name.toList)) (value : String)
    (word : List Char) :
    wordValue ((name, value) :: entries) word =
      if word = name.toList then value.toList else wordValue entries word := by
  unfold wordValue
  rw [List.lookup_cons]
  by_cases same : word = name.toList
  · rw [if_pos same, same, String.ofList_toList, beq_self_eq_true, if_pos usable]
    rfl
  · have different : (String.ofList word == name) = false := by
      apply beq_eq_false_iff_ne.mpr
      rintro rfl
      exact same (String.toList_ofList).symm
    rw [if_neg same, different]

theorem wordValue_cons_of_not_compiles {name : String}
    (tooLarge : ¬Pattern.Compiles (NamePattern.word name.toList)) (value : String)
    (word : List Char) :
    wordValue ((name, value) :: entries) word = wordValue entries word := by
  unfold wordValue
  split
  next usable =>
    have different : (String.ofList word == name) = false := by
      apply beq_eq_false_iff_ne.mpr
      rintro rfl
      rw [String.toList_ofList] at tooLarge
      exact tooLarge usable
    rw [List.lookup_cons, different]
  next => rfl

/-- One name after the other, each word of the text gets its own value. -/
theorem replaceEach_eq_mapStretches (unmixed : Unmixed entries) (text : List Char) :
    replaceEach entries text = mapStretches isWord (wordValue entries) text := by
  induction entries generalizing text with
  | nil =>
      symm
      apply mapStretches_eq_self
      intro word _listed
      exact wordValue_of_not_named fun entry member => absurd member List.not_mem_nil
  | cons entry rest ih =>
      obtain ⟨name, value⟩ := entry
      have first : (name, value) ∈ (name, value) :: rest := List.mem_cons_self
      have later := ih (unmixed.of_subset (List.subset_cons_self _ rest))
      by_cases usable : Pattern.Compiles (NamePattern.word name.toList)
      case neg =>
        change replaceEach rest (replaceWord name.toList value.toList text) = _
        rw [replaceWord_of_not_compiles usable, later]
        apply mapStretches_congr
        intro word _listed
        exact (wordValue_cons_of_not_compiles usable value word).symm
      -- What is put in the place of the name holds no later name as a word.
      have kept : mapStretches isWord (wordValue rest) value.toList = value.toList := by
        apply mapStretches_eq_self
        intro word listed
        apply wordValue_of_not_named
        rintro entry member rfl
        exact unmixed.fresh _ first entry (List.mem_cons_of_mem _ member) listed
      calc replaceEach rest (replaceWord name.toList value.toList text)
          = mapStretches isWord (wordValue rest)
              (mapStretches isWord (replacing name.toList value.toList) text) := by
            rw [later,
              replaceWord_of_word usable (unmixed.nonempty _ first) (unmixed.words _ first)]
        _ = mapStretches isWord (fun word => mapStretches isWord (wordValue rest)
              (replacing name.toList value.toList word)) text :=
            mapStretches_mapStretches _ _ text
        _ = mapStretches isWord (wordValue ((name, value) :: rest)) text := by
            apply mapStretches_congr
            intro word listed
            rw [wordValue_cons_of_compiles usable, replacing]
            split
            · exact kept
            · exact mapStretches_of_all _ (all_of_mem_stretchList listed)

/-- Only the values of the words of the text matter. -/
theorem replaceEach_congr {others : List (String × String)} (unmixed : Unmixed entries)
    (unmixedOthers : Unmixed others) {text : List Char}
    (same : ∀ word ∈ stretchList isWord text,
      entries.lookup (String.ofList word) = others.lookup (String.ofList word)) :
    replaceEach entries text = replaceEach others text := by
  rw [replaceEach_eq_mapStretches unmixed, replaceEach_eq_mapStretches unmixedOthers]
  apply mapStretches_congr
  intro word listed
  unfold wordValue
  rw [same word listed]

end Values

section Order

variable {entries others : List (String × String)}

theorem lookup_eq_some_iff_mem (distinct : (entries.map Prod.fst).Nodup) {name value : String} :
    entries.lookup name = some value ↔ (name, value) ∈ entries := by
  induction entries with
  | nil => simp
  | cons entry rest ih =>
      obtain ⟨other, old⟩ := entry
      rw [List.map_cons, List.nodup_cons] at distinct
      rw [List.lookup_cons, List.mem_cons, Prod.mk.injEq]
      by_cases same : name = other
      · subst same
        have elsewhere : (name, value) ∉ rest :=
          fun member => distinct.1 (List.mem_map.mpr ⟨_, member, rfl⟩)
        simp [elsewhere, eq_comm]
      · rw [beq_eq_false_iff_ne.mpr same]
        simp [same, ih distinct.2]

theorem lookup_eq_of_mem_iff (distinct : (entries.map Prod.fst).Nodup)
    (distinctOthers : (others.map Prod.fst).Nodup) {name : String}
    (same : ∀ value, (name, value) ∈ entries ↔ (name, value) ∈ others) :
    entries.lookup name = others.lookup name := by
  apply Option.ext
  intro value
  rw [lookup_eq_some_iff_mem distinct, lookup_eq_some_iff_mem distinctOthers, same]

/-- In whatever order the names are replaced, the text becomes the same. -/
theorem replaceEach_eq_of_perm (unmixed : Unmixed entries)
    (distinct : (entries.map Prod.fst).Nodup) (reordered : others.Perm entries)
    (text : List Char) : replaceEach others text = replaceEach entries text := by
  apply replaceEach_congr (unmixed.of_subset reordered.subset) unmixed
  intro word _listed
  apply lookup_eq_of_mem_iff ((reordered.map Prod.fst).nodup_iff.mpr distinct) distinct
  exact fun value => reordered.mem_iff

/-- A name that is no word of the text may be left out. -/
theorem replaceEach_filter_ne (unmixed : Unmixed entries)
    (distinct : (entries.map Prod.fst).Nodup) {name : String} {text : List Char}
    (absent : name.toList ∉ stretchList isWord text) :
    replaceEach (entries.filter (·.1 ≠ name)) text = replaceEach entries text := by
  apply replaceEach_congr (unmixed.of_subset (List.filter_sublist.subset)) unmixed
  intro word listed
  apply lookup_eq_of_mem_iff _ distinct
  · intro value
    have different : String.ofList word ≠ name := by
      rintro rfl
      rw [String.toList_ofList] at absent
      exact absent listed
    simp [List.mem_filter, different]
  · exact distinct.sublist (List.filter_sublist.map Prod.fst)

end Order

namespace Bindings

theorem nodup_names (bindings : Bindings) : (bindings.entries.map Prod.fst).Nodup := by
  apply List.pairwise_map.mpr
  refine bindings.ordered.imp ?_
  intro earlier later before same
  exact String.lt_irrefl _ (same ▸ before)

/-- The bindings of all other names. -/
def without (bindings : Bindings) (name : String) : Bindings where
  entries := bindings.entries.filter (·.1 ≠ name)
  ordered := bindings.ordered.filter _

end Bindings

end LoopLesson
