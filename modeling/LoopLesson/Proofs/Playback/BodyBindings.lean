import LoopLesson.Proofs.Loop.Reading
import LoopLesson.Proofs.Playback.ItemBodies
import LoopLesson.Proofs.Statement.Simultaneous
import LoopLesson.Proofs.Statement.WholeIdentifiers

/-!
What the body of a loop sees can be put into it at once.

The values that a body sees are shown numbers.  The words of a shown number start with a digit, also
where the letter of an exponent belongs to one, and no name of a loop does.  So none of the values
shows a name of the loop, and a name without dollar signs is a word.
-/

namespace LoopLesson

open Text

/-- Every word of the text that is not empty starts with a digit. -/
def LedByDigits (text : List Char) : Prop :=
  ∀ word ∈ stretchList isWord text, ∀ c, word.head? = some c → c.isDigit = true

section Words

variable {text : List Char}

theorem isWord_of_isDigit {c : Char} (digit : c.isDigit = true) : isWord c = true := by
  apply isWord_of_isIdentifierPart
  · unfold isIdentifierPart
    rw [digit, Bool.or_true]
  · rintro rfl
    exact absurd digit (by decide)

theorem ledByDigits_of_word (words : ∀ c ∈ text, isWord c = true)
    (starts : ∀ c, text.head? = some c → c.isDigit = true) : LedByDigits text := by
  unfold LedByDigits
  rw [stretchList_of_all words]
  intro word listed
  rw [List.mem_singleton.mp listed]
  exact starts

theorem ledByDigits_of_digits (digits : ∀ c ∈ text, c.isDigit = true) : LedByDigits text :=
  ledByDigits_of_word (fun c member => isWord_of_isDigit (digits c member))
    fun c head => digits c (List.mem_of_mem_head? head)

theorem LedByDigits.append_cons {left right : List Char} (led : LedByDigits left) {c : Char}
    (outside : isWord c = false) (ledRight : LedByDigits right) :
    LedByDigits (left ++ c :: right) := by
  intro word listed
  rw [stretchList_append_cons left outside] at listed
  rcases List.mem_append.mp listed with here | behind
  · exact led word here
  · exact ledRight word behind

theorem LedByDigits.behind {c : Char} (outside : isWord c = false) (led : LedByDigits text) :
    LedByDigits (c :: text) := by
  have nothing : LedByDigits [] := ledByDigits_of_digits (List.forall_mem_nil _)
  exact nothing.append_cons outside led

/-- The letter of an exponent belongs to the word of the digits before it. -/
theorem ledByDigits_before_exponent (nonempty : text ≠ [])
    (digits : ∀ c ∈ text, c.isDigit = true) : LedByDigits (text ++ ['e']) := by
  apply ledByDigits_of_word
  · intro c member
    rcases List.mem_append.mp member with digit | letter
    · exact isWord_of_isDigit (digits c digit)
    · rw [List.mem_singleton.mp letter]
      decide
  · obtain ⟨first, rest, rfl⟩ := List.exists_cons_of_ne_nil nonempty
    rintro _c ⟨⟩
    exact digits first List.mem_cons_self

end Words

section Numbers

open Number

variable {digits : List Char}

theorem isDigit_of_mem_toDigits (n : Nat) : ∀ c ∈ Nat.toDigits 10 n, c.isDigit = true :=
  fun _c member => Nat.isDigit_of_mem_toDigits (by decide) (by decide) member

theorem ledByDigits_naturalText (n : Nat) : LedByDigits (naturalText n).toList := by
  unfold naturalText
  rw [String.toList_ofList]
  exact ledByDigits_of_digits (isDigit_of_mem_toDigits n)

theorem ledByDigits_integerText (n : Int) : LedByDigits (integerText n).toList := by
  unfold integerText
  split
  · rw [String.toList_append]
    exact (ledByDigits_naturalText n.natAbs).behind (by decide)
  · exact ledByDigits_naturalText n.natAbs

theorem ledByDigits_positional (all : ∀ c ∈ digits, c.isDigit = true) (point : Int) :
    LedByDigits (Layout.positional digits point) := by
  have zeros (count : Nat) : ∀ c ∈ List.replicate count '0', c.isDigit = true := by
    intro c member
    rw [List.eq_of_mem_replicate member]
    decide
  unfold Layout.positional
  split
  · have zero : LedByDigits ['0'] := ledByDigits_of_digits (zeros 1)
    apply zero.append_cons (by decide)
    exact ledByDigits_of_digits (List.forall_mem_append.mpr ⟨zeros _, all⟩)
  · split
    · apply LedByDigits.append_cons _ (by decide)
      · exact ledByDigits_of_digits fun c member => all c (List.mem_of_mem_drop member)
      · exact ledByDigits_of_digits fun c member => all c (List.mem_of_mem_take member)
    · exact ledByDigits_of_digits (List.forall_mem_append.mpr ⟨all, zeros _⟩)

theorem ledByDigits_scientific (nonempty : digits ≠ []) (all : ∀ c ∈ digits, c.isDigit = true)
    (exponent : Int) : LedByDigits (Layout.console.scientific digits exponent) := by
  have mantissa : LedByDigits
      ((if digits.length ≤ 1 then digits else digits.take 1 ++ '.' :: digits.drop 1) ++ ['e']) := by
    split
    · exact ledByDigits_before_exponent nonempty all
    · rename_i several
      rw [List.append_assoc, List.cons_append]
      apply LedByDigits.append_cons _ (by decide)
      · apply ledByDigits_before_exponent
        · apply List.ne_nil_of_length_pos
          rw [List.length_drop]
          omega
        · exact fun c member => all c (List.mem_of_mem_drop member)
      · exact ledByDigits_of_digits fun c member => all c (List.mem_of_mem_take member)
  have power := ledByDigits_of_digits (isDigit_of_mem_toDigits exponent.natAbs)
  -- The sign of the exponent ends the word that its letter belongs to.
  have written : ∃ sign, isWord sign = false ∧ Layout.console.scientific digits exponent =
      (if digits.length ≤ 1 then digits else digits.take 1 ++ '.' :: digits.drop 1) ++ ['e'] ++
        sign :: Nat.toDigits 10 exponent.natAbs := by
    unfold Layout.scientific
    dsimp only
    by_cases negative : exponent < 0
    · rw [if_pos negative]
      exact ⟨'-', by decide, by simp⟩
    · rw [if_neg negative]
      exact ⟨'+', by decide, by simp [Layout.console]⟩
  obtain ⟨sign, outside, same⟩ := written
  rw [same]
  exact mantissa.append_cons outside power

theorem ledByDigits_decimalText {decimal : Decimal} (nonzero : decimal.digits ≠ 0) :
    LedByDigits (Layout.console.decimalText decimal) := by
  obtain ⟨_n, _zeros, ⟨nonempty, all, _value⟩, _⟩ := Layout.digits_significantDigits nonzero
  unfold Layout.decimalText
  dsimp only
  split
  · exact ledByDigits_positional all _
  · exact ledByDigits_scientific nonempty all _

theorem ledByDigits_text {x : Binary64} (finite : x.isFinite = true) :
    LedByDigits x.text.toList := by
  cases zero : x.isZero with
  | true =>
      rw [Binary64.text_of_isZero zero]
      exact ledByDigits_of_digits (List.all_eq_true.mp (by decide))
  | false =>
      have led := ledByDigits_decimalText (Binary64.digits_shortest_ne_zero finite zero)
      rw [Binary64.text_of_nonzero finite zero]
      unfold Binary64.signed
      split
      · exact led.behind (by decide)
      · exact led

end Numbers

section Names

theorem not_isDigit_of_isIdentifierStart {c : Char} (start : isIdentifierStart c = true) :
    ¬c.isDigit = true := by
  intro digit
  have digitBounds := toNat_of_isDigit digit
  simp only [isIdentifierStart, Bool.or_eq_true, decide_eq_true_eq] at start
  rcases start with (letter | rfl) | rfl
  · have bounds := toNat_of_isAlpha letter
    omega
  · exact absurd digit (by decide)
  · exact absurd digit (by decide)

/-- Names without dollar signs and values whose words start with digits do not mix. -/
theorem unmixed_of_ledByDigits {entries : List (String × String)}
    (each : ∀ entry ∈ entries, IsIdentifier entry.1.toList ∧ '$' ∉ entry.1.toList ∧
      LedByDigits entry.2.toList) : Unmixed entries where
  nonempty := fun entry member => (each entry member).1.ne_nil
  words := by
    intro entry member c part
    obtain ⟨identifier, noDollar, _led⟩ := each entry member
    apply isWord_of_isIdentifierPart (identifier.all_parts c part)
    rintro rfl
    exact noDollar part
  fresh := by
    intro entry member other listed shown
    obtain ⟨⟨c, rest, spelled, start, _parts⟩, _noDollar, _led⟩ := each other listed
    obtain ⟨_identifier, _noDollar, led⟩ := each entry member
    apply not_isDigit_of_isIdentifierStart start
    apply led _ shown
    rw [spelled]
    rfl

theorem CountingLoop.isIdentifier_name {raw : Script} {loop : CountingLoop}
    (readable : read raw = .ok loop) : IsIdentifier loop.name.toList := by
  obtain ⟨result, outcome⟩ := exists_outcome raw
  rw [outcome.read_eq] at readable
  subst readable
  cases outcome with
  | readable readings => exact StartClause.isIdentifier_of_readsAs readings.startReads

theorem exists_reading_of_search? {α : Type} {read : Option Char → List Char → Option α}
    {before : Option Char} {text : List Char} {found : α}
    (searched : search? read before text = some found) :
    ∃ earlier rest, read earlier rest = some found := by
  induction text generalizing before with
  | nil => exact ⟨before, [], searched⟩
  | cons c rest ih =>
      rw [search?] at searched
      cases here : read before (c :: rest) with
      | some reading =>
          rw [here] at searched
          exact ⟨before, c :: rest, here.trans searched⟩
      | none =>
          rw [here] at searched
          exact ih searched

theorem isIdentifier_of_nameBeforeOf? {text name : List Char}
    (found : nameBeforeOf? text = some name) : IsIdentifier name := by
  obtain ⟨⟨front, rest⟩, named, behind⟩ := Option.bind_eq_some_iff.mp found
  obtain ⟨_gap, _skipped, afterGap⟩ := Option.bind_eq_some_iff.mp behind
  obtain ⟨_rest, _of, ended⟩ := Option.bind_eq_some_iff.mp afterGap
  split at ended
  · rw [← Option.some.inj ended]
    exact isIdentifier_of_identifier? named
  · cases ended

theorem isIdentifier_of_itemName? {text name : List Char} (found : itemName? text = some name) :
    IsIdentifier name := by
  obtain ⟨earlier, rest, reading⟩ := exists_reading_of_search? found
  split at reading
  · obtain ⟨_word, _declared, _gap, declared, _split, _some, _blank, named⟩ :=
      (afterDeclarator?_eq_some_iff startsSolid_of_nameBeforeOf?).mp reading
    exact isIdentifier_of_nameBeforeOf? named
  · cases reading

theorem isIdentifier_index : IsIdentifier "index".toList :=
  ⟨'i', "ndex".toList, rfl, by decide, List.all_eq_true.mp (by decide)⟩

theorem ItemLoop.isIdentifier_itemName {raw : Script} {loop : ItemLoop}
    (readable : read raw = .ok loop) : IsIdentifier loop.itemName.toList := by
  obtain ⟨_itemsRead, named, _scripted⟩ := read_eq_ok readable
  rw [named]
  unfold itemNameOf
  cases found : itemName? raw.trimmed.condition.toList with
  | some name =>
      rw [Option.map_some, Option.getD_some, String.toList_ofList]
      exact isIdentifier_of_itemName? found
  | none => exact ⟨'v', "alue".toList, rfl, by decide, List.all_eq_true.mp (by decide)⟩

end Names

section Loops

theorem CountingLoop.unmixed_bindings {raw : Script} {loop : CountingLoop}
    (readable : read raw = .ok loop) (noDollar : '$' ∉ loop.name.toList) (value : Int) :
    Unmixed (loop.bindings value).entries := by
  apply unmixed_of_ledByDigits
  intro entry member
  have same : entry = (loop.name, Number.integerText value) := List.mem_singleton.mp member
  rw [same]
  exact ⟨isIdentifier_name readable, noDollar, ledByDigits_integerText value⟩

theorem ItemLoop.unmixed_bindings {raw : Script} {loop : ItemLoop}
    (readable : read raw = .ok loop) (noDollar : '$' ∉ loop.itemName.toList) {index : Nat}
    {x : Number.Binary64} (item : x ∈ loop.items) :
    Unmixed (loop.bindings index x).entries := by
  obtain ⟨itemsRead, _named, _scripted⟩ := read_eq_ok readable
  apply unmixed_of_ledByDigits
  intro entry member
  rcases Bindings.mem_place member with place | earlier
  · rw [place]
    have noDollarIndex : '$' ∉ "index".toList := by decide
    exact ⟨isIdentifier_index, noDollarIndex, ledByDigits_naturalText index⟩
  · have same : entry = (loop.itemName, x.text) := List.mem_singleton.mp earlier
    rw [same]
    exact ⟨isIdentifier_itemName readable, noDollar,
      ledByDigits_text (isFinite_of_readItems itemsRead x item)⟩

end Loops

section AtOnce

/-- If the names are words and no value shows one of them, every word of the text that can be looked
for is replaced at once: the order of the names does not matter, nor does a name that is no word of
the text.  What the body of a loop sees is like this if its variable holds no dollar sign.  A word
can be looked for unless it is very long. -/
theorem substitute_at_once :
    (∀ (bindings : Bindings) (text : List Char), Unmixed bindings.entries →
      substitute bindings text = mapStretches isWord
        (fun word =>
          if Pattern.Compiles (NamePattern.word word) then
            (bindings.get? (String.ofList word)).elim word String.toList
          else
            word) text ∧
      (∀ entries : List (String × String), entries.Perm bindings.entries →
        replaceEach entries text = substitute bindings text) ∧
      ∀ name : String, name.toList ∉ stretchList isWord text →
        substitute (bindings.without name) text = substitute bindings text) ∧
    (∀ (raw : Script) (loop : CountingLoop), CountingLoop.read raw = .ok loop →
      '$' ∉ loop.name.toList → ∀ value : Int, Unmixed (loop.bindings value).entries) ∧
    (∀ (raw : Script) (loop : ItemLoop), ItemLoop.read raw = .ok loop →
      '$' ∉ loop.itemName.toList → ∀ (index : Nat) (x : Number.Binary64),
        loop.items[index]? = some x → Unmixed (loop.bindings index x).entries) ∧
    ∀ word : List Char, Pattern.Compiles (NamePattern.word word) ↔ byteLength word ≤ 327671 := by
  refine ⟨?_, ?_, ?_, NamePattern.word_compiles_iff⟩
  · intro bindings text unmixed
    rw [substitute_eq_replaceEach bindings]
    refine ⟨replaceEach_eq_mapStretches unmixed text, ?_, ?_⟩
    · intro entries reordered
      exact replaceEach_eq_of_perm unmixed bindings.nodup_names reordered text
    · intro name absent
      rw [substitute_eq_replaceEach]
      exact replaceEach_filter_ne unmixed bindings.nodup_names absent
  · intro raw loop readable noDollar value
    exact CountingLoop.unmixed_bindings readable noDollar value
  · intro raw loop readable noDollar index x found
    exact ItemLoop.unmixed_bindings readable noDollar (List.mem_of_getElem? found)

/-- A loop whose item has the name of the letter that its value shows. -/
def exponentScript : Script :=
  { start := "[1e21]", condition := "for (let e of xs)", body := "console.log(index + e)" }

theorem exponent_letter_kept :
    ∃ loop x, ItemLoop.read exponentScript = .ok loop ∧ loop.items[0]? = some x ∧
      '$' ∉ loop.itemName.toList ∧ x.text = "1e+21" ∧
      substitute (loop.bindings 0 x) "index + e + 1e".toList = "0 + 1e+21 + 1e".toList ∧
      replaceEach (loop.bindings 0 x).entries.reverse "index + e + 1e".toList =
        "0 + 1e+21 + 1e".toList ∧
      substitute ((loop.bindings 0 x).without "e") "index + 1e".toList = "0 + 1e".toList := by
  let x : Number.Binary64 := .ofBits 0x444B1AE4D6E2EF50
  let loop : ItemLoop :=
    { items := [x], message := "Value", itemName := "e", script := exponentScript }
  have readable : ItemLoop.read exponentScript = .ok loop := by decide +kernel
  have noDollar : '$' ∉ loop.itemName.toList := by decide
  obtain ⟨atOnce, _counting, items, _usable⟩ := substitute_at_once
  have unmixed := items exponentScript loop readable noDollar 0 x rfl
  obtain ⟨once, reordered, _⟩ := atOnce _ "index + e + 1e".toList unmixed
  obtain ⟨onceShort, _, left⟩ := atOnce _ "index + 1e".toList unmixed
  have result : substitute (loop.bindings 0 x) "index + e + 1e".toList =
      "0 + 1e+21 + 1e".toList := by
    rw [once]
    decide +kernel
  refine ⟨loop, x, readable, rfl, noDollar, by decide +kernel, result, ?_, ?_⟩
  · rw [reordered _ (List.reverse_perm _), result]
  · rw [left "e" (by decide +kernel), onceShort]
    decide +kernel

section LongNames

variable {count : Nat}

theorem isWord_of_mem_replicate {c : Char} (member : c ∈ List.replicate count 'a') :
    isWord c = true := by
  rw [List.eq_of_mem_replicate member]
  decide

theorem unmixed_replicate (several : 1 < count) :
    Unmixed [(String.ofList (List.replicate count 'a'), "7")] := by
  have letters : (String.ofList (List.replicate count 'a')).toList = List.replicate count 'a' :=
    String.toList_ofList
  refine ⟨?_, ?_, ?_⟩
  · intro entry member
    rw [List.mem_singleton.mp member, letters]
    exact List.ne_nil_of_length_pos (by rw [List.length_replicate]; omega)
  · intro entry member c
    rw [List.mem_singleton.mp member, letters]
    exact isWord_of_mem_replicate
  · intro entry member other listed shown
    have alone : stretchList isWord "7".toList = [['7']] := by decide
    rw [List.mem_singleton.mp member, List.mem_singleton.mp listed, letters, alone] at shown
    have short := congrArg List.length (List.mem_singleton.mp shown)
    rw [List.length_replicate] at short
    exact absurd short (Nat.ne_of_gt several)

theorem get?_single (name value : String) :
    (Bindings.ofList [(name, value)]).get? name = some value := by
  change [(name, value)].lookup name = some value
  rw [List.lookup_cons, beq_self_eq_true]

/-- A name that is so long that it cannot be looked for stays where it should be replaced. -/
theorem long_name_kept :
    ∃ name : String, Unmixed (Bindings.ofList [(name, "7")]).entries ∧
      substitute (.ofList [(name, "7")]) name.toList = name.toList ∧
      mapStretches isWord (fun word =>
          ((Bindings.ofList [(name, "7")]).get? (String.ofList word)).elim word String.toList)
        name.toList = "7".toList := by
  have tooLarge : ¬Pattern.Compiles (NamePattern.word (List.replicate 350000 'a')) := by
    rw [NamePattern.word_compiles_iff, byteLength_replicate]
    decide
  refine ⟨String.ofList (List.replicate 350000 'a'), unmixed_replicate (by decide), ?_, ?_⟩
  · rw [substitute_single, String.toList_ofList, replaceWord_of_not_compiles tooLarge]
  · rw [String.toList_ofList, mapStretches_of_all _ fun _ => isWord_of_mem_replicate, get?_single]
    rfl

end LongNames

end AtOnce

end LoopLesson
