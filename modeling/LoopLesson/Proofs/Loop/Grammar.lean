import LoopLesson.Loop.Clause
import LoopLesson.Proofs.Text.Pieces

/-!
The grammar of the clauses of a counting loop, and the proof that the readers accept exactly it, as
long as the pattern around the name can be used.

A grammar says of a text from which pieces it is put together.  The clauses are written as

  * start: an optional declarator and blanks, a name, an equals sign and a signed number;
  * condition: the name, a comparison and a signed number;
  * step: the name, an equals sign, the name again, a plus or minus sign and digits;

with any blanks between the pieces.
-/

namespace LoopLesson

open Text

def EndsInDigit (text : List Char) : Prop := ∃ c, text.getLast? = some c ∧ c.isDigit = true

namespace Number

/-- One ASCII digit or more, and the number that they write. -/
def Digits (text : List Char) (n : Nat) : Prop :=
  text ≠ [] ∧ (∀ c ∈ text, c.isDigit = true) ∧ Nat.ofDigitChars 10 text 0 = n

/-- Digits that a minus sign may precede, and the number that they write. -/
def SignedDigits (text : List Char) (n : Int) : Prop :=
  (∃ size : Nat, Digits text size ∧ n = size) ∨
    ∃ (digits : List Char) (size : Nat), text = '-' :: digits ∧ Digits digits size ∧ n = -size

theorem natural?_eq_some_iff {text : List Char} {n : Nat} :
    natural? text = some n ↔ Digits text n := by
  unfold natural? Digits
  rw [Option.ite_none_right_eq_some, Option.some.injEq, and_assoc, List.all_eq_true]

theorem integer?_minus (rest : List Char) :
    integer? ('-' :: rest) = (natural? rest).map fun size : Nat => -(size : Int) := by
  rw [integer?, if_pos rfl]
  cases natural? rest <;> rfl

theorem integer?_of_ne {c : Char} (notMinus : c ≠ '-') (rest : List Char) :
    integer? (c :: rest) = (natural? (c :: rest)).map fun size : Nat => (size : Int) := by
  rw [integer?, if_neg notMinus]
  rfl

theorem integer?_eq_some_iff {text : List Char} {n : Int} :
    integer? text = some n ↔ SignedDigits text n := by
  constructor
  · intro found
    cases text with
    | nil => cases found
    | cons c rest =>
        by_cases minus : c = '-'
        · subst c
          rw [integer?_minus] at found
          obtain ⟨size, digits, value⟩ := Option.map_eq_some_iff.mp found
          exact .inr ⟨rest, size, rfl, natural?_eq_some_iff.mp digits, value.symm⟩
        · rw [integer?_of_ne minus] at found
          obtain ⟨size, digits, value⟩ := Option.map_eq_some_iff.mp found
          exact .inl ⟨size, natural?_eq_some_iff.mp digits, value.symm⟩
  · rintro (⟨size, digits, rfl⟩ | ⟨rest, size, rfl, digits, rfl⟩)
    · cases text with
      | nil => exact absurd rfl digits.1
      | cons c rest =>
          have notMinus : c ≠ '-' := by
            intro minus
            subst c
            exact absurd (digits.2.1 '-' List.mem_cons_self) (by decide)
          rw [integer?_of_ne notMinus, natural?_eq_some_iff.mpr digits]
          rfl
    · rw [integer?_minus, natural?_eq_some_iff.mpr digits]
      rfl

theorem word?_eq_some_iff {text : List Char} {n : Int} :
    word? text = some n ↔ SignedDigits text n ∧ FitsWord n := by
  unfold word?
  rw [Option.filter_eq_some_iff, integer?_eq_some_iff, decide_eq_true_iff]

theorem Digits.startsSolid {text : List Char} {n : Nat} (digits : Digits text n) :
    StartsSolid text := by
  intro c head
  exact isBlank_of_isDigit (digits.2.1 c (List.mem_of_mem_head? head))

theorem SignedDigits.startsSolid {text : List Char} {n : Int} (signed : SignedDigits text n) :
    StartsSolid text := by
  rcases signed with ⟨size, digits, _value⟩ | ⟨rest, size, rfl, _digits, _value⟩
  · exact digits.startsSolid
  · exact startsSolid_cons (by decide) rest

theorem Digits.endsInDigit {text : List Char} {n : Nat} (digits : Digits text n)
    (front : List Char) : EndsInDigit (front ++ text) := by
  obtain ⟨nonempty, allDigits, _value⟩ := digits
  refine ⟨text.getLast nonempty, ?_, allDigits _ (List.getLast_mem nonempty)⟩
  rw [List.getLast?_append, List.getLast?_eq_some_getLast nonempty, Option.some_or]

theorem SignedDigits.endsInDigit {text : List Char} {n : Int} (signed : SignedDigits text n)
    (front : List Char) : EndsInDigit (front ++ text) := by
  rcases signed with ⟨size, digits, _value⟩ | ⟨rest, size, rfl, digits, _value⟩
  · exact digits.endsInDigit front
  · rw [List.append_cons]
    exact digits.endsInDigit (front ++ ['-'])

end Number

section BehindBlanks

/-- What can be read behind blanks, if it does not start with one. -/
theorem written_behind_blanks {written : List Char → Prop}
    (solid : ∀ rest, written rest → StartsSolid rest) {text : List Char} :
    written (skipBlanks text) ↔
      ∃ blanks rest, AllBlank blanks ∧ text = blanks ++ rest ∧ written rest := by
  constructor
  · intro found
    obtain ⟨blanks, blank, split⟩ := exists_blanks_skipBlanks text
    exact ⟨blanks, skipBlanks text, blank, split, found⟩
  · rintro ⟨blanks, rest, blank, rfl, found⟩
    rw [skipBlanks_append blank (solid rest found)]
    exact found

theorem skipBlanks_eq_iff {text rest : List Char} (solid : StartsSolid rest) :
    skipBlanks text = rest ↔ ∃ blanks, AllBlank blanks ∧ text = blanks ++ rest := by
  constructor
  · intro skipped
    obtain ⟨blanks, blank, split⟩ := exists_blanks_skipBlanks text
    rw [skipped] at split
    exact ⟨blanks, blank, split⟩
  · rintro ⟨blanks, blank, rfl⟩
    exact skipBlanks_append blank solid

theorem equals_behind_blanks {text rest : List Char} :
    after? "=" (skipBlanks text) = some rest ↔
      ∃ blanks, AllBlank blanks ∧ text = blanks ++ '=' :: rest := by
  rw [after?_eq_some_iff, eq_comm]
  exact skipBlanks_eq_iff (startsSolid_cons (by decide) rest)

theorem word?_behind_blanks {text : List Char} {value : Int} :
    Number.word? (skipBlanks text) = some value ↔
      ∃ blanks number, AllBlank blanks ∧ text = blanks ++ number ∧
        Number.SignedDigits number value ∧ Number.FitsWord value := by
  rw [Number.word?_eq_some_iff]
  refine written_behind_blanks fun number (written : Number.SignedDigits number value ∧ _) => ?_
  exact written.1.startsSolid

theorem isIdentifierPart_of_isBlank {c : Char} (blank : isBlank c = true) :
    isIdentifierPart c = false := by
  apply Bool.eq_false_iff.mpr
  intro part
  have solid := isBlank_of_isIdentifierPart part
  rw [blank] at solid
  cases solid

theorem head?_blanks_append {blanks : List Char} (blank : AllBlank blanks) {mark : Char}
    (outside : isIdentifierPart mark = false) (rest : List Char) :
    ∀ c, (blanks ++ mark :: rest).head? = some c → isIdentifierPart c = false := by
  intro c head
  cases blanks with
  | nil =>
      cases head
      exact outside
  | cons first further =>
      cases head
      exact isIdentifierPart_of_isBlank (blank c List.mem_cons_self)

end BehindBlanks

section Declarators

/-- Declarators differ in their first letters, so no text starts with two of them. -/
theorem declarator_unique {word other : String} (listed : word ∈ declarators)
    (otherListed : other ∈ declarators) {rest otherRest : List Char}
    (same : word.toList ++ rest = other.toList ++ otherRest) : word = other := by
  simp only [declarators, List.mem_cons, List.not_mem_nil, or_false] at listed otherListed
  rcases listed with rfl | rfl | rfl <;> rcases otherListed with rfl | rfl | rfl <;>
    first | rfl | cases same

theorem isIdentifier_of_mem_declarators {word : String} (listed : word ∈ declarators) :
    IsIdentifier word.toList := by
  simp only [declarators, List.mem_cons, List.not_mem_nil, or_false] at listed
  rcases listed with rfl | rfl | rfl
  · exact ⟨'l', ['e', 't'], rfl, by decide, List.all_eq_true.mp (by decide)⟩
  · exact ⟨'v', ['a', 'r'], rfl, by decide, List.all_eq_true.mp (by decide)⟩
  · exact ⟨'c', ['o', 'n', 's', 't'], rfl, by decide, List.all_eq_true.mp (by decide)⟩

theorem behind_declarator_iff {α : Type} {read : List Char → Option α}
    (solid : ∀ {rest found}, read rest = some found → StartsSolid rest) {word : String}
    {text : List Char} {found : α} :
    ((after? word text).bind fun rest => (skipSomeBlanks? rest).bind read) = some found ↔
      ∃ blanks rest, text = word.toList ++ (blanks ++ rest) ∧ blanks ≠ [] ∧ AllBlank blanks ∧
        read rest = some found := by
  constructor
  · intro reading
    obtain ⟨afterWord, worded, reading⟩ := Option.bind_eq_some_iff.mp reading
    obtain ⟨rest, skipped, readRest⟩ := Option.bind_eq_some_iff.mp reading
    obtain ⟨blanks, nonempty, blank, _solid, rfl⟩ := skipSomeBlanks?_eq_some_iff.mp skipped
    exact ⟨blanks, rest, (after?_eq_some_iff.mp worded).symm, nonempty, blank, readRest⟩
  · rintro ⟨blanks, rest, rfl, nonempty, blank, reading⟩
    have worded := after?_eq_some_iff.mpr (Eq.refl (word.toList ++ (blanks ++ rest)))
    have skipped := skipSomeBlanks?_eq_some_iff.mpr ⟨blanks, nonempty, blank, solid reading, rfl⟩
    rw [worded, Option.bind_some, skipped, Option.bind_some]
    exact reading

theorem afterDeclarator?_eq_some_iff {α : Type} {read : List Char → Option α}
    (solid : ∀ {rest found}, read rest = some found → StartsSolid rest)
    {text : List Char} {found : α} :
    afterDeclarator? read text = some found ↔
      ∃ word ∈ declarators, ∃ blanks rest,
        text = word.toList ++ (blanks ++ rest) ∧ blanks ≠ [] ∧ AllBlank blanks ∧
          read rest = some found := by
  constructor
  · intro reading
    obtain ⟨word, listed, behind⟩ := List.exists_of_findSome?_eq_some reading
    exact ⟨word, listed, (behind_declarator_iff solid).mp behind⟩
  · rintro ⟨word, listed, pieces⟩
    have behind := (behind_declarator_iff solid).mpr pieces
    -- Some declarator is found, and it can only be this one.
    cases reading : afterDeclarator? read text with
    | none =>
        have failed := List.findSome?_eq_none_iff.mp reading word listed
        rw [behind] at failed
        cases failed
    | some other =>
        obtain ⟨first, firstListed, firstBehind⟩ := List.exists_of_findSome?_eq_some reading
        obtain ⟨blanks, rest, split, _more⟩ := pieces
        obtain ⟨_blanks, _rest, firstSplit, _more⟩ := (behind_declarator_iff solid).mp firstBehind
        have same : first = word := declarator_unique firstListed listed (firstSplit ▸ split)
        rw [same, behind] at firstBehind
        exact firstBehind.symm

end Declarators

namespace StartClause

/-- The name, an equals sign and the value as a signed number. -/
def Assigns (clause : StartClause) (text : List Char) : Prop :=
  ∃ before after number,
    text = clause.name.toList ++ (before ++ '=' :: (after ++ number)) ∧
    IsIdentifier clause.name.toList ∧ AllBlank before ∧ AllBlank after ∧
    Number.SignedDigits number clause.value ∧ Number.FitsWord clause.value

/-- A declarator and at least one blank, and then an assignment. -/
def Declares (clause : StartClause) (text : List Char) : Prop :=
  ∃ word ∈ declarators, ∃ blanks rest,
    text = word.toList ++ (blanks ++ rest) ∧ blanks ≠ [] ∧ AllBlank blanks ∧ clause.Assigns rest

def Written (clause : StartClause) (text : List Char) : Prop :=
  clause.Declares text ∨ clause.Assigns text

theorem Assigns.startsSolid {clause : StartClause} {text : List Char}
    (assigns : clause.Assigns text) : StartsSolid text := by
  obtain ⟨before, after, number, rfl, identifier, _rest⟩ := assigns
  exact identifier.startsSolid _

theorem Assigns.endsInDigit {clause : StartClause} {text : List Char}
    (assigns : clause.Assigns text) (front : List Char) : EndsInDigit (front ++ text) := by
  obtain ⟨before, after, number, rfl, _identifier, _before, _after, digits, _fits⟩ := assigns
  have ending := digits.endsInDigit (front ++ (clause.name.toList ++ (before ++ '=' :: after)))
  simpa only [List.append_assoc, List.cons_append] using ending

theorem assignment?_eq_some_iff {text : List Char} {clause : StartClause} :
    assignment? text = some clause ↔ clause.Assigns text := by
  constructor
  · intro found
    obtain ⟨⟨name, afterName⟩, named, found⟩ := Option.bind_eq_some_iff.mp found
    obtain ⟨afterEquals, equals, found⟩ := Option.bind_eq_some_iff.mp found
    obtain ⟨value, valued, rfl⟩ := Option.map_eq_some_iff.mp found
    obtain ⟨before, blankBefore, rfl⟩ := equals_behind_blanks.mp equals
    obtain ⟨after, number, blankAfter, rfl, digits, fits⟩ := word?_behind_blanks.mp valued
    refine ⟨before, after, number, ?_, ?_, blankBefore, blankAfter, digits, fits⟩
    · rw [String.toList_ofList]
      exact (append_of_identifier? named).symm
    · rw [String.toList_ofList]
      exact isIdentifier_of_identifier? named
  · rintro ⟨before, after, number, rfl, identifier, blankBefore, blankAfter, digits, fits⟩
    have equalsOutside : isIdentifierPart '=' = false := by decide
    have named := identifier?_append identifier
      (head?_blanks_append blankBefore equalsOutside (after ++ number))
    have equals : after? "=" (skipBlanks (before ++ '=' :: (after ++ number))) =
        some (after ++ number) := equals_behind_blanks.mpr ⟨before, blankBefore, rfl⟩
    have valued := word?_behind_blanks.mpr ⟨after, number, blankAfter, rfl, digits, fits⟩
    refine Option.bind_eq_some_iff.mpr ⟨_, named, Option.bind_eq_some_iff.mpr ⟨_, equals, ?_⟩⟩
    rw [valued, Option.map_some, String.ofList_toList]

/-- An assignment and a declaration are never the same text: behind the declarator and its blanks
the one has an equals sign, the other a name. -/
theorem Assigns.not_declares {clause other : StartClause} {text : List Char}
    (assigns : clause.Assigns text) : ¬other.Declares text := by
  rintro ⟨word, listed, blanks, rest, split, nonempty, blank, declared⟩
  obtain ⟨before, after, number, rfl, identifier, blankBefore, _blankAfter, _number⟩ := assigns
  have equalsOutside : isIdentifierPart '=' = false := by decide
  have named := identifier?_append identifier
    (head?_blanks_append blankBefore equalsOutside (after ++ number))
  have worded : identifier? (word.toList ++ (blanks ++ rest)) =
      some (word.toList, blanks ++ rest) := by
    refine identifier?_append (isIdentifier_of_mem_declarators listed) ?_
    cases blanks with
    | nil => exact absurd rfl nonempty
    | cons c further =>
        have outside := isIdentifierPart_of_isBlank (blank c List.mem_cons_self)
        exact head?_blanks_append allBlank_nil outside (further ++ rest)
  rw [split, worded] at named
  have behind : blanks ++ rest = before ++ '=' :: (after ++ number) :=
    (Prod.mk.inj (Option.some.inj named)).2
  have equals : rest = '=' :: (after ++ number) := by
    have skipped := congrArg skipBlanks behind
    rw [skipBlanks_append blank declared.startsSolid,
      skipBlanks_append blankBefore (startsSolid_cons (by decide) _)] at skipped
    exact skipped
  obtain ⟨_before, _after, _number, name, ⟨c, further, first, start, _parts⟩, _more⟩ := declared
  rw [first, equals] at name
  rw [← (List.cons.inj name).1] at start
  exact absurd start (by decide)

theorem declaration?_eq_some_iff {text : List Char} {clause : StartClause} :
    afterDeclarator? assignment? text = some clause ↔ clause.Declares text := by
  have solid : ∀ {rest : List Char} {found : StartClause},
      assignment? rest = some found → StartsSolid rest :=
    fun found => (assignment?_eq_some_iff.mp found).startsSolid
  unfold Declares
  simp only [afterDeclarator?_eq_some_iff solid, assignment?_eq_some_iff]

theorem read?_eq_some_iff {text : List Char} {clause : StartClause} :
    read? text = some clause ↔ clause.Written (clauseText text) := by
  unfold read? Written
  rw [Option.or_eq_some_iff, declaration?_eq_some_iff, assignment?_eq_some_iff]
  constructor
  · rintro (declares | ⟨_undeclared, assigns⟩)
    · exact .inl declares
    · exact .inr assigns
  · rintro (declares | assigns)
    · exact .inl declares
    · refine .inr ⟨Option.eq_none_iff_forall_ne_some.mpr ?_, assigns⟩
      intro other found
      exact assigns.not_declares (declaration?_eq_some_iff.mp found)

theorem Written.isIdentifier {clause : StartClause} {text : List Char}
    (written : clause.Written text) : IsIdentifier clause.name.toList := by
  rcases written with ⟨_word, _listed, _blanks, _rest, _split, _nonempty, _blank, assigns⟩ | assigns
  · obtain ⟨_before, _after, _number, _split, identifier, _blanks⟩ := assigns
    exact identifier
  · obtain ⟨_before, _after, _number, _split, identifier, _blanks⟩ := assigns
    exact identifier

theorem Written.shape {clause : StartClause} {text : List Char} (written : clause.Written text) :
    StartsSolid text ∧ EndsInDigit text := by
  rcases written with ⟨word, listed, blanks, rest, rfl, _nonempty, _blank, assigns⟩ | assigns
  · refine ⟨(isIdentifier_of_mem_declarators listed).startsSolid (blanks ++ rest), ?_⟩
    rw [← List.append_assoc]
    exact assigns.endsInDigit (word.toList ++ blanks)
  · exact ⟨assigns.startsSolid, assigns.endsInDigit []⟩

end StartClause

namespace ConditionClause

/-- How a condition on a variable is written: the variable, the comparison and the bound as a signed
number. -/
def Written (variableName : List Char) (clause : ConditionClause) (text : List Char) : Prop :=
  ∃ before after number,
    text = variableName ++ (before ++ (clause.comparison.sign.toList ++ (after ++ number))) ∧
    AllBlank before ∧ AllBlank after ∧
    Number.SignedDigits number clause.bound ∧ Number.FitsWord clause.bound

theorem comparison?_eq_some_iff {text rest : List Char} {comparison : Comparison} :
    comparison? text = some (comparison, rest) ↔ text = comparison.sign.toList ++ rest := by
  unfold comparison?
  constructor
  · intro found
    split at found
    · rename_i remaining atMost
      cases found
      exact (after?_eq_some_iff.mp atMost).symm
    · obtain ⟨remaining, atLeast, same⟩ := Option.map_eq_some_iff.mp found
      cases same
      exact (after?_eq_some_iff.mp atLeast).symm
  · rintro rfl
    cases comparison with
    | atMost => rfl
    | atLeast => rfl

theorem startsSolid_sign (comparison : Comparison) (rest : List Char) :
    StartsSolid (comparison.sign.toList ++ rest) := by
  cases comparison with
  | atMost => exact startsSolid_cons (by decide) _
  | atLeast => exact startsSolid_cons (by decide) _

theorem matched?_eq_some_iff {variableName text : List Char} {clause : ConditionClause} :
    matched? variableName text = some clause ↔ clause.Written variableName (clauseText text) := by
  constructor
  · intro found
    obtain ⟨afterName, named, found⟩ := Option.bind_eq_some_iff.mp found
    obtain ⟨⟨comparison, afterSign⟩, signed, found⟩ := Option.bind_eq_some_iff.mp found
    obtain ⟨bound, bounded, rfl⟩ := Option.map_eq_some_iff.mp found
    obtain ⟨before, blankBefore, rfl⟩ :=
      (skipBlanks_eq_iff (startsSolid_sign comparison afterSign)).mp
        (comparison?_eq_some_iff.mp signed)
    obtain ⟨after, number, blankAfter, rfl, digits, fits⟩ := word?_behind_blanks.mp bounded
    exact ⟨before, after, number, (strip?_eq_some_iff.mp named).symm, blankBefore, blankAfter,
      digits, fits⟩
  · rintro ⟨before, after, number, split, blankBefore, blankAfter, digits, fits⟩
    have named := strip?_eq_some_iff.mpr split.symm
    have signed : comparison? (skipBlanks
        (before ++ (clause.comparison.sign.toList ++ (after ++ number)))) =
        some (clause.comparison, after ++ number) := by
      rw [comparison?_eq_some_iff]
      exact skipBlanks_append blankBefore (startsSolid_sign clause.comparison (after ++ number))
    have bounded := word?_behind_blanks.mpr ⟨after, number, blankAfter, rfl, digits, fits⟩
    refine Option.bind_eq_some_iff.mpr ⟨_, named, Option.bind_eq_some_iff.mpr ⟨_, signed, ?_⟩⟩
    exact Option.map_eq_some_iff.mpr ⟨_, bounded, rfl⟩

theorem read?_eq_some_iff {variableName text : List Char} {clause : ConditionClause} :
    read? variableName text = some clause ↔
      Pattern.Compiles (NamePattern.condition variableName) ∧
        clause.Written variableName (clauseText text) := by
  unfold read?
  rw [Option.ite_none_right_eq_some, matched?_eq_some_iff]

theorem Written.shape {variableName text : List Char} {clause : ConditionClause}
    (identifier : IsIdentifier variableName) (written : clause.Written variableName text) :
    StartsSolid text ∧ EndsInDigit text := by
  obtain ⟨before, after, number, rfl, _before, _after, digits, _fits⟩ := written
  refine ⟨identifier.startsSolid _, ?_⟩
  have ending := digits.endsInDigit
    (variableName ++ (before ++ (clause.comparison.sign.toList ++ after)))
  simpa only [List.append_assoc] using ending

end ConditionClause

namespace StepClause

/-- How a step of a variable is written: the variable, an equals sign, the variable again, a plus or
minus sign and the amount in digits. -/
def Written (variableName : List Char) (clause : StepClause) (text : List Char) : Prop :=
  ∃ beforeEquals afterEquals beforeSign afterSign digits,
    text = variableName ++ (beforeEquals ++ '=' :: (afterEquals ++ (variableName ++
      (beforeSign ++ (if clause.negative then '-' else '+') :: (afterSign ++ digits))))) ∧
    AllBlank beforeEquals ∧ AllBlank afterEquals ∧ AllBlank beforeSign ∧ AllBlank afterSign ∧
    Number.Digits digits clause.amount ∧ Number.FitsWord clause.amount

theorem sign?_eq_some_iff {text rest : List Char} {negative : Bool} :
    sign? text = some (negative, rest) ↔ text = (if negative then '-' else '+') :: rest := by
  constructor
  · intro found
    cases text with
    | nil => cases found
    | cons c further =>
        rw [sign?] at found
        split at found
        · rename_i plus
          subst c
          cases found
          rfl
        · split at found
          · rename_i minus
            subst c
            cases found
            rfl
          · cases found
  · rintro rfl
    cases negative with
    | false => rfl
    | true => rfl

theorem startsSolid_sign (negative : Bool) (rest : List Char) :
    StartsSolid ((if negative then '-' else '+') :: rest) := by
  cases negative with
  | false => exact startsSolid_cons (by decide) rest
  | true => exact startsSolid_cons (by decide) rest

theorem amount?_eq_some_iff {text : List Char} {amount : Nat} :
    amount? text = some amount ↔ Number.Digits text amount ∧ Number.FitsWord amount := by
  unfold amount?
  rw [Option.filter_eq_some_iff, Number.natural?_eq_some_iff, decide_eq_true_iff]

theorem amount?_behind_blanks {text : List Char} {amount : Nat} :
    amount? (skipBlanks text) = some amount ↔
      ∃ blanks digits, AllBlank blanks ∧ text = blanks ++ digits ∧
        Number.Digits digits amount ∧ Number.FitsWord amount := by
  rw [amount?_eq_some_iff]
  refine written_behind_blanks fun digits (written : Number.Digits digits amount ∧ _) => ?_
  exact written.1.startsSolid

theorem matched?_eq_some_iff {variableName text : List Char} {clause : StepClause}
    (identifier : IsIdentifier variableName) :
    matched? variableName text = some clause ↔ clause.Written variableName (clauseText text) := by
  constructor
  · intro found
    obtain ⟨afterName, named, found⟩ := Option.bind_eq_some_iff.mp found
    obtain ⟨behindEquals, equals, found⟩ := Option.bind_eq_some_iff.mp found
    obtain ⟨behindName, namedAgain, found⟩ := Option.bind_eq_some_iff.mp found
    obtain ⟨⟨negative, behindSign⟩, signed, found⟩ := Option.bind_eq_some_iff.mp found
    obtain ⟨amount, measured, rfl⟩ := Option.map_eq_some_iff.mp found
    obtain ⟨beforeEquals, blank₁, rfl⟩ := equals_behind_blanks.mp equals
    obtain ⟨afterEquals, blank₂, rfl⟩ :=
      (skipBlanks_eq_iff (identifier.startsSolid behindName)).mp
        (strip?_eq_some_iff.mp namedAgain).symm
    obtain ⟨beforeSign, blank₃, rfl⟩ :=
      (skipBlanks_eq_iff (startsSolid_sign negative behindSign)).mp (sign?_eq_some_iff.mp signed)
    obtain ⟨afterSign, digits, blank₄, rfl, written⟩ := amount?_behind_blanks.mp measured
    exact ⟨beforeEquals, afterEquals, beforeSign, afterSign, digits,
      (strip?_eq_some_iff.mp named).symm, blank₁, blank₂, blank₃, blank₄, written⟩
  · rintro ⟨beforeEquals, afterEquals, beforeSign, afterSign, digits, split, blank₁, blank₂, blank₃,
      blank₄, written⟩
    have named := strip?_eq_some_iff.mpr split.symm
    have measured := amount?_behind_blanks.mpr ⟨afterSign, digits, blank₄, rfl, written⟩
    have signed := sign?_eq_some_iff.mpr
      (skipBlanks_append blank₃ (startsSolid_sign clause.negative (afterSign ++ digits)))
    have namedAgain := skipBlanks_append blank₂ (identifier.startsSolid
      (beforeSign ++ (if clause.negative then '-' else '+') :: (afterSign ++ digits)))
    refine Option.bind_eq_some_iff.mpr ⟨_, named, ?_⟩
    refine Option.bind_eq_some_iff.mpr ⟨_, equals_behind_blanks.mpr ⟨_, blank₁, rfl⟩, ?_⟩
    refine Option.bind_eq_some_iff.mpr ⟨_, strip?_eq_some_iff.mpr namedAgain.symm, ?_⟩
    refine Option.bind_eq_some_iff.mpr ⟨_, signed, ?_⟩
    exact Option.map_eq_some_iff.mpr ⟨_, measured, rfl⟩

theorem read?_eq_some_iff {variableName text : List Char} {clause : StepClause}
    (identifier : IsIdentifier variableName) :
    read? variableName text = some clause ↔
      Pattern.Compiles (NamePattern.step variableName) ∧
        clause.Written variableName (clauseText text) := by
  unfold read?
  rw [Option.ite_none_right_eq_some, matched?_eq_some_iff identifier]

theorem Written.shape {variableName text : List Char} {clause : StepClause}
    (identifier : IsIdentifier variableName) (written : clause.Written variableName text) :
    StartsSolid text ∧ EndsInDigit text := by
  obtain ⟨beforeEquals, afterEquals, beforeSign, afterSign, digits, rfl, _, _, _, _, amount, _fits⟩ :=
    written
  refine ⟨identifier.startsSolid _, ?_⟩
  have ending := amount.endsInDigit (variableName ++ (beforeEquals ++ '=' :: (afterEquals ++
    (variableName ++ (beforeSign ++ (if clause.negative then '-' else '+') :: afterSign)))))
  simpa only [List.append_assoc, List.cons_append] using ending

end StepClause

end LoopLesson
