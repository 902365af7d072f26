import LoopLesson.Proofs.Loop.Grammar
import LoopLesson.Proofs.Statement.Logging

/-!
Which arguments of a logging call are evaluated.

A quoted text, a numeral, a bound name and a name bound to a finite number, plus or minus a number,
are expressions with a value.  In any other argument the bound names are replaced.  But a quoted
text is recognised by the marks at its ends alone, so an argument that opens and closes with the
same quotation mark loses these two marks, also where they belong to different texts.
-/

namespace LoopLesson

open Text

section Numerals

/-- Digits with a fraction or without one. -/
def IsUnsignedNumeral (text : List Char) : Prop :=
  ∃ whole fraction, text = whole ++ fraction ∧ IsDigits whole ∧
    (fraction = [] ∨ ∃ digits, fraction = '.' :: digits ∧ IsDigits digits)

theorem isUnsignedNumeral_iff {text : List Char} :
    isUnsignedNumeral text = true ↔ IsUnsignedNumeral text := by
  constructor
  · intro numeral
    unfold isUnsignedNumeral at numeral
    obtain ⟨leading, behind⟩ := Bool.and_eq_true_iff.mp numeral
    have digits : IsDigits (text.takeWhile isDecimalDigit) :=
      ⟨of_decide_eq_true leading, fun c member => List.all_eq_true.mp List.all_takeWhile c member⟩
    refine ⟨_, _, (List.takeWhile_append_dropWhile).symm, digits, ?_⟩
    split at behind
    · rename_i whole
      exact .inl whole
    · rename_i c further written
      simp only [Bool.and_eq_true, decide_eq_true_eq] at behind
      obtain ⟨⟨rfl, nonempty⟩, all⟩ := behind
      exact .inr ⟨further, written, nonempty, List.all_eq_true.mp all⟩
  · rintro ⟨whole, fraction, rfl, digits, written⟩
    exact isUnsignedNumeral_of_digits digits written

theorem isNumeral_iff {text : List Char} : isNumeral text = true ↔ IsNumeral text := by
  constructor
  · intro numeral
    cases text with
    | nil => cases numeral
    | cons c rest =>
        rw [isNumeral] at numeral
        split at numeral
        · rename_i minus
          obtain ⟨whole, fraction, rfl, written⟩ := isUnsignedNumeral_iff.mp numeral
          rw [minus]
          exact ⟨['-'], whole, fraction, rfl, .inr rfl, written⟩
        · obtain ⟨whole, fraction, split, written⟩ := isUnsignedNumeral_iff.mp numeral
          exact ⟨[], whole, fraction, split, .inl rfl, written⟩
  · exact isNumeral_of_written

theorem IsUnsignedNumeral.startsSolid {text : List Char} (numeral : IsUnsignedNumeral text) :
    StartsSolid text := by
  obtain ⟨whole, fraction, rfl, ⟨nonempty, digits⟩, _written⟩ := numeral
  have solid : StartsSolid whole :=
    fun c head => isBlank_of_isDecimalDigit (digits c (List.mem_of_mem_head? head))
  exact solid.append nonempty fraction

end Numerals

namespace Offset

/-- How an offset is written: the name, a plus or minus sign and a numeral, with blanks between. -/
def Written (offset : Offset) (token : List Char) : Prop :=
  ∃ before after,
    token = offset.name.toList ++
      (before ++ (if offset.subtracted then '-' else '+') :: (after ++ offset.operand)) ∧
    IsIdentifier offset.name.toList ∧ AllBlank before ∧ AllBlank after ∧
    IsUnsignedNumeral offset.operand

/-- The name is bound to a finite number, and the operand is a number. -/
def HasValue (bindings : Bindings) (offset : Offset) : Prop :=
  ∃ value base, bindings.get? offset.name = some value ∧
    Number.Binary64.read? (trim value.toList) = some base ∧ base.isFinite = true ∧
    ∃ operand, Number.Binary64.read? offset.operand = some operand

section Reading

variable {token : List Char} {offset : Offset}

theorem written_of_read? (found : read? token = some offset) : offset.Written token := by
  obtain ⟨⟨name, rest⟩, named, behind⟩ := Option.bind_eq_some_iff.mp found
  have identifier := isIdentifier_of_identifier? named
  rw [← append_of_identifier? named]
  obtain ⟨before, blankBefore, split⟩ := exists_blanks_skipBlanks rest
  dsimp only at behind
  cases signed : skipBlanks rest with
  | nil =>
      rw [signed] at behind
      cases behind
  | cons sign further =>
      rw [signed] at split behind
      obtain ⟨after, blankAfter, splitFurther⟩ := exists_blanks_skipBlanks further
      dsimp only at behind
      split at behind
      · rename_i accepted
        cases behind
        refine ⟨before, after, ?_, ?_, blankBefore, blankAfter,
          isUnsignedNumeral_iff.mp accepted.2⟩
        · rw [String.toList_ofList, split, ← splitFurther]
          rcases accepted.1 with rfl | rfl <;> rfl
        · rw [String.toList_ofList]
          exact identifier
      · cases behind

theorem read?_of_written (written : offset.Written token) : read? token = some offset := by
  obtain ⟨before, after, rfl, identifier, blankBefore, blankAfter, numeral⟩ := written
  have outside : isIdentifierPart (if offset.subtracted then '-' else '+') = false := by
    cases offset.subtracted <;> decide
  have named := identifier?_append identifier
    (head?_blanks_append blankBefore outside (after ++ offset.operand))
  have signed := skipBlanks_append blankBefore
    (StepClause.startsSolid_sign offset.subtracted (after ++ offset.operand))
  have measured := skipBlanks_append blankAfter numeral.startsSolid
  have accepted : ((if offset.subtracted then '-' else '+') = '+' ∨
      (if offset.subtracted then '-' else '+') = '-') ∧
      isUnsignedNumeral offset.operand = true := by
    refine ⟨?_, isUnsignedNumeral_iff.mpr numeral⟩
    cases offset.subtracted
    · exact .inl rfl
    · exact .inr rfl
  refine Option.bind_eq_some_iff.mpr ⟨_, named, ?_⟩
  dsimp only
  rw [signed]
  dsimp only
  rw [measured, if_pos accepted, String.ofList_toList]
  cases offset with
  | mk name subtracted operand => cases subtracted <;> rfl

theorem evaluate?_isSome_iff {bindings : Bindings} :
    (evaluate? bindings offset).isSome = true ↔ offset.HasValue bindings := by
  constructor
  · intro evaluated
    obtain ⟨result, found⟩ := Option.isSome_iff_exists.mp evaluated
    obtain ⟨value, bound, found⟩ := Option.bind_eq_some_iff.mp found
    obtain ⟨base, number, found⟩ := Option.bind_eq_some_iff.mp found
    split at found
    · rename_i finite
      obtain ⟨operand, amount, _result⟩ := Option.map_eq_some_iff.mp found
      exact ⟨value, base, bound, number, finite, operand, amount⟩
    · cases found
  · rintro ⟨value, base, bound, number, finite, operand, amount⟩
    unfold evaluate?
    rw [bound, Option.bind_some, number, Option.bind_some, if_pos finite, amount]
    rfl

end Reading

end Offset

/-- The expressions that have a value. -/
def IsExpression (bindings : Bindings) (token : List Char) : Prop :=
  (∃ value, Denotes bindings token value) ∨
    ∃ offset : Offset, offset.Written token ∧ offset.HasValue bindings

section Expressions

variable {bindings : Bindings} {token : List Char}

theorem offsetValue?_isSome_iff :
    (offsetValue? bindings token).isSome = true ↔
      ∃ offset : Offset, offset.Written token ∧ offset.HasValue bindings := by
  unfold offsetValue?
  rw [Option.isSome_map]
  constructor
  · intro evaluated
    obtain ⟨result, found⟩ := Option.isSome_iff_exists.mp evaluated
    obtain ⟨offset, reading, value⟩ := Option.bind_eq_some_iff.mp found
    refine ⟨offset, Offset.written_of_read? reading, Offset.evaluate?_isSome_iff.mp ?_⟩
    rw [value]
    rfl
  · rintro ⟨offset, written, hasValue⟩
    rw [Offset.read?_of_written written, Option.bind_some]
    exact Offset.evaluate?_isSome_iff.mpr hasValue

/-- Expressions are evaluated. -/
theorem IsExpression.expressionValue?_isSome (expression : IsExpression bindings token) :
    (expressionValue? bindings token).isSome = true := by
  rcases expression with ⟨value, denotes⟩ | offset
  · rw [denotes.expressionValue?_eq]
    rfl
  · unfold expressionValue?
    rw [Option.isSome_or, offsetValue?_isSome_iff.mpr offset, Bool.or_true]

theorem not_isExpression_of_quote_inside {quote : Char} (mark : isQuote quote = true)
    {inner : List Char} (inside : quote ∈ inner) :
    ¬IsExpression bindings (quote :: (inner ++ [quote])) := by
  have notPlain : ¬IsPlain quote := by
    intro plain
    have unquoted := plain.unquoted
    rw [mark] at unquoted
    cases unquoted
  have shown {mark : Char} {text : List Char}
      (written : quote :: (inner ++ [quote]) = mark :: (text ++ [mark])) : mark ∈ text := by
    obtain ⟨rfl, rest⟩ := List.cons.inj written
    rw [← List.append_cancel_right rest]
    exact inside
  rintro (⟨value, denotes⟩ | ⟨offset, ⟨before, after, split, identifier, _rest⟩, _hasValue⟩)
  · generalize written : quote :: (inner ++ [quote]) = text at denotes
    cases denotes with
    | doubleQuoted unclosed => exact unclosed (shown written)
    | singleQuoted unclosed => exact unclosed (shown written)
    | template unclosed => exact unclosed (shown written)
    | numeral numeral =>
        subst written
        exact notPlain (numeral.isPlain List.mem_cons_self)
    | boundName identifier bound =>
        subst written
        exact notPlain (isPlain_of_class (by decide) (identifier.all_parts _ List.mem_cons_self))
  · obtain ⟨c, rest, spelled, start, _parts⟩ := identifier
    rw [spelled, List.cons_append] at split
    obtain ⟨rfl, _⟩ := List.cons.inj split
    exact notPlain (isPlain_of_class (by decide) start)

end Expressions

section Arguments

variable {bindings : Bindings} {argument : List Char}

theorem evaluateArgument_of_nonempty (bindings : Bindings) (nonempty : trim argument ≠ []) :
    evaluateArgument bindings argument =
      (expressionValue? bindings (trim argument)).getD (substitute bindings (trim argument)) :=
  if_neg nonempty

/-- The texts between quotation marks are expressions. -/
theorem isExpression_quoted {quote : Char} (mark : isQuote quote = true) {inner : List Char}
    (unclosed : quote ∉ inner) : IsExpression bindings (quote :: (inner ++ [quote])) := by
  simp only [isQuote, Bool.or_eq_true, decide_eq_true_eq] at mark
  rcases mark with (rfl | rfl) | rfl
  · exact .inl ⟨_, .doubleQuoted unclosed⟩
  · exact .inl ⟨_, .singleQuoted unclosed⟩
  · exact .inl ⟨_, .template unclosed⟩

/-- An argument that is no expression is not evaluated: its names are replaced.  Only an argument
that opens and closes with the same quotation mark, which then also stands between, is taken for a
quoted text, and a bound name that is no identifier still has its value. -/
theorem evaluateArgument_of_not_expression (nonempty : trim argument ≠ [])
    (other : ¬IsExpression bindings (trim argument)) :
    (∀ quote inner, isQuote quote = true → trim argument = quote :: (inner ++ [quote]) →
      quote ∈ inner ∧ evaluateArgument bindings argument =
        if quote = backQuote then substitute bindings inner else inner) ∧
    ((∀ quote inner, isQuote quote = true → trim argument ≠ quote :: (inner ++ [quote])) →
      (bindings.get? (String.ofList (trim argument)) = none →
        evaluateArgument bindings argument = substitute bindings (trim argument)) ∧
      ∀ value, bindings.get? (String.ofList (trim argument)) = some value →
        ¬IsIdentifier (trim argument) ∧ evaluateArgument bindings argument = value.toList) := by
  have evaluated := evaluateArgument_of_nonempty bindings nonempty
  constructor
  · intro quote inner mark closed
    constructor
    · apply Classical.byContradiction
      intro unclosed
      rw [closed] at other
      exact other (isExpression_quoted mark unclosed)
    · rw [evaluated, closed, expressionValue?_of_quoted mark, Option.getD_some]
  · intro openEnds
    have notNumeral : numeralValue? (trim argument) = none := by
      apply if_neg
      intro numeral
      exact other (.inl ⟨_, .numeral (isNumeral_iff.mp numeral)⟩)
    have notOffset : offsetValue? bindings (trim argument) = none := by
      apply Option.not_isSome_iff_eq_none.mp
      intro offset
      exact other (.inr (offsetValue?_isSome_iff.mp offset))
    have looked : evaluateArgument bindings argument =
        (boundValue? bindings (trim argument)).getD (substitute bindings (trim argument)) := by
      rw [evaluated, expressionValue?_of_open_ends openEnds, notNumeral, notOffset, Option.none_or,
        Option.or_none]
    unfold boundValue? at looked
    constructor
    · intro unbound
      rw [looked, unbound]
      rfl
    · intro value bound
      constructor
      · intro identifier
        exact other (.inl ⟨_, .boundName identifier bound⟩)
      · rw [looked, bound]
        rfl

/-- What a body sees while its counter `i` is seven. -/
def sevenBound : Bindings := .ofList [("i", "7")]

theorem product_substituted :
    ¬IsExpression sevenBound "i * 2".toList ∧
      evaluateArgument sevenBound " i * 2 ".toList = "7 * 2".toList := by
  have trimmed : trim " i * 2 ".toList = "i * 2".toList := by decide
  have other : ¬IsExpression sevenBound "i * 2".toList := by
    intro expression
    exact absurd expression.expressionValue?_isSome (by decide +kernel)
  have nonempty : trim " i * 2 ".toList ≠ [] := by decide
  rw [← trimmed] at other
  have openEnds : ∀ quote inner, isQuote quote = true →
      trim " i * 2 ".toList ≠ quote :: (inner ++ [quote]) := by
    rintro quote inner mark split
    have first : 'i' = quote := (List.cons.inj (trimmed.symm.trans split)).1
    rw [← first] at mark
    exact absurd mark (by decide)
  obtain ⟨_closed, opened⟩ := evaluateArgument_of_not_expression nonempty other
  obtain ⟨unbound, _bound⟩ := opened openEnds
  rw [unbound (by decide +kernel)]
  rw [trimmed] at other ⊢
  exact ⟨other, by decide +kernel⟩

/-- Two quoted texts with a name between them. -/
def joinedTexts : List Char := "\"a\" + i + \"b\"".toList

theorem joinedTexts_lose_outer_quotes :
    splitArguments joinedTexts = [joinedTexts] ∧ trim joinedTexts = joinedTexts ∧
      ¬IsExpression sevenBound joinedTexts ∧
      substitute sevenBound joinedTexts = "\"a\" + 7 + \"b\"".toList ∧
      evaluateArgument sevenBound joinedTexts = "a\" + i + \"b".toList ∧
      evaluateArgument sevenBound joinedTexts ≠ substitute sevenBound joinedTexts ∧
      consoleLine sevenBound "console.log(\"a\" + i + \"b\")" = "a\" + i + \"b" := by
  have other : ¬IsExpression sevenBound
      (doubleQuote :: ("a\" + i + \"b".toList ++ [doubleQuote])) :=
    not_isExpression_of_quote_inside (by decide) (by decide)
  exact ⟨by decide +kernel, by decide +kernel, other, by decide +kernel, by decide +kernel,
    by decide +kernel, by decide +kernel⟩

end Arguments

end LoopLesson
