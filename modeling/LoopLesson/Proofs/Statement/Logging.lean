import LoopLesson.Proofs.Statement.Splitting
import LoopLesson.Proofs.Text.Pieces
import LoopLesson.Statement.Console

/-!
What a well-formed logging call prints: the values of its arguments, with a space between them.

An argument is a quoted text, a template, a numeral or a bound name, and its value can be read off
the way it is written.  A quoted text may hold commas, parentheses and other quotation marks.  None
of these ends an argument or the call, since the arguments are split outside of quoted texts and the
call is closed by its last parenthesis.
-/

namespace LoopLesson

open Text

namespace Text

section Classes

theorem CharClass.holds_eq_false_of_apart {one other : CharClass}
    (apart : ∀ range ∈ one.ranges, ∀ further ∈ other.ranges,
      range.2 < further.1 ∨ further.2 < range.1)
    {c : Char} (held : one.holds c = true) : other.holds c = false := by
  apply Bool.eq_false_iff.mpr
  intro otherHeld
  obtain ⟨range, listed, low, high⟩ := (holds_iff one c).mp held
  obtain ⟨further, otherListed, otherLow, otherHigh⟩ := (holds_iff other c).mp otherHeld
  have separate := apart range listed further otherListed
  omega

theorem isBlank_of_isDecimalDigit {c : Char} (digit : isDecimalDigit c = true) :
    isBlank c = false :=
  CharClass.holds_eq_false_of_apart (by decide) digit

/-- The only decimal digits of low code points are the ASCII digits. -/
theorem isDecimalDigit_of_low {c : Char} (low : c.toNat < 0x660)
    (outside : c.toNat < 0x30 ∨ 0x39 < c.toNat) : isDecimalDigit c = false := by
  apply Bool.eq_false_iff.mpr
  intro digit
  obtain ⟨range, listed, above, below⟩ := (CharClass.holds_iff decimalNumber c).mp digit
  have place : ∀ range ∈ decimalNumber.ranges, range = (0x30, 0x39) ∨ 0x660 ≤ range.1 := by decide
  rcases place range listed with rfl | high
  · dsimp only at above below
    omega
  · omega

theorem isDecimalDigit_of_isIdentifierStart {c : Char} (start : isIdentifierStart c = true) :
    isDecimalDigit c = false := by
  simp only [isIdentifierStart, Bool.or_eq_true, decide_eq_true_eq] at start
  rcases start with (letter | rfl) | rfl
  · have bounds := toNat_of_isAlpha letter
    exact isDecimalDigit_of_low (by omega) (by omega)
  · decide
  · decide

/-- A class of characters that holds none of the marks is a class of plain characters. -/
theorem isPlain_of_class {charClass : Char → Bool}
    (unmarked : [doubleQuote, singleQuote, backQuote, '(', ')', ','].any charClass = false)
    {c : Char} (held : charClass c = true) : IsPlain c := by
  have excluded : ∀ mark ∈ [doubleQuote, singleQuote, backQuote, '(', ')', ','], c ≠ mark := by
    rintro mark listed rfl
    exact List.any_eq_false.mp unmarked c listed held
  simp only [List.mem_cons, List.not_mem_nil, or_false, forall_eq_or_imp, forall_eq] at excluded
  obtain ⟨double, single, back, opening, closing, comma⟩ := excluded
  refine ⟨?_, opening, closing, comma⟩
  simp only [isQuote, double, single, back, decide_false, Bool.or_self]

theorem isSegment_of_blank {text : List Char} (blank : AllBlank text) : IsSegment text :=
  isSegment_of_plain fun c member => isPlain_of_class (by decide) (blank c member)

end Classes

end Text

instance (text : List Char) : Decidable (AllBlank text) :=
  decidable_of_iff (text.all isBlank = true) List.all_eq_true

section Numerals

/-- One decimal digit or more, of any script. -/
def IsDigits (text : List Char) : Prop := text ≠ [] ∧ ∀ c ∈ text, isDecimalDigit c = true

instance (text : List Char) : Decidable (IsDigits text) :=
  decidable_of_iff (text ≠ [] ∧ text.all isDecimalDigit = true)
    (and_congr_right fun _ => List.all_eq_true)

/-- Digits behind a minus sign or not, with a fraction or without one. -/
def IsNumeral (text : List Char) : Prop :=
  ∃ sign whole fraction, text = sign ++ (whole ++ fraction) ∧ (sign = [] ∨ sign = ['-']) ∧
    IsDigits whole ∧ (fraction = [] ∨ ∃ digits, fraction = '.' :: digits ∧ IsDigits digits)

theorem isUnsignedNumeral_of_digits {whole fraction : List Char} (digits : IsDigits whole)
    (written : fraction = [] ∨ ∃ further, fraction = '.' :: further ∧ IsDigits further) :
    isUnsignedNumeral (whole ++ fraction) = true := by
  have taken : (whole ++ fraction).takeWhile isDecimalDigit =
      whole ++ fraction.takeWhile isDecimalDigit := List.takeWhile_append_of_pos digits.2
  have dropped : (whole ++ fraction).dropWhile isDecimalDigit =
      fraction.dropWhile isDecimalDigit := List.dropWhile_append_of_pos digits.2
  have stops : fraction.takeWhile isDecimalDigit = [] ∧
      fraction.dropWhile isDecimalDigit = fraction := by
    rcases written with rfl | ⟨further, rfl, _digits⟩
    · exact ⟨rfl, rfl⟩
    · exact ⟨List.takeWhile_cons_of_neg (by decide), List.dropWhile_cons_of_neg (by decide)⟩
  rw [stops.1, List.append_nil] at taken
  rw [stops.2] at dropped
  unfold isUnsignedNumeral
  rw [taken, dropped]
  rcases written with rfl | ⟨further, rfl, nonempty, fractionDigits⟩
  · simp only [ne_eq, digits.1, not_false_eq_true, decide_true, Bool.and_self]
  · have all : further.all isDecimalDigit = true := List.all_eq_true.mpr fractionDigits
    simp only [ne_eq, digits.1, nonempty, all, not_false_eq_true, decide_true, Bool.and_self]

theorem isNumeral_of_written {text : List Char} (numeral : IsNumeral text) :
    isNumeral text = true := by
  obtain ⟨sign, whole, fraction, rfl, signed, digits, written⟩ := numeral
  have unsigned := isUnsignedNumeral_of_digits digits written
  rcases signed with rfl | rfl
  · obtain ⟨nonempty, allDigits⟩ := digits
    cases whole with
    | nil => exact absurd rfl nonempty
    | cons c rest =>
        have notMinus : c ≠ '-' := by
          rintro rfl
          exact absurd (allDigits '-' List.mem_cons_self) (by decide)
        rw [List.nil_append, List.cons_append, isNumeral, if_neg notMinus]
        exact unsigned
  · exact unsigned

/-- A character of a numeral is a digit, a minus sign or a point. -/
theorem IsNumeral.mem_cases {text : List Char} (numeral : IsNumeral text) {c : Char}
    (member : c ∈ text) : isDecimalDigit c = true ∨ c = '-' ∨ c = '.' := by
  obtain ⟨sign, whole, fraction, rfl, signed, digits, written⟩ := numeral
  rcases List.mem_append.mp member with inSign | member
  · rcases signed with rfl | rfl
    · cases inSign
    · exact .inr (.inl (List.mem_singleton.mp inSign))
  · rcases List.mem_append.mp member with inWhole | inFraction
    · exact .inl (digits.2 c inWhole)
    · rcases written with rfl | ⟨further, rfl, fractionDigits⟩
      · cases inFraction
      · rcases List.mem_cons.mp inFraction with point | later
        · exact .inr (.inr point)
        · exact .inl (fractionDigits.2 c later)

theorem IsNumeral.isPlain {text : List Char} (numeral : IsNumeral text) {c : Char}
    (member : c ∈ text) : IsPlain c := by
  rcases numeral.mem_cases member with digit | rfl | rfl
  · exact isPlain_of_class (by decide) digit
  · exact ⟨by decide, by decide, by decide, by decide⟩
  · exact ⟨by decide, by decide, by decide, by decide⟩

theorem IsNumeral.ne_nil {text : List Char} (numeral : IsNumeral text) : text ≠ [] := by
  obtain ⟨sign, whole, fraction, rfl, _signed, digits, _written⟩ := numeral
  exact List.append_ne_nil_of_right_ne_nil sign
    (List.append_ne_nil_of_left_ne_nil digits.1 fraction)

end Numerals

/-- How an argument is written, and the value that it contributes. -/
inductive Denotes (bindings : Bindings) : List Char → List Char → Prop
  | doubleQuoted {inner : List Char} (unclosed : doubleQuote ∉ inner) :
      Denotes bindings (doubleQuote :: (inner ++ [doubleQuote])) inner
  | singleQuoted {inner : List Char} (unclosed : singleQuote ∉ inner) :
      Denotes bindings (singleQuote :: (inner ++ [singleQuote])) inner
  | template {inner : List Char} (unclosed : backQuote ∉ inner) :
      Denotes bindings (backQuote :: (inner ++ [backQuote])) (substitute bindings inner)
  | numeral {text : List Char} (written : IsNumeral text) : Denotes bindings text text
  | boundName {name : List Char} {value : String} (identifier : IsIdentifier name)
      (bound : bindings.get? (String.ofList name) = some value) :
      Denotes bindings name value.toList

/-- A text that is kept as it is by trimming and by splitting. -/
structure IsToken (text : List Char) : Prop where
  nonempty : text ≠ []
  starts : StartsSolid text
  ends : EndsSolid text
  segment : IsSegment text

section Tokens

theorem isToken_of_plain {text : List Char} (nonempty : text ≠ [])
    (solid : ∀ c ∈ text, isBlank c = false) (plain : ∀ c ∈ text, IsPlain c) : IsToken text where
  nonempty := nonempty
  starts := fun c head => solid c (List.mem_of_mem_head? head)
  ends := fun c last => solid c (List.mem_of_getLast? last)
  segment := isSegment_of_plain plain

theorem endsSolid_concat {c : Char} (notBlank : isBlank c = false) (front : List Char) :
    EndsSolid (front ++ [c]) := by
  intro last found
  rw [List.getLast?_concat] at found
  cases found
  exact notBlank

theorem isToken_quoted {quote : Char} (mark : isQuote quote = true) {inner : List Char}
    (unclosed : quote ∉ inner) : IsToken (quote :: (inner ++ [quote])) := by
  have notBlank : isBlank quote = false := by
    simp only [isQuote, Bool.or_eq_true, decide_eq_true_eq] at mark
    rcases mark with (rfl | rfl) | rfl <;> decide
  exact {
    nonempty := List.cons_ne_nil _ _
    starts := startsSolid_cons notBlank _
    ends := endsSolid_concat notBlank (quote :: inner)
    segment := isSegment_quoted mark unclosed }

theorem isToken_of_isNumeral {text : List Char} (numeral : IsNumeral text) : IsToken text := by
  refine isToken_of_plain numeral.ne_nil ?_ fun c member => numeral.isPlain member
  intro c member
  rcases numeral.mem_cases member with digit | rfl | rfl
  · exact isBlank_of_isDecimalDigit digit
  · decide
  · decide

theorem isToken_of_isIdentifier {name : List Char} (identifier : IsIdentifier name) :
    IsToken name := by
  refine isToken_of_plain identifier.ne_nil ?_ ?_
  · intro c member
    exact isBlank_of_isIdentifierPart (identifier.all_parts c member)
  · intro c member
    exact isPlain_of_class (by decide) (identifier.all_parts c member)

theorem Denotes.isToken {bindings : Bindings} {text value : List Char}
    (denotes : Denotes bindings text value) : IsToken text := by
  cases denotes with
  | doubleQuoted unclosed => exact isToken_quoted (by decide) unclosed
  | singleQuoted unclosed => exact isToken_quoted (by decide) unclosed
  | template unclosed => exact isToken_quoted (by decide) unclosed
  | numeral written => exact isToken_of_isNumeral written
  | boundName identifier bound => exact isToken_of_isIdentifier identifier

theorem IsToken.trim_between {text before after : List Char} (token : IsToken text)
    (blankBefore : AllBlank before) (blankAfter : AllBlank after) :
    trim (before ++ (text ++ after)) = text :=
  trim_append blankBefore token.starts token.ends blankAfter token.nonempty

theorem IsToken.trim_eq {text : List Char} (token : IsToken text) : trim text = text := by
  have trimmed := token.trim_between allBlank_nil allBlank_nil
  rwa [List.nil_append, List.append_nil] at trimmed

end Tokens

section Evaluation

variable {bindings : Bindings}

theorem quoted?_of_quoted (quote : Char) (inner : List Char) :
    quoted? quote (quote :: (inner ++ [quote])) = some inner := by
  rw [quoted?, if_pos ⟨rfl, List.getLast?_concat⟩, List.dropLast_concat]

theorem quoted?_of_ne {quote c : Char} (different : c ≠ quote) (rest : List Char) :
    quoted? quote (c :: rest) = none := by
  rw [quoted?, if_neg fun both => different both.1]

/-- A token that opens and closes with one quotation mark has its inside for a value. -/
theorem expressionValue?_of_quoted {quote : Char} (mark : isQuote quote = true)
    (inner : List Char) :
    expressionValue? bindings (quote :: (inner ++ [quote])) =
      some (if quote = backQuote then substitute bindings inner else inner) := by
  simp only [isQuote, Bool.or_eq_true, decide_eq_true_eq] at mark
  unfold expressionValue? literalValue? templateValue?
  rcases mark with (rfl | rfl) | rfl
  · rw [quoted?_of_quoted]
    rfl
  · rw [quoted?_of_ne (by decide), quoted?_of_quoted]
    rfl
  · rw [quoted?_of_ne (by decide), quoted?_of_ne (by decide), quoted?_of_quoted]
    rfl

theorem eq_of_quoted? {quote : Char} {token inner : List Char}
    (found : quoted? quote token = some inner) : token = quote :: (inner ++ [quote]) := by
  cases token with
  | nil => cases found
  | cons c rest =>
      rw [quoted?] at found
      split at found
      · rename_i both
        obtain ⟨opens, closes⟩ := both
        obtain ⟨front, rfl⟩ := List.getLast?_eq_some_iff.mp closes
        rw [List.dropLast_concat] at found
        rw [opens, Option.some.inj found]
      · cases found

/-- Of a token that does not open and close with the same quotation mark, only a numeral, a bound
name or an offset is evaluated. -/
theorem expressionValue?_of_open_ends {token : List Char}
    (openEnds : ∀ quote inner, isQuote quote = true → token ≠ quote :: (inner ++ [quote])) :
    expressionValue? bindings token =
      ((numeralValue? token).or (boundValue? bindings token)).or (offsetValue? bindings token) := by
  have unquoted (quote : Char) (mark : isQuote quote = true) : quoted? quote token = none := by
    apply Option.eq_none_iff_forall_ne_some.mpr
    intro inner found
    exact openEnds quote inner mark (eq_of_quoted? found)
  unfold expressionValue? literalValue? templateValue?
  rw [unquoted doubleQuote (by decide), unquoted singleQuote (by decide),
    unquoted backQuote (by decide)]
  rfl

/-- A token that opens with no quotation mark is neither a literal nor a template. -/
theorem expressionValue?_of_unquoted {c : Char} (unquoted : isQuote c = false) (rest : List Char) :
    expressionValue? bindings (c :: rest) =
      ((numeralValue? (c :: rest)).or (boundValue? bindings (c :: rest))).or
        (offsetValue? bindings (c :: rest)) := by
  apply expressionValue?_of_open_ends
  intro quote inner mark split
  rw [(List.cons.inj split).1, mark] at unquoted
  cases unquoted

theorem isNumeral_of_isIdentifierStart {c : Char} (start : isIdentifierStart c = true)
    (rest : List Char) : isNumeral (c :: rest) = false := by
  have notDigit := isDecimalDigit_of_isIdentifierStart start
  have notMinus : c ≠ '-' := by
    rintro rfl
    exact absurd start (by decide)
  rw [isNumeral, if_neg notMinus, isUnsignedNumeral,
    List.takeWhile_cons_of_neg (Bool.eq_false_iff.mp notDigit)]
  rfl

theorem Denotes.expressionValue?_eq {text value : List Char}
    (denotes : Denotes bindings text value) : expressionValue? bindings text = some value := by
  cases denotes with
  | doubleQuoted unclosed => exact expressionValue?_of_quoted (by decide) _
  | singleQuoted unclosed => exact expressionValue?_of_quoted (by decide) _
  | template unclosed => exact expressionValue?_of_quoted (by decide) _
  | numeral written =>
      cases text with
      | nil => exact absurd rfl written.ne_nil
      | cons c rest =>
          have plain := written.isPlain List.mem_cons_self
          rw [expressionValue?_of_unquoted plain.unquoted, numeralValue?,
            if_pos (isNumeral_of_written written)]
          rfl
  | @boundName name bound identifier found =>
      obtain ⟨c, rest, rfl, start, parts⟩ := identifier
      have plain : IsPlain c := isPlain_of_class (by decide) start
      rw [expressionValue?_of_unquoted plain.unquoted, numeralValue?,
        isNumeral_of_isIdentifierStart start, boundValue?, found]
      rfl

theorem Denotes.evaluateArgument_eq {text value : List Char}
    (denotes : Denotes bindings text value) : evaluateArgument bindings text = value := by
  unfold evaluateArgument
  dsimp only
  rw [denotes.isToken.trim_eq, if_neg denotes.isToken.nonempty, denotes.expressionValue?_eq,
    Option.getD_some]

end Evaluation

theorem splitAtLast?_append {mark : Char} {closing : List Char} (unmarked : mark ∉ closing)
    (front : List Char) : splitAtLast? mark (front ++ mark :: closing) = some (front, closing) := by
  have turned : (front ++ mark :: closing).reverse = closing.reverse ++ mark :: front.reverse := by
    rw [List.reverse_append, List.reverse_cons, List.append_assoc, List.singleton_append]
  have passed : ∀ c ∈ closing.reverse, decide (c ≠ mark) = true := by
    intro c member
    apply decide_eq_true
    rintro rfl
    exact unmarked (List.mem_reverse.mp member)
  have dropped : (mark :: front.reverse).dropWhile (fun c => decide (c ≠ mark)) =
      mark :: front.reverse := List.dropWhile_cons_of_neg (by simp)
  have taken : (mark :: front.reverse).takeWhile (fun c => decide (c ≠ mark)) = [] :=
    List.takeWhile_cons_of_neg (by simp)
  unfold splitAtLast?
  rw [turned, List.dropWhile_append_of_pos passed, List.takeWhile_append_of_pos passed, dropped,
    taken]
  dsimp only
  rw [List.append_nil, List.reverse_reverse, List.reverse_reverse]

/-- An argument as it stands in a call, between blanks. -/
structure LoggedArgument (bindings : Bindings) where
  before : List Char
  text : List Char
  after : List Char
  value : List Char
  blankBefore : AllBlank before
  blankAfter : AllBlank after
  denotes : Denotes bindings text value

namespace LoggedArgument

variable {bindings : Bindings}

def written (argument : LoggedArgument bindings) : List Char :=
  argument.before ++ (argument.text ++ argument.after)

theorem isSegment_written (argument : LoggedArgument bindings) : IsSegment argument.written :=
  (isSegment_of_blank argument.blankBefore).append
    (argument.denotes.isToken.segment.append (isSegment_of_blank argument.blankAfter))

theorem evaluate_trim_written (argument : LoggedArgument bindings) :
    evaluateArgument bindings (trim argument.written) = argument.value := by
  unfold written
  rw [argument.denotes.isToken.trim_between argument.blankBefore argument.blankAfter,
    argument.denotes.evaluateArgument_eq]

/-- An argument between a blank and a line end. -/
def spaced {text value : List Char} (denotes : Denotes bindings text value) :
    LoggedArgument bindings where
  before := [' ']
  text
  after := ['\n']
  value
  blankBefore := by decide
  blankAfter := by decide
  denotes

end LoggedArgument

/-- The name of what is called, which may have points in it. -/
def IsCallee (text : List Char) : Prop :=
  ∃ c rest, text = c :: rest ∧ isIdentifierStart c = true ∧ ∀ d ∈ rest, isCalleePart d = true

/-- A logging call with its blanks: around it, before its parenthesis and before its semicolon, if
it has one. -/
structure LoggingCall (bindings : Bindings) where
  before : List Char
  callee : List Char
  gap : List Char
  arguments : List (LoggedArgument bindings)
  semicolon : Option (List Char)
  after : List Char
  blankBefore : AllBlank before
  isCallee : IsCallee callee
  blankGap : AllBlank gap
  blankSemicolon : ∀ blanks ∈ semicolon, AllBlank blanks
  blankAfter : AllBlank after

namespace LoggingCall

variable {bindings : Bindings} (call : LoggingCall bindings)

def inside : List Char := [','].intercalate (call.arguments.map LoggedArgument.written)

def closing : List Char :=
  match call.semicolon with
  | none => []
  | some blanks => blanks ++ [';']

def text : List Char :=
  call.callee ++ (call.gap ++ '(' :: (call.inside ++ ')' :: call.closing))

/-- The call as it is written. -/
def statement : String := String.ofList (call.before ++ (call.text ++ call.after))

/-- The values that are not empty, in their order. -/
def printed : List (List Char) := (call.arguments.map LoggedArgument.value).filter (· ≠ [])

section Shape

theorem closing_cases :
    call.closing = [] ∨ ∃ blanks, AllBlank blanks ∧ call.closing = blanks ++ [';'] := by
  unfold closing
  cases found : call.semicolon with
  | none => exact .inl rfl
  | some blanks => exact .inr ⟨blanks, call.blankSemicolon blanks found, rfl⟩

theorem not_mem_closing : ')' ∉ call.closing := by
  rcases call.closing_cases with empty | ⟨blanks, blank, closed⟩
  · rw [empty]
    exact List.not_mem_nil
  · rw [closed]
    intro member
    rcases List.mem_append.mp member with inBlanks | isSemicolon
    · exact absurd (blank ')' inBlanks) (by decide)
    · exact absurd (List.mem_singleton.mp isSemicolon) (by decide)

theorem skipBlanks_closing : skipBlanks call.closing = [] ∨ skipBlanks call.closing = [';'] := by
  rcases call.closing_cases with empty | ⟨blanks, blank, closed⟩
  · rw [empty]
    exact .inl rfl
  · rw [closed, skipBlanks_append blank (startsSolid_cons (by decide) [])]
    exact .inr rfl

theorem text_starts : call.text ≠ [] ∧ StartsSolid call.text := by
  obtain ⟨c, rest, named, start, _parts⟩ := call.isCallee
  unfold text
  rw [named]
  exact ⟨List.cons_ne_nil _ _, startsSolid_cons (isBlank_of_isIdentifierStart start) _⟩

theorem trim_statement : trim call.statement.toList = call.text := by
  have ends : EndsSolid call.text := by
    unfold text
    rcases call.closing_cases with empty | ⟨blanks, _blank, closed⟩
    · rw [empty]
      have solid := endsSolid_concat (c := ')') (by decide)
        (call.callee ++ (call.gap ++ '(' :: call.inside))
      simpa only [List.append_assoc, List.cons_append] using solid
    · rw [closed]
      have solid := endsSolid_concat (c := ';') (by decide)
        (call.callee ++ (call.gap ++ '(' :: (call.inside ++ ')' :: blanks)))
      simpa only [List.append_assoc, List.cons_append] using solid
  obtain ⟨nonempty, starts⟩ := call.text_starts
  unfold statement
  rw [String.toList_ofList]
  exact trim_append call.blankBefore starts ends call.blankAfter nonempty

/-- The call is opened by the parenthesis after its name and closed by its last one. -/
theorem callArguments?_text : callArguments? call.text = some call.inside := by
  obtain ⟨c, rest, named, start, parts⟩ := call.isCallee
  have behindName : (rest ++ (call.gap ++ '(' :: (call.inside ++ ')' :: call.closing))).dropWhile
      isCalleePart = call.gap ++ '(' :: (call.inside ++ ')' :: call.closing) := by
    rw [List.dropWhile_append_of_pos parts]
    cases opened : call.gap with
    | nil => exact List.dropWhile_cons_of_neg (by decide)
    | cons d further =>
        have blank : isBlank d = true := call.blankGap d (opened ▸ List.mem_cons_self)
        refine List.dropWhile_cons_of_neg fun part => ?_
        rcases Bool.or_eq_true_iff.mp part with inName | point
        · rw [isBlank_of_isIdentifierPart inName] at blank
          cases blank
        · rw [of_decide_eq_true point] at blank
          exact absurd blank (by decide)
  have opening : after? "(" (skipBlanks (call.gap ++ '(' :: (call.inside ++ ')' :: call.closing))) =
      some (call.inside ++ ')' :: call.closing) := by
    rw [skipBlanks_append call.blankGap (startsSolid_cons (by decide) _)]
    exact after?_eq_some_iff.mpr rfl
  unfold text
  rw [named, List.cons_append, callArguments?, if_pos start, behindName, opening, Option.bind_some,
    splitAtLast?_append call.not_mem_closing, Option.bind_some]
  exact if_pos call.skipBlanks_closing

end Shape

theorem evaluated_inside (present : call.arguments ≠ []) :
    (splitArguments call.inside).map (evaluateArgument bindings) =
      call.arguments.map LoggedArgument.value := by
  have written : call.arguments.map LoggedArgument.written ≠ [] :=
    mt List.map_eq_nil_iff.mp present
  have segments : ∀ text ∈ call.arguments.map LoggedArgument.written, IsSegment text := by
    intro text member
    obtain ⟨argument, _listed, rfl⟩ := List.mem_map.mp member
    exact argument.isSegment_written
  unfold inside
  rw [splitArguments_intercalate written segments, List.map_map, List.map_map]
  apply List.map_congr_left
  intro argument _listed
  exact argument.evaluate_trim_written

/-- A call with arguments prints their values; where all of these are empty, it is taken as a text
in which names are replaced. -/
theorem consoleLine_statement (present : call.arguments ≠ []) :
    consoleLine bindings call.statement =
      if call.printed = [] then String.ofList (substitute bindings call.text)
      else " ".intercalate (call.printed.map String.ofList) := by
  unfold consoleLine printed
  dsimp only
  rw [call.trim_statement, if_neg call.text_starts.1, call.callArguments?_text]
  dsimp only
  rw [call.evaluated_inside present]

/-- A logging call in which some argument has a value prints the values of its arguments with a
space between them, without the empty ones. -/
theorem consoleLine_of_printed {argument : LoggedArgument bindings}
    (listed : argument ∈ call.arguments) (valued : argument.value ≠ []) :
    consoleLine bindings call.statement =
      " ".intercalate (((call.arguments.map LoggedArgument.value).filter (· ≠ [])).map
        String.ofList) := by
  have present : call.arguments ≠ [] := List.ne_nil_of_mem listed
  have prints : call.printed ≠ [] := by
    apply List.ne_nil_of_mem (a := argument.value)
    exact List.mem_filter.mpr ⟨List.mem_map_of_mem listed, decide_eq_true valued⟩
  rw [call.consoleLine_statement present, if_neg prints]
  rfl

/-- Quoted texts with the marks that structure a call, an empty text, a template, a numeral and a
name. -/
def manyMarks : LoggingCall (.ofList [("i", "7")]) where
  before := [' ']
  callee := "console.log".toList
  gap := ['\t']
  arguments := [
    .spaced (.doubleQuoted (by decide) : Denotes _ _ "a), 'b;\\".toList),
    .spaced (.singleQuoted (by decide) : Denotes _ _ "".toList),
    .spaced (.template (by decide) : Denotes _ _ (substitute _ "i of (items,".toList)),
    .spaced (.numeral ⟨['-'], ['3'], ['.', '5', '0'], rfl, .inr rfl, by decide,
      .inr ⟨['5', '0'], rfl, by decide⟩⟩),
    .spaced (.boundName ⟨'i', [], rfl, by decide, nofun⟩ (by decide) : Denotes _ _ "7".toList)]
  semicolon := some [' ']
  after := ['\n']
  blankBefore := by decide
  isCallee := ⟨'c', "onsole.log".toList, rfl, by decide, List.all_eq_true.mp (by decide)⟩
  blankGap := by decide
  blankSemicolon := by
    intro blanks given
    cases given
    decide
  blankAfter := by decide

theorem manyMarks_printed :
    manyMarks.statement =
      " console.log\t( \"a), 'b;\\\"\n, ''\n, `i of (items,`\n, -3.50\n, i\n) ;\n" ∧
    (∃ argument ∈ manyMarks.arguments, argument.value ≠ []) ∧
    consoleLine (.ofList [("i", "7")]) manyMarks.statement = "a), 'b;\\ 7 of (items, -3.50 7" := by
  have listed : manyMarks.arguments.head (by decide) ∈ manyMarks.arguments := List.head_mem _
  have valued : (manyMarks.arguments.head (by decide)).value ≠ [] := by decide
  refine ⟨by decide +kernel, ⟨_, listed, valued⟩, ?_⟩
  rw [manyMarks.consoleLine_of_printed listed valued]
  decide +kernel

end LoggingCall

end LoopLesson
