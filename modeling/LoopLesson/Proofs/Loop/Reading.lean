import Mathlib.Control.Monad.Basic
import LoopLesson.Proofs.Loop.Grammar
import LoopLesson.Proofs.Loop.Stages

/-!
What reading a counting loop answers, for every script.

A part of a script reads as a clause if it is that clause as the grammar writes it, up to blanks at
its ends and one closing semicolon.  A condition and a step are found only if the pattern around the
variable can be used, which very long names make too large.  The outcome of a script is decided by
the first stage that fails: the start, the condition, the step, a step of zero, a step in the wrong
direction, and a loop that runs too often.  Reading gives exactly this outcome.
-/

namespace LoopLesson

open Text

/-- What may follow a clause: blanks, or a single semicolon among blanks. -/
def IsClosing (text : List Char) : Prop :=
  AllBlank text ∨ ∃ gap trail, AllBlank gap ∧ AllBlank trail ∧ text = gap ++ ';' :: trail

/-- A text reads as what is written in a certain way, if that is all it has between the blanks at
its ends, one closing semicolon aside. -/
def ReadsAs (written : List Char → Prop) (text : String) : Prop :=
  ∃ lead core closing,
    text.toList = lead ++ (core ++ closing) ∧ AllBlank lead ∧ IsClosing closing ∧ written core

section ClauseText

variable {core : List Char}

theorem endsSolid_of_endsInDigit (ends : EndsInDigit core) : EndsSolid core := by
  obtain ⟨digit, last, isDigit⟩ := ends
  intro c lastAgain
  rw [last] at lastAgain
  cases lastAgain
  exact isBlank_of_isDigit isDigit

theorem ne_nil_of_endsInDigit (ends : EndsInDigit core) : core ≠ [] := by
  obtain ⟨digit, last, _isDigit⟩ := ends
  intro empty
  rw [empty] at last
  cases last

theorem clauseText_of_blank {lead trail : List Char} (starts : StartsSolid core)
    (ends : EndsInDigit core) (leadBlank : AllBlank lead) (trailBlank : AllBlank trail) :
    clauseText (lead ++ (core ++ trail)) = core := by
  have trimmed := trim_append leadBlank starts (endsSolid_of_endsInDigit ends) trailBlank
    (ne_nil_of_endsInDigit ends)
  obtain ⟨digit, last, isDigit⟩ := ends
  have noSemicolon : core.getLast? ≠ some ';' := by
    intro semicolon
    rw [last] at semicolon
    cases semicolon
    exact absurd isDigit (by decide)
  unfold clauseText
  rw [trimmed, if_neg noSemicolon]

theorem clauseText_of_semicolon {lead gap trail : List Char} (starts : StartsSolid core)
    (ends : EndsInDigit core) (leadBlank : AllBlank lead) (gapBlank : AllBlank gap)
    (trailBlank : AllBlank trail) :
    clauseText (lead ++ (core ++ (gap ++ ';' :: trail))) = core := by
  have regroup : core ++ (gap ++ ';' :: trail) = (core ++ (gap ++ [';'])) ++ trail := by
    simp only [List.append_assoc, List.singleton_append]
  have nonempty := ne_nil_of_endsInDigit ends
  have semicolonLast : EndsSolid (core ++ (gap ++ [';'])) := by
    intro c last
    rw [← List.append_assoc, List.getLast?_concat] at last
    cases last
    decide
  have trimmed : trim (lead ++ (core ++ (gap ++ ';' :: trail))) = (core ++ gap) ++ [';'] := by
    rw [regroup, List.append_assoc core gap]
    exact trim_append leadBlank (starts.append nonempty _) semicolonLast trailBlank
      (List.append_ne_nil_of_left_ne_nil nonempty _)
  unfold clauseText
  rw [trimmed, if_pos List.getLast?_concat, List.dropLast_concat]
  exact dropTrailingBlanks_append (endsSolid_of_endsInDigit ends) gapBlank

theorem exists_pieces_clauseText (text : List Char) :
    ∃ lead closing, text = lead ++ (clauseText text ++ closing) ∧ AllBlank lead ∧
      IsClosing closing := by
  obtain ⟨lead, trail, leadBlank, trailBlank, split⟩ := exists_blanks_trim text
  by_cases semicolon : (trim text).getLast? = some ';'
  · obtain ⟨inner, ending⟩ := List.getLast?_eq_some_iff.mp semicolon
    obtain ⟨gap, gapBlank, back⟩ := exists_blanks_dropTrailingBlanks inner
    have clause : clauseText text = dropTrailingBlanks inner := by
      unfold clauseText
      rw [if_pos semicolon, ending, List.dropLast_concat]
    refine ⟨lead, gap ++ ';' :: trail, ?_, leadBlank, .inr ⟨gap, trail, gapBlank, trailBlank, rfl⟩⟩
    rw [clause, ← List.append_assoc (dropTrailingBlanks inner), ← back, split, ending,
      List.append_assoc inner, List.singleton_append]
  · have clause : clauseText text = trim text := by
      unfold clauseText
      rw [if_neg semicolon]
    rw [clause]
    exact ⟨lead, trail, split, leadBlank, .inl trailBlank⟩

theorem clauseText_trim (text : List Char) : clauseText (trim text) = clauseText text := by
  unfold clauseText
  rw [trim_trim]

end ClauseText

/-- The clause of a trimmed text is exactly what the text reads as, for clauses that start with no
blank and end in a digit. -/
theorem readsAs_iff {written : List Char → Prop}
    (shape : ∀ {core}, written core → StartsSolid core ∧ EndsInDigit core) {text : String} :
    ReadsAs written text ↔ written (clauseText (Text.trimmed text).toList) := by
  unfold Text.trimmed
  rw [String.toList_ofList, clauseText_trim]
  constructor
  · rintro ⟨lead, core, closing, split, leadBlank, closes, writtenCore⟩
    obtain ⟨starts, ends⟩ := shape writtenCore
    have clause : clauseText text.toList = core := by
      rw [split]
      rcases closes with blank | ⟨gap, trail, gapBlank, trailBlank, rfl⟩
      · exact clauseText_of_blank starts ends leadBlank blank
      · exact clauseText_of_semicolon starts ends leadBlank gapBlank trailBlank
    rw [clause]
    exact writtenCore
  · intro writtenClause
    obtain ⟨lead, closing, split, leadBlank, closes⟩ := exists_pieces_clauseText text.toList
    exact ⟨lead, clauseText text.toList, closing, split, leadBlank, closes, writtenClause⟩

section Clauses

theorem StartClause.readsAs_iff {clause : StartClause} {text : String} :
    ReadsAs clause.Written text ↔ read? (Text.trimmed text).toList = some clause := by
  rw [read?_eq_some_iff]
  exact LoopLesson.readsAs_iff Written.shape

/-- A text is found to be a condition on a variable: it reads as one, and the pattern that looks for
conditions on this variable can be used. -/
def ConditionClause.FoundIn (clause : ConditionClause) (variableName : List Char)
    (text : String) : Prop :=
  Pattern.Compiles (NamePattern.condition variableName) ∧ ReadsAs (clause.Written variableName) text

/-- A text is found to be a step of a variable: it reads as one, and the pattern that looks for
steps of this variable can be used. -/
def StepClause.FoundIn (clause : StepClause) (variableName : List Char) (text : String) : Prop :=
  Pattern.Compiles (NamePattern.step variableName) ∧ ReadsAs (clause.Written variableName) text

theorem ConditionClause.foundIn_iff {variableName : List Char}
    (identifier : IsIdentifier variableName) {clause : ConditionClause} {text : String} :
    clause.FoundIn variableName text ↔
      read? variableName (Text.trimmed text).toList = some clause := by
  rw [read?_eq_some_iff]
  exact and_congr_right fun _usable => LoopLesson.readsAs_iff (Written.shape identifier)

theorem StepClause.foundIn_iff {variableName : List Char}
    (identifier : IsIdentifier variableName) {clause : StepClause} {text : String} :
    clause.FoundIn variableName text ↔
      read? variableName (Text.trimmed text).toList = some clause := by
  rw [read?_eq_some_iff identifier]
  exact and_congr_right fun _usable => LoopLesson.readsAs_iff (Written.shape identifier)

theorem StartClause.eq_of_readsAs {clause other : StartClause} {text : String}
    (reads : ReadsAs clause.Written text) (readsOther : ReadsAs other.Written text) :
    clause = other := by
  rw [StartClause.readsAs_iff] at reads readsOther
  rw [reads] at readsOther
  exact Option.some.inj readsOther

theorem StartClause.isIdentifier_of_readsAs {clause : StartClause} {text : String}
    (reads : ReadsAs clause.Written text) : IsIdentifier clause.name.toList := by
  obtain ⟨_lead, _core, _closing, _split, _blank, _closes, written⟩ := reads
  exact written.isIdentifier

/-- A step that leads away from the bound: it adds where the counter has to fall, or takes away
where it has to rise. -/
def StepClause.Opposes (step : StepClause) (comparison : Comparison) : Prop :=
  (step.negative = false ∧ comparison = .atLeast) ∨ (step.negative = true ∧ comparison = .atMost)

theorem StepClause.acceptsStep_iff {step : StepClause} (nonzero : step.amount ≠ 0)
    (comparison : Comparison) :
    comparison.acceptsStep step.delta = true ↔ ¬step.Opposes comparison := by
  have positive : 0 < step.amount := Nat.pos_of_ne_zero nonzero
  cases sign : step.negative with
  | false =>
      have rises : step.delta = step.amount := by simp [delta, sign]
      cases comparison with
      | atMost => simp [Comparison.acceptsStep, Opposes, rises, sign, positive]
      | atLeast => simp [Comparison.acceptsStep, Opposes, rises, sign]
  | true =>
      have falls : step.delta = -step.amount := by simp [delta, sign]
      cases comparison with
      | atMost => simp [Comparison.acceptsStep, Opposes, falls, sign]
      | atLeast => simp [Comparison.acceptsStep, Opposes, falls, sign, positive]

end Clauses

namespace CountingLoop

/-- The three clauses that are found in the parts of a script, all for the variable of the start. -/
structure Readings (raw : Script) (start : StartClause) (condition : ConditionClause)
    (step : StepClause) : Prop where
  startReads : ReadsAs start.Written raw.start
  conditionFound : condition.FoundIn start.name.toList raw.condition
  stepFound : step.FoundIn start.name.toList raw.step

/-- What a script describes: a loop, or the fault of the first stage that fails. -/
inductive Outcome (raw : Script) : Except LessonFault CountingLoop → Prop
  | startUnreadable (unreadable : ¬∃ start : StartClause, ReadsAs start.Written raw.start) :
      Outcome raw (.error .startUnreadable)
  | conditionUnreadable {start : StartClause} (startReads : ReadsAs start.Written raw.start)
      (unreadable : ¬∃ condition : ConditionClause,
        condition.FoundIn start.name.toList raw.condition) :
      Outcome raw (.error .conditionUnreadable)
  | stepUnreadable {start : StartClause} {condition : ConditionClause}
      (startReads : ReadsAs start.Written raw.start)
      (conditionFound : condition.FoundIn start.name.toList raw.condition)
      (unreadable : ¬∃ step : StepClause, step.FoundIn start.name.toList raw.step) :
      Outcome raw (.error .stepUnreadable)
  | stepZero {start : StartClause} {condition : ConditionClause} {step : StepClause}
      (readings : Readings raw start condition step) (zero : step.amount = 0) :
      Outcome raw (.error .stepZero)
  | stepDirection {start : StartClause} {condition : ConditionClause} {step : StepClause}
      (readings : Readings raw start condition step) (nonzero : step.amount ≠ 0)
      (opposes : step.Opposes condition.comparison) :
      Outcome raw (.error (.stepDirection condition.comparison))
  | tooManyIterations {start : StartClause} {condition : ConditionClause} {step : StepClause}
      (readings : Readings raw start condition step) (nonzero : step.amount ≠ 0)
      (agrees : ¬step.Opposes condition.comparison)
      (endless : ¬∃ visits,
        Visits.derive start.value condition.bound condition.comparison step.delta = .ok visits) :
      Outcome raw (.error .tooManyIterations)
  | readable {start : StartClause} {condition : ConditionClause} {step : StepClause}
      {visits : Visits} (readings : Readings raw start condition step)
      (nonzero : step.amount ≠ 0) (agrees : ¬step.Opposes condition.comparison)
      (derived :
        Visits.derive start.value condition.bound condition.comparison step.delta = .ok visits) :
      Outcome raw (.ok (ofClauses raw.trimmed start condition step visits))

section Stages

variable {raw : Script} {start : StartClause} {condition : ConditionClause} {step : StepClause}

theorem read_of_start_unreadable
    (unreadable : ¬∃ start : StartClause, ReadsAs start.Written raw.start) :
    read raw = .error .startUnreadable := by
  apply read_of_start_none
  apply Option.eq_none_iff_forall_ne_some.mpr
  intro start found
  exact unreadable ⟨start, StartClause.readsAs_iff.mpr found⟩

theorem read_of_condition_unreadable (startReads : ReadsAs start.Written raw.start)
    (unreadable : ¬∃ condition : ConditionClause,
      condition.FoundIn start.name.toList raw.condition) :
    read raw = .error .conditionUnreadable := by
  have identifier := StartClause.isIdentifier_of_readsAs startReads
  apply read_of_condition_none (StartClause.readsAs_iff.mp startReads)
  apply Option.eq_none_iff_forall_ne_some.mpr
  intro condition found
  exact unreadable ⟨condition, (ConditionClause.foundIn_iff identifier).mpr found⟩

theorem read_of_step_unreadable (startReads : ReadsAs start.Written raw.start)
    (conditionFound : condition.FoundIn start.name.toList raw.condition)
    (unreadable : ¬∃ step : StepClause, step.FoundIn start.name.toList raw.step) :
    read raw = .error .stepUnreadable := by
  have identifier := StartClause.isIdentifier_of_readsAs startReads
  apply read_of_step_none (StartClause.readsAs_iff.mp startReads)
    ((ConditionClause.foundIn_iff identifier).mp conditionFound)
  apply Option.eq_none_iff_forall_ne_some.mpr
  intro step found
  exact unreadable ⟨step, (StepClause.foundIn_iff identifier).mpr found⟩

theorem read_of_readings (readings : Readings raw start condition step) :
    read raw =
      if step.amount = 0 then .error .stepZero
      else if condition.comparison.acceptsStep step.delta then
        (Visits.derive start.value condition.bound condition.comparison step.delta).map
          (ofClauses raw.trimmed start condition step)
      else .error (.stepDirection condition.comparison) := by
  have identifier := StartClause.isIdentifier_of_readsAs readings.startReads
  exact read_of_clauses (StartClause.readsAs_iff.mp readings.startReads)
    ((ConditionClause.foundIn_iff identifier).mp readings.conditionFound)
    ((StepClause.foundIn_iff identifier).mp readings.stepFound)

theorem read_of_stepZero (readings : Readings raw start condition step)
    (zero : step.amount = 0) : read raw = .error .stepZero := by
  rw [read_of_readings readings, if_pos zero]

theorem read_of_opposes (readings : Readings raw start condition step)
    (nonzero : step.amount ≠ 0) (opposes : step.Opposes condition.comparison) :
    read raw = .error (.stepDirection condition.comparison) := by
  have refused : ¬condition.comparison.acceptsStep step.delta = true := by
    intro accepted
    exact (StepClause.acceptsStep_iff nonzero condition.comparison).mp accepted opposes
  rw [read_of_readings readings, if_neg nonzero, if_neg refused]

theorem read_of_agrees (readings : Readings raw start condition step)
    (nonzero : step.amount ≠ 0) (agrees : ¬step.Opposes condition.comparison) :
    read raw =
      (Visits.derive start.value condition.bound condition.comparison step.delta).map
        (ofClauses raw.trimmed start condition step) := by
  have accepted := (StepClause.acceptsStep_iff nonzero condition.comparison).mpr agrees
  rw [read_of_readings readings, if_neg nonzero, if_pos accepted]

end Stages

theorem Outcome.read_eq {raw : Script} {result : Except LessonFault CountingLoop}
    (outcome : Outcome raw result) : read raw = result := by
  cases outcome with
  | startUnreadable unreadable => exact read_of_start_unreadable unreadable
  | conditionUnreadable startReads unreadable =>
      exact read_of_condition_unreadable startReads unreadable
  | stepUnreadable startReads conditionFound unreadable =>
      exact read_of_step_unreadable startReads conditionFound unreadable
  | stepZero readings zero => exact read_of_stepZero readings zero
  | stepDirection readings nonzero opposes => exact read_of_opposes readings nonzero opposes
  | tooManyIterations readings nonzero agrees endless =>
      rw [read_of_agrees readings nonzero agrees]
      cases derived : Visits.derive _ _ _ _ with
      | error fault =>
          rw [Visits.follow_error derived]
          rfl
      | ok visits => exact absurd ⟨visits, derived⟩ endless
  | readable readings nonzero agrees derived =>
      rw [read_of_agrees readings nonzero agrees, derived]
      rfl

/-- Every script has an outcome: some stage is the first to fail, or none fails. -/
theorem exists_outcome (raw : Script) : ∃ result, Outcome raw result := by
  by_cases startReadable : ∃ start : StartClause, ReadsAs start.Written raw.start
  case neg => exact ⟨_, .startUnreadable startReadable⟩
  obtain ⟨start, startReads⟩ := startReadable
  by_cases conditionReadable : ∃ condition : ConditionClause,
      condition.FoundIn start.name.toList raw.condition
  case neg => exact ⟨_, .conditionUnreadable startReads conditionReadable⟩
  obtain ⟨condition, conditionFound⟩ := conditionReadable
  by_cases stepReadable : ∃ step : StepClause, step.FoundIn start.name.toList raw.step
  case neg => exact ⟨_, .stepUnreadable startReads conditionFound stepReadable⟩
  obtain ⟨step, stepFound⟩ := stepReadable
  have readings : Readings raw start condition step := ⟨startReads, conditionFound, stepFound⟩
  by_cases zero : step.amount = 0
  case pos => exact ⟨_, .stepZero readings zero⟩
  by_cases opposes : step.Opposes condition.comparison
  case pos => exact ⟨_, .stepDirection readings zero opposes⟩
  by_cases derivable : ∃ visits,
      Visits.derive start.value condition.bound condition.comparison step.delta = .ok visits
  case neg => exact ⟨_, .tooManyIterations readings zero opposes derivable⟩
  obtain ⟨visits, derived⟩ := derivable
  exact ⟨_, .readable readings zero opposes derived⟩

theorem byteLength_of_isIdentifier {name : List Char} (identifier : IsIdentifier name) :
    byteLength name = name.length := by
  have parts := identifier.all_parts
  clear identifier
  induction name with
  | nil => rfl
  | cons c rest ih =>
      obtain ⟨part, further⟩ := List.forall_mem_cons.mp parts
      have low : c.toNat ≤ 0x7F := Nat.le_of_lt_succ (toNat_of_isIdentifierPart part)
      rw [byteLength, CodeRanges.utf8Size_eq, if_pos low, ih further, List.length_cons,
        Nat.add_comm]

/-- For every script, reading answers exactly the outcome that the grammar, the order of the stages
and the patterns that can be used give it; the start clause, whose variable the later stages refer
to, is unique; and the patterns around its variable can be used up to a length of the name. -/
theorem read_eq_iff_outcome (raw : Script) :
    (∀ result, read raw = result ↔ Outcome raw result) ∧
      (∀ start other : StartClause,
        ReadsAs start.Written raw.start → ReadsAs other.Written raw.start → start = other) ∧
      ∀ start : StartClause, ReadsAs start.Written raw.start →
        (Pattern.Compiles (NamePattern.condition start.name.toList) ↔
          start.name.toList.length ≤ 327460) ∧
        (Pattern.Compiles (NamePattern.step start.name.toList) ↔
          start.name.toList.length ≤ 163710) := by
  refine ⟨?_, ?_, ?_⟩
  · intro result
    constructor
    · intro answered
      obtain ⟨described, outcome⟩ := exists_outcome raw
      rw [← answered, outcome.read_eq]
      exact outcome
    · exact Outcome.read_eq
  · intro start other reads readsOther
    exact StartClause.eq_of_readsAs reads readsOther
  · intro start reads
    have bytes := byteLength_of_isIdentifier (StartClause.isIdentifier_of_readsAs reads)
    rw [NamePattern.condition_compiles_iff, NamePattern.step_compiles_iff, bytes]
    exact ⟨Iff.rfl, Iff.rfl⟩

/-- A declarator may itself be the name of the variable, and a semicolon among blanks may close a
clause. -/
theorem outcome_of_declarator_as_name :
    ∃ (raw : Script) (loop : CountingLoop) (start : StartClause),
      raw.start = " let = 2 ;" ∧ Outcome raw (.ok loop) ∧ loop.name = "let" ∧
      loop.values = [2, 1] ∧ loop.exit = 0 ∧ ReadsAs start.Written raw.start ∧
      Pattern.Compiles (NamePattern.step start.name.toList) := by
  let raw : Script :=
    { start := " let = 2 ;"
      condition := "let>=1"
      step := "let = let - 1; " }
  let loop : CountingLoop :=
    { name := "let"
      start := 2
      comparison := .atLeast
      bound := 1
      step := -1
      values := [2, 1]
      exit := 0
      message := defaultMessage
      script := raw.trimmed }
  have readable : read raw = .ok loop := by decide +kernel
  obtain ⟨exactly, _unique, usable⟩ := read_eq_iff_outcome raw
  have reads : ReadsAs (StartClause.Written ⟨"let", 2⟩) raw.start := by
    rw [StartClause.readsAs_iff]
    decide +kernel
  exact ⟨raw, loop, _, rfl, (exactly (.ok loop)).mp readable, rfl, rfl, rfl, reads,
    (usable _ reads).2.mpr (by decide)⟩

section LongNames

/-- A script whose variable is so many letters long. -/
def longNamed (count : Nat) : Script :=
  let name := List.replicate count 'a'
  { start := String.ofList (name ++ "=1".toList)
    condition := String.ofList (name ++ "<=5".toList)
    step := String.ofList (name ++ ('=' :: (name ++ "+0".toList))) }

def longStart (count : Nat) : StartClause :=
  { name := String.ofList (List.replicate count 'a'), value := 1 }

theorem readsAs_whole {written : List Char → Prop} {text : List Char} (whole : written text) :
    ReadsAs written (String.ofList text) := by
  refine ⟨[], text, [], ?_, allBlank_nil, .inl allBlank_nil, whole⟩
  rw [String.toList_ofList, List.append_nil, List.nil_append]

theorem isIdentifier_replicate {count : Nat} (positive : 0 < count) :
    IsIdentifier (List.replicate count 'a') := by
  cases count with
  | zero => exact absurd positive (Nat.lt_irrefl 0)
  | succ count =>
      refine ⟨'a', List.replicate count 'a', rfl, by decide, ?_⟩
      intro c member
      rw [List.eq_of_mem_replicate member]
      decide

theorem digits_singleton {c : Char} (digit : c.isDigit = true) :
    Number.Digits [c] (Nat.ofDigitChars 10 [c] 0) :=
  ⟨List.cons_ne_nil _ _, List.forall_mem_singleton.mpr digit, rfl⟩

variable {count : Nat}

theorem longStart_name : (longStart count).name.toList = List.replicate count 'a' :=
  String.toList_ofList

theorem longStart_reads (positive : 0 < count) :
    ReadsAs (longStart count).Written (longNamed count).start := by
  apply readsAs_whole
  have fits : Number.FitsWord 1 := by decide
  refine .inr ⟨[], [], ['1'], ?_, ?_, allBlank_nil, allBlank_nil, ?_, fits⟩
  · rw [longStart_name]
    rfl
  · rw [longStart_name]
    exact isIdentifier_replicate positive
  · exact .inl ⟨1, digits_singleton rfl, rfl⟩

theorem longCondition_reads :
    ReadsAs (ConditionClause.Written (longStart count).name.toList ⟨.atMost, 5⟩)
      (longNamed count).condition := by
  apply readsAs_whole
  refine ⟨[], [], ['5'], ?_, allBlank_nil, allBlank_nil, ?_, by decide⟩
  · rw [longStart_name]
    rfl
  · exact .inl ⟨5, digits_singleton rfl, rfl⟩

theorem longStep_reads :
    ReadsAs (StepClause.Written (longStart count).name.toList ⟨false, 0⟩)
      (longNamed count).step := by
  apply readsAs_whole
  refine ⟨[], [], [], [], ['0'], ?_, allBlank_nil, allBlank_nil, allBlank_nil, allBlank_nil, ?_,
    by decide⟩
  · rw [longStart_name]
    rfl
  · exact digits_singleton rfl

theorem byteLength_longStart : byteLength (longStart count).name.toList = count := by
  rw [longStart_name, byteLength_replicate]
  exact Nat.mul_one count

/-- All clauses of a script may read as they should, and yet the step is not found, because the name
of the variable makes its pattern too large. -/
theorem step_of_long_name_not_found :
    ∃ (start : StartClause) (condition : ConditionClause) (step : StepClause),
      ReadsAs start.Written (longNamed 170000).start ∧
      ReadsAs (condition.Written start.name.toList) (longNamed 170000).condition ∧
      ReadsAs (step.Written start.name.toList) (longNamed 170000).step ∧ step.amount = 0 ∧
      read (longNamed 170000) = .error .stepUnreadable := by
  have conditionUsable :
      Pattern.Compiles (NamePattern.condition (longStart 170000).name.toList) := by
    rw [NamePattern.condition_compiles_iff, byteLength_longStart]
    decide
  have stepTooLarge : ¬Pattern.Compiles (NamePattern.step (longStart 170000).name.toList) := by
    rw [NamePattern.step_compiles_iff, byteLength_longStart]
    decide
  have startReads := longStart_reads (Nat.succ_pos 169999)
  have notFound : ¬∃ step : StepClause,
      step.FoundIn (longStart 170000).name.toList (longNamed 170000).step :=
    fun ⟨_, usable, _⟩ => stepTooLarge usable
  exact ⟨longStart 170000, ⟨.atMost, 5⟩, ⟨false, 0⟩, startReads, longCondition_reads,
    longStep_reads, rfl,
    read_of_step_unreadable startReads ⟨conditionUsable, longCondition_reads⟩ notFound⟩

end LongNames

end CountingLoop

end LoopLesson
