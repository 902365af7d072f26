import LoopLesson.Pattern.Reading
import LoopLesson.Pattern.Room

/-!
The patterns that are made around a name.

Such a pattern is well-formed whatever the name.  But its machines have a state for every byte of the
name, as often as the name stands in the pattern, so that with a very long name they are too large
and the pattern cannot be used.
-/

namespace LoopLesson

namespace Pattern

theorem deepAmong?_append {depth : Nat} {first second : List Pattern}
    (shallow : deepAmong? depth first = none) (shallowToo : deepAmong? depth second = none) :
    deepAmong? depth (first ++ second) = none := by
  induction first with
  | nil => exact shallowToo
  | cons part rest ih =>
      rw [deepAmong?] at shallow
      rw [List.cons_append, deepAmong?]
      cases here : deepPart? depth part with
      | some found =>
          rw [here] at shallow
          cases shallow
      | none =>
          rw [here] at shallow
          exact ih shallow

theorem machines_cons {mode next : Mode} {part : Pattern} {machine : Machine}
    (here : part.machine mode = .ok (machine, next)) (rest : List Pattern) :
    machines mode (part :: rest) =
      (machines next rest).map fun answer => (machine :: answer.1, answer.2) := by
  rw [machines, here]
  change (machines next rest).bind (fun answer => .ok (machine :: answer.1, answer.2)) = _
  cases machines next rest with
  | error fault => rfl
  | ok answer => rfl

theorem machines_append {mode between after : Mode} {first second : List Pattern}
    {found further : List Machine} (compiled : machines mode first = .ok (found, between))
    (compiledToo : machines between second = .ok (further, after)) :
    machines mode (first ++ second) = .ok (found ++ further, after) := by
  induction first generalizing mode found with
  | nil =>
      cases compiled
      exact compiledToo
  | cons part rest ih =>
      cases here : part.machine mode with
      | error fault =>
          rw [machines, here] at compiled
          cases compiled
      | ok answer =>
          obtain ⟨machine, next⟩ := answer
          rw [machines_cons here] at compiled
          rw [List.cons_append, machines_cons here]
          cases others : machines next rest with
          | error fault =>
              rw [others] at compiled
              cases compiled
          | ok answer =>
              rw [others] at compiled
              cases compiled
              rw [ih others]
              rfl

/-- Wherever a text stands in a pattern outside of groups, it is read as parts that have such
machines and no parts deep inside them. -/
def Spells (text : List Char) (machines : List Machine) : Prop :=
  ∀ (parts : List Pattern) (offset : Nat) (rest : List Char), Apart rest →
    ∃ (count : Nat) (added : List Pattern) (stop : Nat),
      count ≤ text.length ∧ added.length = machines.length ∧
      Reader.Leads count (.standing 0 parts [] offset (text ++ rest))
        (.standing 0 (added.reverse ++ parts) [] stop rest) ∧
      deepAmong? 1 added = none ∧ Pattern.machines {} added = .ok (machines, {})

theorem Spells.append {first second : List Char} {machines further : List Machine}
    (spells : Spells first machines) (spellsOn : Spells second further)
    (apart : ∀ rest, Apart rest → Apart (second ++ rest)) :
    Spells (first ++ second) (machines ++ further) := by
  intro parts offset rest apartRest
  obtain ⟨count, added, middle, few, length, leads, shallow, compiled⟩ :=
    spells parts offset (second ++ rest) (apart rest apartRest)
  obtain ⟨more, addedToo, stop, fewToo, lengthToo, leadsOn, shallowToo, compiledToo⟩ :=
    spellsOn (added.reverse ++ parts) middle rest apartRest
  refine ⟨more + count, added ++ addedToo, stop, ?_, ?_, ?_, deepAmong?_append shallow shallowToo,
    machines_append compiled compiledToo⟩
  · rw [List.length_append]
    omega
  · rw [List.length_append, List.length_append, length, lengthToo]
  · rw [List.append_assoc, List.reverse_append, List.append_assoc]
    exact leads.trans leadsOn

theorem Spells.before {first second : List Char} {c : Char} {machines further : List Machine}
    (spells : Spells first machines) (spellsOn : Spells (c :: second) further)
    (notPreference : c ≠ '?') (notBrace : c ≠ '\x7b') :
    Spells (first ++ c :: second) (machines ++ further) :=
  spells.append spellsOn fun rest _ => apart_cons notPreference notBrace (second ++ rest)

/-- A text that is read as a single part. -/
theorem spells_part {text : List Char} {machine : Machine} {count : Nat}
    (few : count ≤ text.length)
    (reads : ∀ (parts : List Pattern) (offset : Nat) (rest : List Char), Apart rest →
      ∃ (part : Pattern) (stop : Nat),
        Reader.Leads count (.standing 0 parts [] offset (text ++ rest))
          (.standing 0 (part :: parts) [] stop rest) ∧
        deepPart? 1 part = none ∧ part.machine {} = .ok (machine, {})) :
    Spells text [machine] := by
  intro parts offset rest apart
  obtain ⟨part, stop, leads, shallow, compiled⟩ := reads parts offset rest apart
  refine ⟨count, [part], stop, few, rfl, leads, ?_, machines_cons compiled []⟩
  rw [deepAmong?, shallow]
  rfl

theorem spells_quoted (text : List Char) : Spells (quoted text) (text.map Machine.ofChar) := by
  induction text with
  | nil => exact fun parts offset rest _ => ⟨0, [], offset, Nat.le_refl _, rfl, .zero _, rfl, rfl⟩
  | cons c text ih =>
      cases special : isMeta c with
      | true =>
          rw [quoted_cons_of_meta special]
          have single : Spells ['\\', c] [Machine.ofChar c] :=
            spells_part (Nat.le_succ 1) fun _ _ _ _ =>
              ⟨_, _, Reader.leads_escaped special, rfl, rfl⟩
          exact single.append ih fun rest => apart_quoted text
      | false =>
          rw [quoted_cons_of_plain special]
          have single : Spells [c] [Machine.ofChar c] :=
            spells_part (Nat.le_refl 1) fun _ _ _ _ =>
              ⟨_, _, Reader.leads_literal special, rfl, rfl⟩
          exact single.append ih fun rest => apart_quoted text

section Pieces

theorem spells_start : Spells ['^'] [.textStart] :=
  spells_part (Nat.le_refl 1) fun _ _ _ _ => ⟨_, _, Reader.leads_start, rfl, rfl⟩

theorem spells_end : Spells ['$'] [.textEnd] :=
  spells_part (Nat.le_refl 1) fun _ _ _ _ => ⟨_, _, Reader.leads_end, rfl, rfl⟩

theorem spells_boundary : Spells ['\\', 'b'] [.place] :=
  spells_part (Nat.le_succ 1) fun _ _ _ apart => ⟨_, _, Reader.leads_boundary apart, rfl, rfl⟩

theorem spells_blanks : Spells ['\\', 's', '*'] [.repeated 0 none .blank] :=
  spells_part (Nat.le_succ 2) fun _ _ _ apart =>
    ⟨_, _, Reader.leads_space.trans (Reader.leads_star rfl apart), rfl, rfl⟩

theorem spells_comparison : Spells ['(', '<', '=', '|', '>', '=', ')']
    [.capture (.choice [.sequence [.ofChar '<', .ofChar '='],
      .sequence [.ofChar '>', .ofChar '=']])] :=
  spells_part (Nat.le_refl _) fun _ _ _ _ =>
    ⟨_, _, Reader.leads_opening (apart_cons (by decide) (by decide) _)
      |>.trans (Reader.leads_literal rfl) |>.trans (Reader.leads_literal rfl)
      |>.trans Reader.leads_bar
      |>.trans (Reader.leads_literal rfl) |>.trans (Reader.leads_literal rfl)
      |>.trans Reader.leads_closing_alternation, rfl, rfl⟩

theorem spells_integer : Spells ['(', '-', '?', '\\', 'd', '+', ')']
    [.capture (.sequence [.repeated 0 (some 1) (.ofChar '-'), .repeated 1 none .digit])] :=
  spells_part (Nat.le_succ 6) fun _ _ _ _ =>
    ⟨_, _, Reader.leads_opening (apart_cons (by decide) (by decide) _)
      |>.trans Reader.leads_dash
      |>.trans (Reader.leads_optional rfl (apart_cons (by decide) (by decide) _))
      |>.trans Reader.leads_digit
      |>.trans (Reader.leads_plus rfl (apart_cons (by decide) (by decide) _))
      |>.trans Reader.leads_closing, rfl, rfl⟩

theorem spells_sign : Spells ['(', '[', '+', '-', ']', ')']
    [.capture .sign] :=
  spells_part (Nat.le_add_left 3 3) fun _ _ _ _ =>
    ⟨_, _, Reader.leads_opening (apart_cons (by decide) (by decide) _)
      |>.trans Reader.leads_signs |>.trans Reader.leads_closing, rfl, rfl⟩

theorem spells_digits : Spells ['(', '\\', 'd', '+', ')'] [.capture (.repeated 1 none .digit)] :=
  spells_part (Nat.le_succ 4) fun _ _ _ _ =>
    ⟨_, _, Reader.leads_opening (apart_cons (by decide) (by decide) _)
      |>.trans Reader.leads_digit
      |>.trans (Reader.leads_plus rfl (apart_cons (by decide) (by decide) _))
      |>.trans Reader.leads_closing, rfl, rfl⟩

end Pieces

theorem toPattern_of_several {parts : List Pattern} (several : 2 ≤ parts.length)
    (start stop : Nat) :
    Sequence.toPattern ⟨start, parts.reverse⟩ stop = .concatenation ⟨start, stop⟩ parts := by
  have back := List.reverse_reverse parts
  have long : 2 ≤ parts.reverse.length := List.length_reverse.symm ▸ several
  unfold Sequence.toPattern
  match parts.reverse, long, back with
  | first :: second :: rest, _, back => exact congrArg (Pattern.concatenation _) back

theorem compiles_iff_of_spells {text : List Char} {machines : List Machine}
    (spells : Spells text machines) (several : 2 ≤ machines.length) :
    Compiles text ↔ (Machine.sequence machines).Fits := by
  obtain ⟨count, added, stop, few, length, leads, shallow, compiled⟩ :=
    spells [] 0 [] ⟨nofun, nofun⟩
  rw [List.append_nil, List.append_nil] at leads
  have parsed : Reader.readAll (text.length + 1) { cursor := { text } } =
      .ok (.concatenation ⟨0, stop⟩ added) := by
    have steps : text.length + 1 = text.length + 1 - count + count := by omega
    rw [steps]
    refine (leads _).trans ((Reader.readAll_at_end _).trans ?_)
    exact congrArg Except.ok (toPattern_of_several (length ▸ several) 0 stop)
  have deepNowhere : deepPart? 0 (.concatenation ⟨0, stop⟩ added) = none := by
    rw [deepPart?, if_pos (by decide), shallow]
  have read : Pattern.read text = .ok (.concatenation ⟨0, stop⟩ added) := by
    simp only [Pattern.read, parsed, bind, Except.bind, deepNowhere]
    rfl
  have compiledWhole : (Pattern.read text).bind (machine {}) = .ok (.sequence machines, {}) := by
    rw [read]
    change machine {} (.concatenation ⟨0, stop⟩ added) = _
    rw [machine, compiled]
    rfl
  unfold Compiles problem?
  rw [compiledWhole]
  by_cases fits : (Machine.sequence machines).Fits
  · simp [fits]
  · simp [fits]

end Pattern

namespace NamePattern

open Pattern

/-- A name, a comparison and a number. -/
def condition (name : List Char) : List Char :=
  "^".toList ++ (quoted name ++ "\\s*(<=|>=)\\s*(-?\\d+)$".toList)

/-- A name, an equals sign, the name again, a sign and digits. -/
def step (name : List Char) : List Char :=
  "^".toList ++ (quoted name ++ ("\\s*=\\s*".toList ++
    (quoted name ++ "\\s*([+-])\\s*(\\d+)$".toList)))

/-- A name between word boundaries. -/
def word (name : List Char) : List Char := "\\b".toList ++ (quoted name ++ "\\b".toList)

/-- The machines of what follows the name in a condition, up to the end of the text. -/
def conditionTail : List Machine :=
  [.repeated 0 none .blank,
    .capture (.choice [.sequence [.ofChar '<', .ofChar '='],
      .sequence [.ofChar '>', .ofChar '=']]),
    .repeated 0 none .blank,
    .capture (.sequence [.repeated 0 (some 1) (.ofChar '-'), .repeated 1 none .digit])]

/-- The machines between the two names of a step. -/
def stepMiddle : List Machine := [.repeated 0 none .blank, .ofChar '=', .repeated 0 none .blank]

/-- The machines of what follows the second name in a step, up to the end of the text. -/
def stepTail : List Machine :=
  [.repeated 0 none .blank, .capture .sign,
    .repeated 0 none .blank, .capture (.repeated 1 none .digit)]

section Spelling

theorem spells_conditionTail :
    Spells "\\s*(<=|>=)\\s*(-?\\d+)$".toList (conditionTail ++ [.textEnd]) := by
  have number := spells_integer.before spells_end (by decide) (by decide)
  have compared := spells_comparison.before
    (spells_blanks.before number (by decide) (by decide)) (by decide) (by decide)
  exact spells_blanks.before compared (by decide) (by decide)

theorem spells_stepMiddle : Spells "\\s*=\\s*".toList stepMiddle := by
  have equals := (spells_quoted ['=']).before spells_blanks (by decide) (by decide)
  exact spells_blanks.before equals (by decide) (by decide)

theorem spells_stepTail :
    Spells "\\s*([+-])\\s*(\\d+)$".toList (stepTail ++ [.textEnd]) := by
  have digits := spells_digits.before spells_end (by decide) (by decide)
  have signed := spells_sign.before
    (spells_blanks.before digits (by decide) (by decide)) (by decide) (by decide)
  exact spells_blanks.before signed (by decide) (by decide)

variable (name : List Char)

/-- A quoted name between other texts. -/
theorem spells_around {first second : List Char} {machines further : List Machine}
    (spells : Spells first machines) (spellsOn : Spells second further)
    (apart : ∀ rest, Apart rest → Apart (second ++ rest)) :
    Spells (first ++ (quoted name ++ second)) (machines ++ (name.map .ofChar ++ further)) := by
  refine spells.append ((spells_quoted name).append spellsOn apart) ?_
  intro rest apartRest
  rw [List.append_assoc]
  exact apart_quoted name (apart rest apartRest)

theorem spells_condition :
    Spells (condition name)
      ([.textStart] ++ ((name.map .ofChar ++ conditionTail) ++ [.textEnd])) := by
  rw [List.append_assoc]
  exact spells_around name spells_start spells_conditionTail
    fun _ _ => apart_cons (by decide) (by decide) _

theorem spells_step :
    Spells (step name)
      ([.textStart] ++ ((name.map .ofChar ++ (stepMiddle ++ (name.map .ofChar ++ stepTail))) ++
        [.textEnd])) := by
  rw [List.append_assoc, List.append_assoc, List.append_assoc]
  exact spells_around name spells_start
    (spells_around name spells_stepMiddle spells_stepTail
      fun _ _ => apart_cons (by decide) (by decide) _)
    fun _ _ => apart_cons (by decide) (by decide) _

theorem spells_word : Spells (word name) ([.place] ++ (name.map .ofChar ++ [.place])) :=
  spells_around name spells_boundary spells_boundary
    fun _ _ => apart_cons (by decide) (by decide) _

end Spelling

section Limits

open Machine

theorem weigh_conditionTail : Weigh conditionTail { ahead := 2984, back := 6900 } := by
  unfold conditionTail
  rw [blank_eq, digit_eq]
  decide +kernel

theorem weigh_stepMiddle : Weigh stepMiddle { ahead := 960, back := 1472 } := by
  unfold stepMiddle
  rw [blank_eq]
  decide +kernel

theorem weigh_stepTail : Weigh stepTail { ahead := 2760, back := 6676 } := by
  unfold stepTail
  rw [blank_eq, digit_eq, sign_eq]
  decide +kernel

/-- A pattern from the beginning of a text to its end can be used if there is room to read it
backwards, as long as it takes less room to read it onwards. -/
theorem compiles_iff_of_whole {text : List Char} {parts : List Machine} {total : Room}
    (spells : Spells text ([.textStart] ++ (parts ++ [.textEnd]))) (weigh : Weigh parts total)
    (lighter : total.ahead + 64 ≤ total.back) : Compiles text ↔ total.back + 128 ≤ limit := by
  have several : 2 ≤ ([.textStart] ++ (parts ++ [.textEnd]) : List Machine).length := by
    rw [List.length_append, List.length_append, List.length_singleton, List.length_singleton]
    omega
  have start : Weigh [.textStart] (.both 32) := by decide
  have stop : Weigh [.textEnd] (.both 32) := by decide
  have opens : holdsEarly opensText ([textStart] ++ (parts ++ [textEnd])) = true := rfl
  have closes : holdsEarly closesText ([textStart] ++ (parts ++ [textEnd])).reverse = true := by
    rw [List.reverse_append, List.reverse_append]
    rfl
  rw [compiles_iff_of_spells spells several,
    sequence_fits_iff (start.append (weigh.append stop)) several, opens, closes]
  simp only [Room.plus, Room.both, searchRoom, if_true, state]
  omega

variable (name : List Char)

theorem condition_compiles_iff : Compiles (condition name) ↔ byteLength name ≤ 327460 := by
  have weigh := (weigh_text name).append weigh_conditionTail
  rw [compiles_iff_of_whole (spells_condition name) weigh]
  · simp only [Room.plus, Room.both, state, limit]
    omega
  · simp only [Room.plus, Room.both]
    omega

theorem step_compiles_iff : Compiles (step name) ↔ byteLength name ≤ 163710 := by
  have weigh := (weigh_text name).append
    (weigh_stepMiddle.append ((weigh_text name).append weigh_stepTail))
  rw [compiles_iff_of_whole (spells_step name) weigh]
  · simp only [Room.plus, Room.both, state, limit]
    omega
  · simp only [Room.plus, Room.both]
    omega

/-- A place that is not at an end of the text may be looked for anywhere, and then it takes more
room to read onwards. -/
theorem word_compiles_iff : Compiles (word name) ↔ byteLength name ≤ 327671 := by
  have several : 2 ≤ ([.place] ++ (name.map .ofChar ++ [.place]) : List Machine).length := by
    rw [List.length_append, List.length_append, List.length_singleton]
    omega
  have edge : Weigh [.place] (.both 32) := by decide
  have anywhere : ∀ part ∈ ([.place] ++ (name.map .ofChar ++ [.place]) : List Machine),
      part.opensText = false ∧ part.closesText = false := by
    intro part member
    rcases List.mem_append.mp member with first | further
    · rw [List.mem_singleton.mp first]
      exact ⟨rfl, rfl⟩
    · rcases List.mem_append.mp further with letter | last
      · obtain ⟨c, _listed, rfl⟩ := List.mem_map.mp letter
        rw [ofChar_eq]
        exact ⟨rfl, rfl⟩
      · rw [List.mem_singleton.mp last]
        exact ⟨rfl, rfl⟩
  rw [compiles_iff_of_spells (spells_word name) several,
    sequence_fits_iff (edge.append ((weigh_text name).append edge)) several,
    holdsEarly_eq_false fun part member => (anywhere part member).1,
    holdsEarly_eq_false fun part member => (anywhere part (List.mem_reverse.mp member)).2]
  simp only [Room.plus, Room.both, searchRoom, Bool.false_eq_true, if_false, state, fork, way,
    branch, limit]
  omega

end Limits

instance (name : List Char) : Decidable (Compiles (condition name)) :=
  decidable_of_iff _ (condition_compiles_iff name).symm

instance (name : List Char) : Decidable (Compiles (step name)) :=
  decidable_of_iff _ (step_compiles_iff name).symm

instance (name : List Char) : Decidable (Compiles (word name)) :=
  decidable_of_iff _ (word_compiles_iff name).symm

end NamePattern

end LoopLesson
