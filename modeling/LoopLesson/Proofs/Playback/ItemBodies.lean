import LoopLesson.Playback.Lesson
import LoopLesson.Proofs.Loop.Grammar
import LoopLesson.Proofs.Number.ReadBack
import LoopLesson.Proofs.Statement.Logging

/-!
What the body of a loop over items prints when it logs the name of the item.

The condition `for (const name of …)` gives the item its name, whatever identifier that is.  The
body sees the item under this name and the place of the item under the name `index`, and the place
is bound last.  So a body that logs the name prints the item, except where the item is itself named
`index`: the trace then shows the item and the console its place.
-/

namespace LoopLesson

open Text

section Phrase

theorem search?_cons_of_none {α : Type} {read : Option Char → List Char → Option α}
    {before : Option Char} {c : Char} {rest : List Char}
    (missing : read before (c :: rest) = none) :
    search? read before (c :: rest) = search? read (some c) rest := by
  rw [search?, missing]

theorem search?_of_some {α : Type} {read : Option Char → List Char → Option α}
    {before : Option Char} {text : List Char} {found : α}
    (reading : read before text = some found) :
    search? read before text = some found := by
  cases text with
  | nil => exact reading
  | cons c rest => rw [search?, reading]

theorem afterDeclarator?_of_initial {α : Type} (read : List Char → Option α) {c : Char}
    (initial : c ∉ ['l', 'v', 'c']) (rest : List Char) :
    afterDeclarator? read (c :: rest) = none := by
  refine List.findSome?_eq_none_iff.mpr fun word listed => ?_
  cases found : after? word (c :: rest) with
  | none => rfl
  | some behind =>
      have split := after?_eq_some_iff.mp found
      simp only [declarators, List.mem_cons, List.not_mem_nil, or_false] at listed
      rcases listed with rfl | rfl | rfl
      · cases split
        exact absurd (by decide) initial
      · cases split
        exact absurd (by decide) initial
      · cases split
        exact absurd (by decide) initial

theorem nameBeforeOf?_phrase {name : List Char} (identifier : IsIdentifier name)
    (rest : List Char) : nameBeforeOf? (name ++ ' ' :: 'o' :: 'f' :: ' ' :: rest) = some name := by
  have outside : isIdentifierPart ' ' = false := by decide
  have named := identifier?_append identifier
    (head?_blanks_append allBlank_nil outside ('o' :: 'f' :: ' ' :: rest))
  rw [List.nil_append] at named
  unfold nameBeforeOf?
  rw [named]
  rfl

theorem startsSolid_of_nameBeforeOf? {text name : List Char}
    (found : nameBeforeOf? text = some name) : StartsSolid text := by
  obtain ⟨⟨front, rest⟩, named, _behind⟩ := Option.bind_eq_some_iff.mp found
  rw [← append_of_identifier? named]
  exact (isIdentifier_of_identifier? named).startsSolid rest

theorem isBoundary_before_declarator {word : String} (declared : word ∈ declarators)
    (rest : List Char) : isBoundary (some '(') (word.toList ++ rest).head? = true := by
  simp only [declarators, List.mem_cons, List.not_mem_nil, or_false] at declared
  rcases declared with rfl | rfl | rfl <;> rfl

/-- The name that a condition over items gives to the item. -/
theorem itemName?_phrase {word : String} (declared : word ∈ declarators) {name : List Char}
    (identifier : IsIdentifier name) (rest : List Char) :
    itemName? ('f' :: 'o' :: 'r' :: ' ' :: '(' ::
      (word.toList ++ ([' '] ++ (name ++ ' ' :: 'o' :: 'f' :: ' ' :: rest)))) = some name := by
  have skipped : ∀ (before : Option Char) (c : Char), c ∉ ['l', 'v', 'c'] → ∀ rest : List Char,
      (if isBoundary before (c :: rest).head? then afterDeclarator? nameBeforeOf? (c :: rest)
        else none) = none := by
    intro before c initial rest
    rw [afterDeclarator?_of_initial nameBeforeOf? initial, ite_self]
  have single : AllBlank [' '] := by decide
  have read : afterDeclarator? nameBeforeOf?
      (word.toList ++ ([' '] ++ (name ++ ' ' :: 'o' :: 'f' :: ' ' :: rest))) = some name := by
    refine (afterDeclarator?_eq_some_iff startsSolid_of_nameBeforeOf?).mpr ?_
    exact ⟨word, declared, [' '], _, rfl, List.cons_ne_nil _ _, single,
      nameBeforeOf?_phrase identifier rest⟩
  unfold itemName?
  rw [search?_cons_of_none (skipped _ _ (by decide) _),
    search?_cons_of_none (skipped _ _ (by decide) _),
    search?_cons_of_none (skipped _ _ (by decide) _),
    search?_cons_of_none (skipped _ _ (by decide) _),
    search?_cons_of_none (skipped _ _ (by decide) _)]
  apply search?_of_some
  rw [isBoundary_before_declarator declared, if_pos rfl]
  exact read

end Phrase

namespace ItemLoop

section Reading

theorem read_eq_ok {raw : Script} {loop : ItemLoop} (readable : read raw = .ok loop) :
    readItems raw.trimmed.start.toList = .ok loop.items ∧
      loop.itemName = itemNameOf raw.trimmed.condition ∧ loop.script = raw.trimmed := by
  unfold read at readable
  dsimp only at readable
  cases found : readItems raw.trimmed.start.toList with
  | error fault =>
      rw [found] at readable
      cases readable
  | ok items =>
      rw [found] at readable
      have same := Except.ok.inj readable
      dsimp only at same
      subst same
      dsimp only
      exact ⟨rfl, rfl, rfl⟩

theorem isFinite_of_readItem {text : List Char} {x : Number.Binary64}
    (readable : readItem text = .ok x) : x.isFinite = true := by
  unfold readItem at readable
  split at readable
  · split at readable
    · cases readable
      assumption
    · cases readable
  · cases readable

theorem isFinite_of_mapM_readItem {texts : List (List Char)} {items : List Number.Binary64}
    (readable : texts.mapM readItem = .ok items) : ∀ x ∈ items, x.isFinite = true := by
  induction texts generalizing items with
  | nil =>
      cases readable
      intro x member
      cases member
  | cons text rest ih =>
      rw [List.mapM_cons] at readable
      cases first : readItem text with
      | error fault =>
          rw [first] at readable
          cases readable
      | ok y =>
          cases later : rest.mapM readItem with
          | error fault =>
              rw [first, later] at readable
              cases readable
          | ok others =>
              rw [first, later] at readable
              cases readable
              intro x member
              rcases List.mem_cons.mp member with rfl | further
              · exact isFinite_of_readItem first
              · exact ih later x further

theorem isFinite_of_readItems {start : List Char} {items : List Number.Binary64}
    (readable : readItems start = .ok items) : ∀ x ∈ items, x.isFinite = true := by
  unfold readItems at readable
  split at readable
  · cases readable
  · split at readable
    · cases readable
    · exact isFinite_of_mapM_readItem readable

end Reading

end ItemLoop

theorem Text.trimmed_of_solid_ends {text : String} {first last : Char} {inner : List Char}
    (written : text.toList = first :: (inner ++ [last])) (opens : isBlank first = false)
    (closes : isBlank last = false) : trimmed text = text := by
  have kept := trim_around opens closes [] inner []
  rw [List.nil_append, ← written] at kept
  unfold trimmed
  rw [kept, ← String.toList_inj, String.toList_ofList, written]
  rfl

section Console

/-- A call that logs one bound name prints its value. -/
theorem consoleLine_boundName {bindings : Bindings} {name value : String}
    (identifier : IsIdentifier name.toList) (bound : bindings.get? name = some value)
    (nonempty : value ≠ "") : consoleLine bindings ("console.log(" ++ name ++ ")") = value := by
  have found : bindings.get? (String.ofList name.toList) = some value := by
    rw [String.ofList_toList]
    exact bound
  let argument : LoggedArgument bindings :=
    { before := []
      text := name.toList
      after := []
      value := value.toList
      blankBefore := allBlank_nil
      blankAfter := allBlank_nil
      denotes := .boundName identifier found }
  let call : LoggingCall bindings :=
    { before := []
      callee := "console.log".toList
      gap := []
      arguments := [argument]
      semicolon := none
      after := []
      blankBefore := allBlank_nil
      isCallee := ⟨'c', "onsole.log".toList, rfl, by decide, List.all_eq_true.mp (by decide)⟩
      blankGap := allBlank_nil
      blankSemicolon := nofun
      blankAfter := allBlank_nil }
  have written : call.statement = "console.log(" ++ name ++ ")" := by
    have inside : call.inside = name.toList := by
      change [','].intercalate [[] ++ (name.toList ++ [])] = name.toList
      rw [List.intercalate_singleton, List.nil_append, List.append_nil]
    rw [← String.toList_inj, String.toList_append, String.toList_append]
    unfold LoggingCall.statement LoggingCall.text
    rw [String.toList_ofList, inside]
    simp [call, LoggingCall.closing]
  have printed : call.printed = [value.toList] := by
    have kept : value.toList ≠ [] := mt String.toList_eq_nil_iff.mp nonempty
    exact List.filter_cons_of_pos (decide_eq_true kept)
  rw [← written, call.consoleLine_statement (List.cons_ne_nil argument []), printed,
    if_neg (List.cons_ne_nil _ _), List.map_singleton, String.ofList_toList,
    String.intercalate_singleton]

end Console

namespace ItemLoop

theorem naturalText_ne_empty (n : Nat) : Number.naturalText n ≠ "" := by
  intro empty
  have digits := congrArg String.toList empty
  unfold Number.naturalText at digits
  rw [String.toList_ofList] at digits
  exact Nat.toDigits_ne_nil digits

theorem get?_bindings (loop : ItemLoop) (index : Nat) (x : Number.Binary64) :
    (loop.bindings index x).get? loop.itemName =
      some (if loop.itemName = "index" then Number.naturalText index else x.text) := by
  change ((Bindings.empty.insert loop.itemName x.text).insert "index"
    (Number.naturalText index)).get? loop.itemName = _
  by_cases same : loop.itemName = "index"
  · rw [if_pos same, same, Bindings.get?_insert_self]
  · rw [if_neg same, Bindings.get?_insert_of_ne _ same, Bindings.get?_insert_self]

end ItemLoop

/-- The events at which the body runs. -/
def Playback.bodyEvents (playback : Playback) : List Event :=
  playback.events.filter fun event => event.highlight = some .body

/-- Where only the body prints, the lines on the console are those of the body. -/
theorem Playback.map_some_consoleLines {playback : Playback}
    (collected : playback.consoleLines = playback.events.filterMap Event.console)
    (printed : ∀ event ∈ playback.events,
      event.console.isSome = true ↔ event.highlight = some .body) :
    playback.consoleLines.map some = playback.bodyEvents.map Event.console := by
  unfold bodyEvents
  rw [collected, List.map_filterMap_some_eq_filter_map_isSome, List.filter_map]
  congr 1
  apply List.filter_congr
  intro event member
  rw [Bool.eq_iff_iff, Function.comp_apply, printed event member, decide_eq_true_iff]

namespace ItemLoop

theorem bodyEvents_playback (loop : ItemLoop) :
    loop.playback.bodyEvents =
      loop.items.zipIdx.map fun (x, index) => loop.bodyEvent index x := by
  unfold Playback.bodyEvents
  change (loop.startEvent ::
    loop.items.zipIdx.flatMap (fun (x, index) => loop.itemEvents index x) ++
    [loop.checkEvent loop.items.length "no (array finished)", loop.endEvent]).filter _ = _
  have ending : [loop.checkEvent loop.items.length "no (array finished)", loop.endEvent].filter
      (fun event => decide (event.highlight = some .body)) = [] := rfl
  rw [List.filter_append, ending, List.append_nil, List.filter_cons_of_neg Bool.false_ne_true,
    List.filter_flatMap, List.map_eq_flatMap]
  rfl

/-- The condition that gives a name to the item. -/
def conditionNaming (word name expression : String) : String :=
  "for (" ++ word ++ " " ++ name ++ " of " ++ expression ++ ")"

theorem toList_conditionNaming (word name expression : String) :
    (conditionNaming word name expression).toList = 'f' :: 'o' :: 'r' :: ' ' :: '(' ::
      (word.toList ++ ([' '] ++ (name.toList ++ ' ' :: 'o' :: 'f' :: ' ' ::
        (expression.toList ++ [')'])))) := by
  simp [conditionNaming]

theorem trimmed_conditionNaming (word name expression : String) :
    trimmed (conditionNaming word name expression) = conditionNaming word name expression := by
  have written : (conditionNaming word name expression).toList =
      'f' :: ('o' :: 'r' :: ' ' :: '(' :: (word.toList ++ ([' '] ++ (name.toList ++
        ' ' :: 'o' :: 'f' :: ' ' :: expression.toList))) ++ [')']) := by
    simp [conditionNaming]
  exact trimmed_of_solid_ends written (by decide) (by decide)

theorem itemNameOf_conditionNaming {word name : String} (declared : word ∈ declarators)
    (identifier : IsIdentifier name.toList) (expression : String) :
    itemNameOf (conditionNaming word name expression) = name := by
  unfold itemNameOf
  rw [toList_conditionNaming, itemName?_phrase declared identifier, Option.map_some,
    Option.getD_some, String.ofList_toList]

theorem trimmed_logging (name : String) :
    trimmed ("console.log(" ++ name ++ ")") = "console.log(" ++ name ++ ")" := by
  have written : ("console.log(" ++ name ++ ")").toList =
      'c' :: ("onsole.log(".toList ++ name.toList ++ [')']) := by
    simp
  exact trimmed_of_solid_ends written (by decide) (by decide)

/-- Of a loop whose condition names the item and whose body logs that name, every body event traces
the item under its name and prints it, except that a body that logs `index` prints the place. -/
theorem logged_item_of_play {script : Script} {loop : ItemLoop} {word name expression : String}
    (readable : read script = .ok loop) (declared : word ∈ declarators)
    (identifier : IsIdentifier name.toList)
    (condition : script.condition = conditionNaming word name expression)
    (body : script.body = "console.log(" ++ name ++ ")") :
    loop.itemName = name ∧
    LoopKind.forEach.play script = .ok loop.playback ∧
    loop.playback.bodyEvents.length = loop.items.length ∧
    ∀ index x, loop.items[index]? = some x →
      ∃ event, loop.playback.bodyEvents[index]? = some event ∧
        event.trace = some ("Body (item " ++ Number.naturalText (index + 1) ++ "): run " ++
          script.body ++ " with " ++ name ++ " = " ++ x.text) ∧
        event.console = some (if name = "index" then Number.naturalText index else x.text) := by
  obtain ⟨itemsRead, named, scripted⟩ := read_eq_ok readable
  have itemName : loop.itemName = name := by
    rw [named]
    change itemNameOf (trimmed script.condition) = name
    rw [condition, trimmed_conditionNaming, itemNameOf_conditionNaming declared identifier]
  have bodyKept : loop.script.body = script.body := by
    rw [scripted]
    change trimmed script.body = script.body
    rw [body, trimmed_logging]
  have plays : LoopKind.forEach.play script = .ok loop.playback := by
    change (read script).map playback = .ok loop.playback
    rw [readable]
    rfl
  have bodies := loop.bodyEvents_playback
  refine ⟨itemName, plays, ?_, ?_⟩
  · rw [bodies, List.length_map, List.length_zipIdx]
  · intro index x found
    refine ⟨loop.bodyEvent index x, ?_, ?_, ?_⟩
    · rw [bodies, List.getElem?_map, List.getElem?_zipIdx, found, Option.map_some, Option.map_some,
        Nat.zero_add]
    · unfold bodyEvent
      dsimp only
      rw [bodyKept, itemName]
    · have finite : x.isFinite = true :=
        isFinite_of_readItems itemsRead x (List.mem_of_getElem? found)
      have bound := loop.get?_bindings index x
      rw [itemName] at bound
      have nonempty : (if name = "index" then Number.naturalText index else x.text) ≠ "" := by
        split
        · exact naturalText_ne_empty index
        · intro empty
          have letters := Number.Binary64.text_toList_ne_nil finite
          rw [empty] at letters
          exact letters rfl
      change some (consoleLine (loop.bindings index x) loop.script.body) = _
      rw [bodyKept, body, consoleLine_boundName identifier bound nonempty]

/-- A loop whose item has the name of a word of the condition. -/
def ofOfScript : Script :=
  { start := "[-0, 2.50]", condition := "for (let of of [of)", body := "console.log(of)" }

theorem of_logged_as_item :
    ∃ loop, read ofOfScript = .ok loop ∧ loop.itemName = "of" ∧
      ∃ event, loop.playback.bodyEvents[1]? = some event ∧
        event.trace = some "Body (item 2): run console.log(of) with of = 2.5" ∧
        event.console = some "2.5" := by
  let loop : ItemLoop :=
    { items := [.ofBits 0x8000000000000000, .ofBits 0x4004000000000000]
      message := "Value"
      itemName := "of"
      script := ofOfScript }
  have readable : read ofOfScript = .ok loop := by decide +kernel
  have identifier : IsIdentifier "of".toList :=
    ⟨'o', ['f'], rfl, by decide, List.all_eq_true.mp (by decide)⟩
  have condition : ofOfScript.condition = conditionNaming "let" "of" "[of" := by decide +kernel
  have body : ofOfScript.body = "console.log(" ++ "of" ++ ")" := by decide +kernel
  obtain ⟨named, _plays, _lengths, each⟩ :=
    logged_item_of_play readable (by decide) identifier condition body
  obtain ⟨event, found, trace, console⟩ := each 1 (.ofBits 0x4004000000000000) rfl
  refine ⟨loop, readable, named, event, found, ?_, ?_⟩
  · rw [trace]
    decide +kernel
  · rw [console]
    decide +kernel

/-- A loop whose item is named like its place. -/
def indexScript : Script :=
  { start := "const xs = [3, -1.5];", condition := "for (const index of xs)", step := "next"
    body := "console.log(index)" }

theorem index_logged_as_place :
    indexScript.condition = conditionNaming "const" "index" "xs" ∧
    ∃ loop, read indexScript = .ok loop ∧ loop.itemName = "index" ∧
      loop.items.map Number.Binary64.text = ["3", "-1.5"] ∧
      loop.playback.bodyEvents.map Event.trace =
        [some "Body (item 1): run console.log(index) with index = 3",
          some "Body (item 2): run console.log(index) with index = -1.5"] ∧
      loop.playback.bodyEvents.map Event.console = [some "0", some "1"] := by
  let loop : ItemLoop :=
    { items := [.ofBits 0x4008000000000000, .ofBits 0xBFF8000000000000]
      message := "Value"
      itemName := "index"
      script := indexScript }
  have readable : read indexScript = .ok loop := by decide +kernel
  exact ⟨by decide +kernel, loop, readable, rfl, by decide +kernel, by decide +kernel,
    by decide +kernel⟩

end ItemLoop

end LoopLesson
