import Mathlib.Data.List.Forall2
import LoopLesson.Playback.Json

/-!
Playbacks survive JSON: what is written is read back, in whatever order the fields of an object are
listed.

An object is a table from names to values, so two values are alike when they differ at most in how
their tables are listed.  The readers look fields up by name and cannot tell alike values apart, and
the writers put each field under the name by which it is looked up.
-/

namespace LoopLesson
namespace Json

/-- Two values that differ at most in how the fields of their objects are listed. -/
inductive Alike : Json → Json → Prop
  | same (value : Json) : Alike value value
  | list {items others : List Json} (each : List.Forall₂ Alike items others) :
      Alike (.list items) (.list others)
  | object {fields others : List (String × Json)}
      (each : ∀ name, Option.Rel Alike (fields.lookup name) (others.lookup name)) :
      Alike (.object fields) (.object others)

section Tables

theorem lookup_eq_of_perm {fields others : List (String × Json)}
    (reordered : fields.Perm others) (distinct : (fields.map Prod.fst).Nodup) (name : String) :
    fields.lookup name = others.lookup name := by
  induction reordered with
  | nil => rfl
  | cons field rest ih =>
      rw [List.map_cons, List.nodup_cons] at distinct
      rw [List.lookup_cons, List.lookup_cons, ih distinct.2]
  | swap first second rest =>
      simp only [List.map_cons, List.nodup_cons, List.mem_cons, not_or] at distinct
      rw [List.lookup_cons, List.lookup_cons, List.lookup_cons, List.lookup_cons]
      cases isFirst : name == first.1 with
      | false => rfl
      | true =>
          have different : second.1 ≠ name := by
            rw [eq_of_beq isFirst]
            exact distinct.1.1
          rw [beq_eq_false_iff_ne.mpr different.symm]
  | trans left right ihLeft ihRight =>
      have stillDistinct := (left.map Prod.fst).nodup_iff.mp distinct
      rw [ihLeft distinct, ihRight stillDistinct]

/-- Listing the fields of an object in another order, and the fields of the objects in it, gives an
alike value. -/
theorem alike_of_perm {fields middle others : List (String × Json)}
    (reordered : fields.Perm middle) (distinct : (fields.map Prod.fst).Nodup)
    (each : List.Forall₂ (fun left right => left.1 = right.1 ∧ Alike left.2 right.2)
      middle others) :
    Alike (.object fields) (.object others) := by
  refine .object fun name => ?_
  rw [lookup_eq_of_perm reordered distinct]
  clear reordered distinct
  induction each with
  | nil => exact .none
  | @cons left right _ _ first rest ih =>
      rw [List.lookup_cons, List.lookup_cons, first.1]
      cases name == right.1 with
      | false => exact ih
      | true => exact .some first.2

end Tables

/-- A reader that cannot tell alike values apart. -/
def SeesValue {α : Type} (read : Json → Option α) : Prop :=
  ∀ left right : Json, Alike left right → read left = read right

section Readers

variable {α : Type} {read : Json → Option α}

theorem seesValue_text? : SeesValue text? := by
  intro left right alike
  cases alike <;> rfl

theorem seesValue_optionalText? : SeesValue optionalText? := by
  intro left right alike
  cases alike <;> rfl

theorem SeesValue.mapM_eq (sees : SeesValue read) {items others : List Json}
    (each : List.Forall₂ Alike items others) : items.mapM read = others.mapM read := by
  induction each with
  | nil => rfl
  | cons first rest ih => rw [List.mapM_cons, List.mapM_cons, sees _ _ first, ih]

theorem seesValue_texts? : SeesValue texts? := by
  intro left right alike
  cases alike with
  | same => rfl
  | list each => exact seesValue_text?.mapM_eq each
  | object each => rfl

theorem SeesValue.map_eq (sees : SeesValue read) {left right : Option Json}
    (alike : Option.Rel Alike left right) : left.map read = right.map read := by
  cases alike with
  | none => rfl
  | some same => rw [Option.map_some, Option.map_some, sees _ _ same]

theorem fieldOr?_eq_getD (absent : α) (name : String) (fields : List (String × Json)) :
    fieldOr? absent read name fields = ((fields.lookup name).map read).getD (some absent) := by
  unfold fieldOr?
  cases fields.lookup name <;> rfl

theorem requiredField?_eq_getD (name : String) (fields : List (String × Json)) :
    requiredField? read name fields = ((fields.lookup name).map read).getD none := by
  unfold requiredField?
  cases fields.lookup name <;> rfl

theorem bareName?_eq_some_iff {fields : List (String × Json)} {name : String} :
    bareName? fields = some name ↔
      fields.lookup name = some .null ∧ ∀ other, other ≠ name → fields.lookup other = none := by
  constructor
  · intro bare
    unfold bareName? at bare
    split at bare
    · rename_i rest
      split at bare
      · rename_i alone
        cases bare
        refine ⟨List.lookup_cons_self, ?_⟩
        intro other different
        rw [List.lookup_cons, beq_eq_false_iff_ne.mpr different, List.lookup_eq_none_iff]
        intro field listed
        rw [alone field listed]
        exact bne_iff_ne.mpr different
      · cases bare
    · cases bare
  · rintro ⟨found, unnamed⟩
    cases fields with
    | nil => cases found
    | cons field rest =>
        obtain ⟨first, value⟩ := field
        have named : first = name := by
          by_contra different
          have absent := unnamed first different
          rw [List.lookup_cons_self] at absent
          cases absent
        subst named
        rw [List.lookup_cons_self] at found
        cases found
        refine if_pos fun field listed => ?_
        by_contra different
        have absent := List.lookup_eq_none_iff.mp (unnamed field.1 different) field
          (List.mem_cons_of_mem _ listed)
        exact bne_iff_ne.mp absent rfl

theorem eq_null_iff_of_rel {left right : Option Json} (alike : Option.Rel Alike left right) :
    left = some .null ↔ right = some .null := by
  cases alike with
  | none => rfl
  | some same => cases same <;> simp

theorem eq_none_iff_of_rel {left right : Option Json} (alike : Option.Rel Alike left right) :
    left = none ↔ right = none := by
  cases alike <;> simp

theorem bareName?_of_alike {fields others : List (String × Json)}
    (each : ∀ name, Option.Rel Alike (fields.lookup name) (others.lookup name)) :
    bareName? fields = bareName? others := by
  have absent := fun name => eq_none_iff_of_rel (each name)
  refine Option.ext fun name => ?_
  rw [bareName?_eq_some_iff, bareName?_eq_some_iff, eq_null_iff_of_rel (each name)]
  simp only [absent]

end Readers

end Json

open Json

theorem Part.seesValue_optionOfJson? : SeesValue optionOfJson? := by
  intro left right alike
  cases alike with
  | same => rfl
  | list each => rfl
  | object each =>
      simp only [optionOfJson?, bareName?_of_alike each]

theorem Event.seesValue_ofJson? : SeesValue ofJson? := by
  intro left right alike
  cases alike with
  | same => rfl
  | object each =>
      have highlight := Part.seesValue_optionOfJson?.map_eq (each "highlight")
      have trace := seesValue_optionalText?.map_eq (each "trace")
      have console := seesValue_optionalText?.map_eq (each "console")
      have counter := seesValue_optionalText?.map_eq (each "counter")
      simp only [ofJson?, fieldOr?_eq_getD, highlight, trace, console, counter]
  | list each =>
      -- Only a list of exactly four is read at all.
      rcases each with
        _ | ⟨highlight, _ | ⟨trace, _ | ⟨console, _ | ⟨counter, _ | ⟨further, rest⟩⟩⟩⟩⟩
      · rfl
      · rfl
      · rfl
      · rfl
      · simp only [ofJson?, Part.seesValue_optionOfJson? _ _ highlight,
          seesValue_optionalText? _ _ trace, seesValue_optionalText? _ _ console,
          seesValue_optionalText? _ _ counter]
      · rfl

theorem Playback.seesValue_eventsOfJson? : SeesValue eventsOfJson? := by
  intro left right alike
  cases alike with
  | same => rfl
  | list each => exact Event.seesValue_ofJson?.mapM_eq each
  | object each => rfl

theorem Playback.seesValue_ofJson? : SeesValue ofJson? := by
  intro left right alike
  cases alike with
  | same => rfl
  | object each =>
      have events := seesValue_eventsOfJson?.map_eq (each "events")
      have traceLines := seesValue_texts?.map_eq (each "trace_lines")
      have consoleLines := seesValue_texts?.map_eq (each "console_lines")
      have finalCounter := seesValue_text?.map_eq (each "final_counter")
      simp only [ofJson?, requiredField?_eq_getD, events, traceLines, consoleLines, finalCounter]
  | list each =>
      rcases each with
        _ | ⟨events, _ | ⟨traceLines, _ | ⟨consoleLines, _ | ⟨finalCounter, _ | ⟨further, rest⟩⟩⟩⟩⟩
      · rfl
      · rfl
      · rfl
      · rfl
      · simp only [ofJson?, seesValue_eventsOfJson? _ _ events, seesValue_texts? _ _ traceLines,
          seesValue_texts? _ _ consoleLines, seesValue_text? _ _ finalCounter]
      · rfl

section Writing

theorem Part.optionOfJson?_optionToJson (highlight : Option Part) :
    optionOfJson? (optionToJson highlight) = some highlight := by
  cases highlight with
  | none => rfl
  | some part =>
      change (ofName? part.name).map some = some (some part)
      rw [ofName?_name, Option.map_some]

/-- A list is read back item by item. -/
theorem Json.mapM_map_eq {α : Type} {read : Json → Option α} {write : α → Json}
    (back : ∀ item, read (write item) = some item) (items : List α) :
    (items.map write).mapM read = some items := by
  induction items with
  | nil => rfl
  | cons item rest ih =>
      rw [List.map_cons, List.mapM_cons, back, ih]
      rfl

theorem Json.texts?_list (lines : List String) : texts? (.list (lines.map .text)) = some lines := by
  have back : ∀ line : String, text? (.text line) = some line := fun _ => rfl
  exact mapM_map_eq back lines

theorem Json.lookup_cons_of_ne {name other : String} (different : name ≠ other) (value : Json)
    (rest : List (String × Json)) : ((other, value) :: rest).lookup name = rest.lookup name := by
  rw [List.lookup_cons, beq_eq_false_iff_ne.mpr different]

namespace Event

section OptionalFields

variable {name : String} {rest : List (String × Json)}

/-- A field that may be left out is found by its name, if no later field has that name. -/
theorem lookup_optionalField (value : Option String) (unnamed : rest.lookup name = none) :
    (optionalField name value ++ rest).lookup name = value.map .text := by
  cases value with
  | none => exact unnamed
  | some text => rw [optionalField, List.cons_append, List.lookup_cons_self, Option.map_some]

theorem lookup_optionalField_of_ne {other : String} (different : name ≠ other)
    (value : Option String) :
    (optionalField other value ++ rest).lookup name = rest.lookup name := by
  cases value with
  | none => rfl
  | some text => rw [optionalField, List.cons_append, lookup_cons_of_ne different, List.nil_append]

theorem fieldOr?_of_lookup {fields : List (String × Json)} {value : Option String}
    (found : fields.lookup name = value.map .text) :
    fieldOr? none optionalText? name fields = some value := by
  rw [fieldOr?_eq_getD, found]
  cases value <;> rfl

end OptionalFields

/-- The fields that an event is written as, whichever of them are left out. -/
def fields (event : Event) : List (String × Json) :=
  ("highlight", Part.optionToJson event.highlight) ::
    (optionalField "trace" event.trace ++ (optionalField "console" event.console ++
      (optionalField "counter" event.counter ++ [])))

theorem toJson_eq (event : Event) : event.toJson = .object event.fields := by
  unfold toJson fields
  rw [List.append_nil, List.append_assoc]

theorem lookup_trace (event : Event) : event.fields.lookup "trace" = event.trace.map .text := by
  unfold fields
  rw [lookup_cons_of_ne (by decide)]
  apply lookup_optionalField
  rw [lookup_optionalField_of_ne (by decide), lookup_optionalField_of_ne (by decide)]
  rfl

theorem lookup_console (event : Event) :
    event.fields.lookup "console" = event.console.map .text := by
  unfold fields
  rw [lookup_cons_of_ne (by decide), lookup_optionalField_of_ne (by decide)]
  apply lookup_optionalField
  rw [lookup_optionalField_of_ne (by decide)]
  rfl

theorem lookup_counter (event : Event) :
    event.fields.lookup "counter" = event.counter.map .text := by
  unfold fields
  rw [lookup_cons_of_ne (by decide), lookup_optionalField_of_ne (by decide),
    lookup_optionalField_of_ne (by decide)]
  exact lookup_optionalField event.counter rfl

theorem ofJson?_toJson (event : Event) : ofJson? event.toJson = some event := by
  have highlight : fieldOr? none Part.optionOfJson? "highlight" event.fields =
      some event.highlight := by
    rw [fieldOr?_eq_getD, fields, List.lookup_cons_self, Option.map_some, Option.getD_some,
      Part.optionOfJson?_optionToJson]
  rw [toJson_eq, ofJson?, highlight, fieldOr?_of_lookup event.lookup_trace,
    fieldOr?_of_lookup event.lookup_console, fieldOr?_of_lookup event.lookup_counter]
  rfl

end Event

namespace Playback

theorem eventsOfJson?_list (events : List Event) :
    eventsOfJson? (.list (events.map Event.toJson)) = some events :=
  mapM_map_eq Event.ofJson?_toJson events

theorem ofJson?_toJson (playback : Playback) : ofJson? playback.toJson = some playback := by
  -- All four fields are there, each under a name of its own.
  change (do
    let events ← eventsOfJson? (.list (playback.events.map Event.toJson))
    let traceLines ← texts? (.list (playback.traceLines.map .text))
    let consoleLines ← texts? (.list (playback.consoleLines.map .text))
    let finalCounter ← text? (.text playback.finalCounter)
    return { events, traceLines, consoleLines, finalCounter }) = some playback
  rw [eventsOfJson?_list, texts?_list, texts?_list]
  rfl

/-- A playback is read back from what it is written as, with the fields of its objects in any
order, and no two playbacks are written alike. -/
theorem survives_json :
    (∀ playback : Playback, ofJson? playback.toJson = some playback) ∧
    Function.Injective toJson ∧
    ∀ (playback : Playback) (json : Json), Alike playback.toJson json →
      ofJson? json = some playback := by
  refine ⟨ofJson?_toJson, ?_, ?_⟩
  · intro left right same
    have read := congrArg ofJson? same
    rw [ofJson?_toJson, ofJson?_toJson] at read
    exact Option.some.inj read
  · intro playback json alike
    rw [← seesValue_ofJson? _ _ alike]
    exact ofJson?_toJson playback

/-- Two events with gaps, and lines that have nothing to do with them. -/
def gapped : Playback where
  events := [{ console := some "a \"b\"\n" }, { highlight := some .body, trace := some "" }]
  traceLines := []
  consoleLines := ["other"]
  finalCounter := ""

/-- The same with all fields listed backwards. -/
def gappedBackwards : Json :=
  .object [("final_counter", .text ""), ("console_lines", .list [.text "other"]),
    ("trace_lines", .list []),
    ("events", .list [.object [("console", .text "a \"b\"\n"), ("highlight", .null)],
      .object [("trace", .text ""), ("highlight", .text "body")]])]

theorem gapped_survives_json :
    Alike gapped.toJson gappedBackwards ∧ ofJson? gappedBackwards = some gapped := by
  have backwards : ∀ fields : List (String × Json), (fields.map Prod.fst).Nodup →
      Alike (.object fields) (.object fields.reverse) := by
    intro fields distinct
    refine alike_of_perm fields.reverse_perm.symm distinct ?_
    exact List.forall₂_same.mpr fun field _listed => ⟨rfl, .same field.2⟩
  have events : Alike (.list (gapped.events.map Event.toJson)) (.list
      [.object [("console", .text "a \"b\"\n"), ("highlight", .null)],
        .object [("trace", .text ""), ("highlight", .text "body")]]) :=
    .list (.cons (backwards _ (by decide)) (.cons (backwards _ (by decide)) .nil))
  have alike : Alike gapped.toJson gappedBackwards := by
    refine alike_of_perm (List.reverse_perm _).symm (by decide) ?_
    exact .cons ⟨rfl, .same _⟩ (.cons ⟨rfl, .same _⟩ (.cons ⟨rfl, .same _⟩
      (.cons ⟨rfl, events⟩ .nil)))
  exact ⟨alike, survives_json.2.2 gapped gappedBackwards alike⟩

end Playback

end Writing

end LoopLesson
