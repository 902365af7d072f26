import LoopLesson.Command.Program
import LoopLesson.Proofs.Tutor.Reactions

/-!
The script that a command plays.

A part is the text that is given for it.  Where none is given it is what the script file has for the
part, blank if the file leaves it out, and where there is no file it is what the lesson starts from.
Loading the file and editing the parts one by one comes to that, and tells the display nothing.
-/

namespace LoopLesson

/-- The text that is given for a part by itself. -/
def ScriptOptions.given? (options : ScriptOptions) : Part → Option String
  | .start => options.start
  | .condition => options.condition
  | .step => options.step
  | .body => options.body

/-- A file holds a document, and the document these entries. -/
def Surroundings.Holds (surroundings : Surroundings) (path : String) (root : Yaml)
    (entries : List (String × Yaml)) : Prop :=
  ∃ bytes text, surroundings.file path = .ok bytes ∧ decodeText? bytes = some text ∧
    Yaml.read? text = some root ∧ root.entries? root = some entries

/-- The text of a part that a command plays. -/
inductive TextInForce (surroundings : Surroundings) (kind : LoopKind) (options : ScriptOptions)
    (part : Part) : String → Prop
  | given {text : String} (override : options.given? part = some text) :
      TextInForce surroundings kind options part text
  | filed {path text : String} {root node : Yaml} {entries : List (String × Yaml)}
      (notGiven : options.given? part = none) (file : options.file = some path)
      (document : surroundings.Holds path root entries)
      (entry : entries.filter (fun entry => entry.1 = part.name) = [(part.name, node)])
      (reads : root.text? node = some text) :
      TextInForce surroundings kind options part text
  | leftOut {path : String} {root : Yaml} {entries : List (String × Yaml)}
      (notGiven : options.given? part = none) (file : options.file = some path)
      (document : surroundings.Holds path root entries)
      (missing : ∀ entry ∈ entries, entry.1 ≠ part.name) :
      TextInForce surroundings kind options part ""
  | ofLesson (notGiven : options.given? part = none) (noFile : options.file = none) :
      TextInForce surroundings kind options part (kind.defaultScript.get part)

/-- The given parts in place of those of another script. -/
def ScriptOptions.over (options : ScriptOptions) (base : Script) : Script where
  start := options.start.getD base.start
  condition := options.condition.getD base.condition
  step := options.step.getD base.step
  body := options.body.getD base.body

theorem ScriptOptions.get_over (options : ScriptOptions) (base : Script) (part : Part) :
    (options.over base).get part = (options.given? part).getD (base.get part) := by
  cases part <;> rfl

/-- The script whose parts are replaced by the given ones. -/
def baseScript (surroundings : Surroundings) (kind : LoopKind) (options : ScriptOptions) :
    Except ProgramFault Script :=
  match options.file with
  | none => .ok kind.defaultScript
  | some path => (readScript surroundings path).mapError (.script path)

def scriptInForce (surroundings : Surroundings) (kind : LoopKind) (options : ScriptOptions) :
    Except ProgramFault Script :=
  (baseScript surroundings kind options).map options.over

section Documents

theorem Yaml.entryOr?_cases {α : Type} {missing value : α} {read : Yaml → Option α} {key : String}
    {entries : List (String × Yaml)} (found : entryOr? missing read key entries = some value) :
    ((∀ entry ∈ entries, entry.1 ≠ key) ∧ value = missing) ∨
      ∃ node, entries.filter (fun entry => entry.1 = key) = [(key, node)] ∧
        read node = some value := by
  unfold entryOr? at found
  split at found
  · rename_i noneKept
    left
    refine ⟨?_, (Option.some.inj found).symm⟩
    intro entry member same
    exact List.filter_eq_nil_iff.mp noneKept entry member (decide_eq_true same)
  · rename_i name node oneKept
    right
    have kept : (name, node) ∈ entries.filter fun entry => entry.1 = key := by
      rw [oneKept]
      exact List.mem_singleton_self _
    have named : name = key := of_decide_eq_true (List.mem_filter.mp kept).2
    subst name
    exact ⟨node, oneKept, found⟩
  · cases found

theorem Script.entryOr?_of_ofYaml? {root : Yaml} {script : Script}
    (found : ofYaml? root = some script) :
    ∃ entries, root.entries? root = some entries ∧
      ∀ part : Part, Yaml.entryOr? "" root.text? part.name entries = some (script.get part) := by
  unfold ofYaml? at found
  obtain ⟨entries, listed, found⟩ := Option.bind_eq_some_iff.mp found
  obtain ⟨start, startRead, found⟩ := Option.bind_eq_some_iff.mp found
  obtain ⟨condition, conditionRead, found⟩ := Option.bind_eq_some_iff.mp found
  obtain ⟨step, stepRead, found⟩ := Option.bind_eq_some_iff.mp found
  obtain ⟨body, bodyRead, found⟩ := Option.bind_eq_some_iff.mp found
  cases found
  refine ⟨entries, listed, ?_⟩
  intro part
  cases part with
  | start => exact startRead
  | condition => exact conditionRead
  | step => exact stepRead
  | body => exact bodyRead

theorem readDocument_eq_ok {α : Type} {report : String → String} {read : Yaml → Option α}
    {content : Except ReadFault ByteArray} {value : α}
    (found : readDocument report read content = .ok value) :
    ∃ bytes text root, content = .ok bytes ∧ decodeText? bytes = some text ∧
      Yaml.read? text = some root ∧ read root = some value := by
  unfold readDocument at found
  split at found
  · cases found
  · rename_i bytes
    split at found
    · cases found
    · rename_i text decoded
      split at found
      · cases found
      · rename_i stored reads
        cases found
        obtain ⟨root, parsed, typed⟩ := Option.bind_eq_some_iff.mp reads
        exact ⟨bytes, text, root, rfl, decoded, parsed, typed⟩

end Documents

section InForce

variable {surroundings : Surroundings} {kind : LoopKind} {options : ScriptOptions}

theorem textInForce_of_base {base : Script}
    (found : baseScript surroundings kind options = .ok base)
    {part : Part} (notGiven : options.given? part = none) :
    TextInForce surroundings kind options part (base.get part) := by
  unfold baseScript at found
  cases file : options.file with
  | none =>
      rw [file] at found
      cases found
      exact .ofLesson notGiven file
  | some path =>
      rw [file] at found
      change (readScript surroundings path).mapError
        (ProgramFault.script path) = .ok base at found
      cases opened : readScript surroundings path with
      | error fault =>
          rw [opened] at found
          cases found
      | ok script =>
          rw [opened] at found
          cases found
          obtain ⟨bytes, text, root, content, decoded, parsed, typed⟩ := readDocument_eq_ok opened
          obtain ⟨entries, listed, parts⟩ := Script.entryOr?_of_ofYaml? typed
          have document : surroundings.Holds path root entries :=
            ⟨bytes, text, content, decoded, parsed, listed⟩
          rcases Yaml.entryOr?_cases (parts part) with ⟨missing, blank⟩ | ⟨node, entry, reads⟩
          · rw [blank]
            exact .leftOut notGiven file document missing
          · exact .filed notGiven file document entry reads

theorem textInForce_of_scriptInForce {script : Script}
    (found : scriptInForce surroundings kind options = .ok script) (part : Part) :
    TextInForce surroundings kind options part (script.get part) := by
  unfold scriptInForce at found
  cases base : baseScript surroundings kind options with
  | error fault =>
      rw [base] at found
      cases found
  | ok underneath =>
      rw [base] at found
      cases found
      rw [ScriptOptions.get_over]
      cases override : options.given? part with
      | none => exact textInForce_of_base base override
      | some text => exact .given override

theorem exists_file_of_scriptInForce_error {fault : ProgramFault}
    (failed : scriptInForce surroundings kind options = .error fault) :
    ∃ path cause, options.file = some path ∧
      readScript surroundings path = .error cause ∧
      fault = .script path cause := by
  unfold scriptInForce baseScript at failed
  cases file : options.file with
  | none =>
      rw [file] at failed
      cases failed
  | some path =>
      rw [file] at failed
      change ((readScript surroundings path).mapError
        (ProgramFault.script path)).map options.over = .error fault at failed
      cases opened : readScript surroundings path with
      | error cause =>
          rw [opened] at failed
          cases failed
          exact ⟨path, cause, rfl, opened, rfl⟩
      | ok script =>
          rw [opened] at failed
          cases failed

end InForce

namespace Tutor

/-- All lessons as they are at first, but for the script of one of them. -/
def prepared (kind : LoopKind) (script : Script) : Tutor :=
  initial.modify kind fun lesson => { lesson with script }

@[simp] theorem script_prepared (kind : LoopKind) (script : Script) :
    ((prepared kind script).lesson kind).script = script := by
  cases kind <;> rfl

theorem cancel_prepared (kind : LoopKind) (script : Script) :
    (prepared kind script).cancel = (prepared kind script, []) := by
  cases kind <;> rfl

theorem initial_eq_prepared (kind : LoopKind) : initial = prepared kind kind.defaultScript := by
  cases kind <;> rfl

theorem load_initial (kind : LoopKind) (script : Script) :
    initial.load kind script =
      { tutor := prepared kind script, notices := [], answer := .done } := by
  cases kind <;> rfl

theorem edit_prepared (kind : LoopKind) (script : Script) (part : Part) (text : String) :
    (prepared kind script).edit kind part text =
      { tutor := prepared kind (script.set part text), notices := [], answer := .done } := by
  cases kind <;> rfl

section Playing

variable {kind : LoopKind} {script : Script}

theorem run_prepared_of_ok {playback : Playback} (plays : kind.play script = .ok playback) :
    ((prepared kind script).run kind).notices = [.render kind (finalView playback)] ∧
      ((prepared kind script).run kind).answer = .played playback := by
  rw [← script_prepared kind script] at plays
  rw [run_of_ok plays, cancel_prepared]
  exact ⟨rfl, rfl⟩

theorem run_prepared_of_error {fault : LessonFault} (fails : kind.play script = .error fault) :
    ((prepared kind script).run kind).notices = [.fault kind fault.message] ∧
      ((prepared kind script).run kind).answer = .refused fault := by
  rw [← script_prepared kind script] at fails
  rw [run_of_error fails, cancel_prepared]
  exact ⟨rfl, rfl⟩

theorem step_prepared_of_ok {playback : Playback} (plays : kind.play script = .ok playback) :
    ((prepared kind script).step kind).notices = [.render kind .blank] ∧
      ((prepared kind script).step kind).answer = .begun playback.events.length := by
  rw [← script_prepared kind script] at plays
  rw [step_of_ok plays, cancel_prepared]
  exact ⟨rfl, rfl⟩

end Playing

end Tutor

section Loading

theorem foldl_set_overrides (options : ScriptOptions) (base : Script) :
    options.overrides.foldl (fun script override => script.set override.1 override.2) base =
      options.over base := by
  obtain ⟨file, start, condition, step, body⟩ := options
  cases start <;> cases condition <;> cases step <;> cases body <;> rfl

theorem foldl_edit_prepared (kind : LoopKind) (overrides : List (Part × String))
    (script : Script) :
    overrides.foldl (fun (tutor, notices) (part, text) =>
        let reaction := tutor.edit kind part text
        (reaction.tutor, notices ++ reaction.notices))
        (Tutor.prepared kind script, ([] : List Notice)) =
      (Tutor.prepared kind
        (overrides.foldl (fun script override => script.set override.1 override.2) script),
        []) := by
  induction overrides generalizing script with
  | nil => rfl
  | cons override rest ih =>
      have first := Tutor.edit_prepared kind script override.1 override.2
      rw [List.foldl_cons, List.foldl_cons]
      simp only [first, List.append_nil]
      exact ih (script.set override.1 override.2)

/-- Loading prepares the lesson with the script in force and tells the display nothing. -/
theorem loadScript_initial (surroundings : Surroundings) (kind : LoopKind)
    (options : ScriptOptions) :
    loadScript surroundings kind options .initial =
      (scriptInForce surroundings kind options).map fun script =>
        (Tutor.prepared kind script, []) := by
  have edited (script : Script) := foldl_edit_prepared kind options.overrides script
  simp only [foldl_set_overrides] at edited
  unfold loadScript scriptInForce baseScript
  cases options.file with
  | none =>
      rw [Tutor.initial_eq_prepared kind]
      exact congrArg Except.ok (edited kind.defaultScript)
  | some path =>
      dsimp only
      cases readScript surroundings path with
      | error fault => rfl
      | ok script =>
          simp only [Tutor.load_initial]
          exact congrArg Except.ok (edited script)

end Loading

end LoopLesson
