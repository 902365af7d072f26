import LoopLesson.Proofs.Tutor.Locality
import LoopLesson.Proofs.Tutor.Ownership

/-!
What a refused run or step leaves behind.

Whether a lesson is run or stepped through, its script is played first, so both are refused alike
and both react alike.  By then whatever was stepped through has been given up; nothing else is
touched but the highlight of the lesson itself.  A second attempt changes nothing, and once the
script is mended the lesson plays as it would have without the refusal.
-/

namespace LoopLesson

/-- Whether an action writes in the script of a lesson and does nothing else with it. -/
def Action.rewrites (kind : LoopKind) : Action → Bool
  | .edit target _ _ | .load target _ => target = kind
  | .cancel | .reset _ | .run _ | .step _ | .advance _ | .select _ _ | .beginTour _
  | .showTourFrame _ _ | .finishTour _ => false

/-- The script that an action makes of the one before. -/
def Script.rewrittenBy (script : Script) : Action → Script
  | .edit _ part text => script.set part text
  | .load _ loaded => loaded
  | _ => script

namespace Tutor

section Cancelling

variable {tutor : Tutor}

theorem cancel_of_unowned (unowned : tutor.stepping = none) : tutor.cancel = (tutor, []) := by
  unfold cancel
  rw [unowned]

theorem notices_cancel (tutor : Tutor) :
    tutor.cancel.2 = tutor.stepping.toList.map fun owner => .render owner .blank := by
  unfold cancel
  cases tutor.stepping with
  | none => rfl
  | some owner => rfl

end Cancelling

section Refusing

variable {tutor : Tutor} {kind : LoopKind} {action : Action} {fault : LessonFault}
  {playback : Playback}

theorem perform_of_error (asked : action = .run kind ∨ action = .step kind)
    (fails : kind.play (tutor.lesson kind).script = .error fault) :
    tutor.perform action = tutor.cancel.1.refuse kind tutor.cancel.2 fault := by
  rcases asked with rfl | rfl
  · exact run_of_error fails
  · exact step_of_error fails

/-- A script that plays is shown and not refused, whether it is run or stepped through. -/
theorem perform_of_ok (asked : action = .run kind ∨ action = .step kind)
    (plays : kind.play (tutor.lesson kind).script = .ok playback) :
    (∃ view, (tutor.perform action).notices = tutor.cancel.2 ++ [.render kind view]) ∧
      ∀ fault, (tutor.perform action).answer ≠ .refused fault := by
  rcases asked with rfl | rfl
  · simp only [perform]
    rw [run_of_ok plays]
    exact ⟨⟨_, rfl⟩, by simp⟩
  · simp only [perform]
    rw [step_of_ok plays]
    exact ⟨⟨_, rfl⟩, by simp⟩

theorem answer_eq_refused_iff (asked : action = .run kind ∨ action = .step kind) :
    (tutor.perform action).answer = .refused fault ↔
      kind.play (tutor.lesson kind).script = .error fault := by
  cases plays : kind.play (tutor.lesson kind).script with
  | error found =>
      rw [perform_of_error asked plays]
      simp [refuse]
  | ok playback => simp [(perform_of_ok asked plays).2 fault]

/-- A refused lesson, compared with the tutor before. -/
structure Refusal (before : Tutor) (kind : LoopKind) (fault : LessonFault) (reaction : Reaction) :
    Prop where
  answer : reaction.answer = .refused fault
  script : ∀ other, (reaction.tutor.lesson other).script = (before.lesson other).script
  touring : ∀ other, (reaction.tutor.lesson other).touring = (before.lesson other).touring
  unowned : reaction.tutor.stepping = none
  noPlayhead : ∀ other, (reaction.tutor.lesson other).playhead = none
  unlit : (reaction.tutor.lesson kind).highlight = none
  untouched : ∀ other, other ≠ kind → before.stepping ≠ some other →
    reaction.tutor.lesson other = before.lesson other
  givenUp : ∀ other, other ≠ kind → before.stepping = some other →
    reaction.tutor.lesson other = { before.lesson other with playhead := none, highlight := none }
  notices : reaction.notices =
    before.stepping.toList.map (fun owner => .render owner .blank) ++ [.fault kind fault.message]

theorem lesson_refuse_of_ne {notices : List Notice} {other : LoopKind} (different : other ≠ kind) :
    (tutor.refuse kind notices fault).tutor.lesson other = tutor.lesson other :=
  lesson_modify_of_ne tutor different _

theorem lesson_refuse_self {notices : List Notice} :
    (tutor.refuse kind notices fault).tutor.lesson kind =
      { tutor.lesson kind with highlight := none } :=
  lesson_modify_self tutor kind _

theorem field_refuse {α : Type} (field : LessonState → α)
    (blind : ∀ lesson highlight, field { lesson with highlight } = field lesson)
    (notices : List Notice) (other : LoopKind) :
    field ((tutor.refuse kind notices fault).tutor.lesson other) = field (tutor.lesson other) := by
  by_cases same : other = kind
  · rw [same, lesson_refuse_self, blind]
  · rw [lesson_refuse_of_ne same]

/-- Refusing keeps what is left of every lesson after giving up, but for one highlight. -/
theorem Coherent.refusal (coherent : tutor.Coherent) (kind : LoopKind) (fault : LessonFault) :
    Refusal tutor kind fault (tutor.cancel.1.refuse kind tutor.cancel.2 fault) where
  answer := rfl
  script := by
    intro other
    rw [field_refuse LessonState.script fun _lesson _highlight => rfl, script_cancel]
  touring := by
    intro other
    rw [field_refuse LessonState.touring fun _lesson _highlight => rfl, touring_cancel]
  unowned := (coherent.idle_cancel.refuse kind tutor.cancel.2 fault).unowned
  noPlayhead := (coherent.idle_cancel.refuse kind tutor.cancel.2 fault).noPlayhead
  unlit := by rw [lesson_refuse_self]
  untouched := by
    intro other different notOwner
    rw [lesson_refuse_of_ne different, lesson_cancel_of_not_owner notOwner]
  givenUp := by
    intro other different owner
    rw [lesson_refuse_of_ne different, lesson_cancel_of_owner owner]
    rfl
  notices := by
    unfold refuse
    rw [notices_cancel]

/-- Where nothing is stepped through and the lesson is not lit, only the report is left to do. -/
theorem refuse_of_settled (fault : LessonFault) (unowned : tutor.stepping = none)
    (unlit : (tutor.lesson kind).highlight = none) :
    tutor.cancel.1.refuse kind tutor.cancel.2 fault =
      { tutor, notices := [.fault kind fault.message], answer := .refused fault } := by
  have fixed : tutor.modify kind (fun lesson => { lesson with highlight := none }) = tutor := by
    apply modify_of_fixed
    rw [← unlit]
  rw [cancel_of_unowned unowned]
  unfold refuse
  rw [fixed]
  rfl

end Refusing

section Mending

theorem script_perform_of_rewrites (tutor : Tutor) {kind : LoopKind} {action : Action}
    (rewrites : action.rewrites kind = true) :
    ((tutor.perform action).tutor.lesson kind).script =
      (tutor.lesson kind).script.rewrittenBy action := by
  cases action with
  | edit target part text =>
      obtain rfl : target = kind := by simpa [Action.rewrites] using rewrites
      simp only [perform]
      rw [tutor_edit, lesson_modify_self, script_cancel]
      rfl
  | load target script =>
      obtain rfl : target = kind := by simpa [Action.rewrites] using rewrites
      simp only [perform]
      rw [tutor_load, lesson_modify_self]
      rfl
  | cancel | reset _ | run _ | step _ | advance _ | select _ _ | beginTour _
  | showTourFrame _ _ | finishTour _ => cases rewrites

theorem script_after_of_rewrites (tutor : Tutor) {kind : LoopKind} {changes : List Action}
    (rewrites : ∀ change ∈ changes, change.rewrites kind = true) :
    ((tutor.after changes).lesson kind).script =
      changes.foldl Script.rewrittenBy (tutor.lesson kind).script := by
  induction changes generalizing tutor with
  | nil => rfl
  | cons change rest ih =>
      obtain ⟨first, later⟩ := List.forall_mem_cons.mp rewrites
      rw [after_cons, ih _ later, script_perform_of_rewrites tutor first, List.foldl_cons]

theorem answer_run_of_ok {tutor : Tutor} {kind : LoopKind} {playback : Playback}
    (plays : kind.play (tutor.lesson kind).script = .ok playback) :
    (tutor.perform (.run kind)).answer = .played playback :=
  congrArg Reaction.answer (run_of_ok plays)

end Mending

/-- Running and stepping are refused for the same reason and react alike.  What they leave is the
tutor before with nothing stepped through and the lesson unlit, and it stays so however often they
are repeated.  Once the script is rewritten into one that plays, running plays it, as it would in a
new tutor with that script. -/
theorem refused_run_and_step {tutor : Tutor} (reachable : tutor.Reachable) (kind : LoopKind)
    (fault : LessonFault) :
    ((tutor.perform (.run kind)).answer = .refused fault ↔
      (tutor.perform (.step kind)).answer = .refused fault) ∧
    ((tutor.perform (.run kind)).answer = .refused fault →
      let refused := (tutor.perform (.run kind)).tutor
      tutor.perform (.step kind) = tutor.perform (.run kind) ∧
      Refusal tutor kind fault (tutor.perform (.run kind)) ∧
      (∀ again, again = .run kind ∨ again = .step kind →
        (refused.perform again).answer = .refused fault ∧
        (refused.perform again).tutor = refused) ∧
      ∀ (changes : List Action) (playback : Playback),
        (∀ change ∈ changes, change.rewrites kind = true) →
        kind.play (changes.foldl Script.rewrittenBy (tutor.lesson kind).script) = .ok playback →
        ((refused.after changes).perform (.run kind)).answer = .played playback ∧
        ((initial.perform (.load kind
            (changes.foldl Script.rewrittenBy (tutor.lesson kind).script))).tutor.perform
          (.run kind)).answer = .played playback) := by
  refine ⟨(answer_eq_refused_iff (.inl rfl)).trans (answer_eq_refused_iff (.inr rfl)).symm, ?_⟩
  intro answered refused
  have fails := (answer_eq_refused_iff (.inl rfl)).mp answered
  have ran : tutor.perform (.run kind) = _ := perform_of_error (.inl rfl) fails
  have stepped : tutor.perform (.step kind) = _ := perform_of_error (.inr rfl) fails
  have refusal : Refusal tutor kind fault (tutor.perform (.run kind)) := by
    rw [ran]
    exact reachable.coherent.refusal kind fault
  have kept : (refused.lesson kind).script = (tutor.lesson kind).script := refusal.script kind
  refine ⟨stepped.trans ran.symm, refusal, ?_, ?_⟩
  · have stillFails : kind.play (refused.lesson kind).script = .error fault := by
      rw [kept]
      exact fails
    intro again asked
    rw [perform_of_error asked stillFails,
      refuse_of_settled fault refusal.unowned refusal.unlit]
    exact ⟨rfl, rfl⟩
  · intro changes playback rewrites plays
    constructor
    · apply answer_run_of_ok
      rw [script_after_of_rewrites refused rewrites, kept]
      exact plays
    · apply answer_run_of_ok
      rw [script_perform_of_rewrites initial (by simp [Action.rewrites])]
      exact plays

/-- The second lesson is stepped through while the third, with a letter for a number, is run; the
third plays as soon as the letter is replaced. -/
theorem refusal_beside_stepped_lesson :
    ∃ tutor : Tutor,
      tutor.Reachable ∧ tutor.stepping = some .whileLoop ∧
      (tutor.lesson .forEach).highlight = some .body ∧
      (tutor.perform (.run .forEach)).answer = .refused .itemNotANumber ∧
      (tutor.perform (.step .forEach)).answer = .refused .itemNotANumber ∧
      Refusal tutor .forEach .itemNotANumber (tutor.perform (.run .forEach)) ∧
      ∃ loop : ItemLoop,
        loop.items = [Number.Binary64.ofBits 0x401C000000000000] ∧
        (((tutor.perform (.run .forEach)).tutor.after [.edit .forEach .start "[7]"]).perform
          (.run .forEach)).answer = .played loop.playback := by
  let actions : List Action :=
    [.edit .forEach .start "[7, a]", .select .forEach .body, .step .whileLoop, .advance .whileLoop]
  let loop : ItemLoop :=
    { items := [Number.Binary64.ofBits 0x401C000000000000]
      message := "Value"
      itemName := "value"
      script := { LoopKind.forEach.defaultScript with start := "[7]" } }
  have reachable : (initial.after actions).Reachable := ⟨actions, rfl⟩
  have answered : ((initial.after actions).perform (.run .forEach)).answer =
      .refused .itemNotANumber := by decide +kernel
  have readable : ItemLoop.read loop.script = .ok loop := by decide +kernel
  have plays : LoopKind.forEach.play loop.script = .ok loop.playback := by
    change (ItemLoop.read loop.script).map ItemLoop.playback = .ok loop.playback
    rw [readable]
    rfl
  have mended : [Action.edit .forEach .start "[7]"].foldl Script.rewrittenBy
      ((initial.after actions).lesson .forEach).script = loop.script := by decide +kernel
  obtain ⟨alike, left⟩ := refused_run_and_step reachable .forEach .itemNotANumber
  obtain ⟨_same, refusal, _again, after⟩ := left answered
  rw [← mended] at plays
  exact ⟨initial.after actions, reachable, by decide +kernel, by decide +kernel, answered,
    alike.mp answered, refusal, loop, rfl, (after _ _ (by decide) plays).1⟩

end Tutor
end LoopLesson
