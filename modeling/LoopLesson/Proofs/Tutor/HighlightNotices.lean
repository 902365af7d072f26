import LoopLesson.Proofs.Tutor.Display
import LoopLesson.Proofs.Tutor.Refusals
import LoopLesson.Proofs.Tutor.TourErasure

/-!
Which notices tell of a changed highlight.

A view and a moved highlight say where the highlight of a lesson is; a fault says nothing of it.
Every action that changes the highlight of a lesson tells so by the last of these notices, with one
exception: a refused run or step puts out the highlight of its lesson, and the fault is all that is
sent about it.
-/

namespace LoopLesson
namespace Notice

/-- Where a notice moves the highlight to; a fault does not move it. -/
def moved? : Notice → Option (Option Part)
  | .render _ view => some view.highlight
  | .fault _ _ => none
  | .highlight _ part => some part

/-- Where the notices move the highlight of a lesson, one after the other. -/
def moves (about : LoopKind) (notices : List Notice) : List (Option Part) :=
  (notices.filter fun notice => notice.kind = about).filterMap moved?

theorem moves_append (about : LoopKind) (earlier later : List Notice) :
    moves about (earlier ++ later) = moves about earlier ++ moves about later := by
  unfold moves
  rw [List.filter_append, List.filterMap_append]

theorem moves_singleton_self (notice : Notice) :
    moves notice.kind [notice] = notice.moved?.toList := by
  unfold moves
  rw [List.filter_cons_of_pos (by simp), List.filter_nil, List.filterMap_cons, List.filterMap_nil]
  cases notice.moved? <;> rfl

theorem moves_singleton_of_ne {about : LoopKind} {notice : Notice} (other : notice.kind ≠ about) :
    moves about [notice] = [] := by
  unfold moves
  rw [List.filter_cons_of_neg (by simpa using other), List.filter_nil, List.filterMap_nil]

theorem marked_of_moved? {notice : Notice} {part : Option Part}
    (moved : notice.moved? = some part) : notice.marked = part := by
  cases notice with
  | render kind view => exact Option.some.inj moved
  | fault kind message => cases moved
  | highlight kind shown => exact Option.some.inj moved

/-- Without faults, what is on display is the last move, or what was there before. -/
theorem displayed_append_of_faultless {about : LoopKind} {notices : List Notice}
    (faultless : ∀ notice ∈ notices, notice.kind = about → notice.moved? ≠ none)
    (log : List Notice) :
    displayed about (log ++ notices) =
      (moves about notices).getLast?.getD (displayed about log) := by
  induction notices using List.reverseRecOn with
  | nil => rw [List.append_nil]; rfl
  | append_singleton notices notice ih =>
      have earlier := ih fun sent member => faultless sent (List.mem_append_left _ member)
      rw [← List.append_assoc, moves_append]
      by_cases same : notice.kind = about
      · obtain ⟨part, moved⟩ := Option.ne_none_iff_exists'.mp
          (faultless notice (by simp) same)
        subst about
        rw [displayed_concat_self, marked_of_moved? moved, moves_singleton_self, moved,
          Option.toList_some, List.getLast?_concat, Option.getD_some]
      · rw [displayed_concat_of_ne _ _ same, moves_singleton_of_ne same, List.append_nil, earlier]

end Notice

namespace Tutor

section Faults

variable {tutor : Tutor} {kind : LoopKind} {notice : Notice}

theorem moved?_of_mem_cancel (sent : notice ∈ tutor.cancel.2) : notice.moved? ≠ none := by
  rw [notices_cancel] at sent
  obtain ⟨owner, _stepped, rfl⟩ := List.mem_map.mp sent
  simp [Notice.moved?]

theorem moved?_of_mem_cancel_render {view : View}
    (sent : notice ∈ tutor.cancel.2 ++ [.render kind view]) : notice.moved? ≠ none := by
  rcases List.mem_append.mp sent with blanked | rendered
  · exact moved?_of_mem_cancel blanked
  · rw [List.mem_singleton.mp rendered]
    simp [Notice.moved?]

theorem moved?_of_mem_advance (sent : notice ∈ (tutor.advance kind).notices) :
    notice.moved? ≠ none := by
  unfold advance at sent
  split at sent
  · split at sent
    · cases sent
    · split at sent
      · cases sent
      · rw [List.mem_singleton.mp sent]
        simp [Notice.moved?]
  · cases sent

theorem kind_of_mem_refuse {fault : LessonFault}
    (sent : notice ∈ (tutor.cancel.1.refuse kind tutor.cancel.2 fault).notices)
    (still : notice.moved? = none) : notice.kind = kind := by
  rcases List.mem_append.mp sent with blanked | reported
  · exact absurd still (moved?_of_mem_cancel blanked)
  · rw [List.mem_singleton.mp reported]
    rfl

theorem refused_of_fault_played {action : Action} (asked : action = .run kind ∨ action = .step kind)
    (sent : notice ∈ (tutor.perform action).notices) (still : notice.moved? = none) :
    notice.kind = kind ∧ ∃ fault, (tutor.perform action).answer = .refused fault := by
  cases plays : kind.play (tutor.lesson kind).script with
  | error fault =>
      rw [perform_of_error asked plays] at sent ⊢
      exact ⟨kind_of_mem_refuse sent still, fault, rfl⟩
  | ok playback =>
      obtain ⟨⟨view, notices⟩, _accepted⟩ := perform_of_ok asked plays
      rw [notices] at sent
      exact absurd still (moved?_of_mem_cancel_render sent)

/-- A fault is sent only by a refused run or step, about the lesson that it refuses. -/
theorem refused_of_fault_sent {action : Action} (sent : notice ∈ (tutor.perform action).notices)
    (still : notice.moved? = none) :
    (action = .run notice.kind ∨ action = .step notice.kind) ∧
      ∃ fault, (tutor.perform action).answer = .refused fault := by
  cases action with
  | cancel | edit _ _ _ | load _ _ => exact absurd still (moved?_of_mem_cancel sent)
  | reset target => exact absurd still (moved?_of_mem_cancel_render sent)
  | run target =>
      obtain ⟨rfl, refused⟩ := refused_of_fault_played (.inl rfl) sent still
      exact ⟨.inl rfl, refused⟩
  | step target =>
      obtain ⟨rfl, refused⟩ := refused_of_fault_played (.inr rfl) sent still
      exact ⟨.inr rfl, refused⟩
  | advance target => exact absurd still (moved?_of_mem_advance sent)
  | select _ _ | showTourFrame _ _ | finishTour _ =>
      rw [List.mem_singleton.mp sent] at still
      cases still
  | beginTour target =>
      simp only [perform] at sent
      rw [notices_beginTour] at sent
      cases sent

end Faults

theorem highlight_perform_of_tour (tutor : Tutor) {action : Action}
    (tour : action.isTourStep = true) (kind : LoopKind) :
    ((tutor.perform action).tutor.lesson kind).highlight = (tutor.lesson kind).highlight := by
  have same := congrArg (fun erased => erased.lesson kind)
    (tutor.untoured_perform_of_isTourStep tour).1
  simp only [lesson_untoured] at same
  exact (LessonState.fields_eq_of_untoured_eq same).2.2

/-- A learner who is told of no fault is told of every changed highlight. -/
theorem getLast?_moves_of_faultless {tutor : Tutor} {action : Action} {kind : LoopKind}
    (learner : action.isTourStep = false)
    (faultless : ∀ notice ∈ (tutor.perform action).notices, notice.kind = kind →
      notice.moved? ≠ none)
    (changed : ((tutor.perform action).tutor.lesson kind).highlight ≠
      (tutor.lesson kind).highlight) :
    (Notice.moves kind (tutor.perform action).notices).getLast? =
      some ((tutor.perform action).tutor.lesson kind).highlight := by
  -- A display that shows the old highlight first is brought to the new one by these notices.
  have shown : Notice.displayed kind [.highlight kind (tutor.lesson kind).highlight] =
      (tutor.lesson kind).highlight := Notice.displayed_concat_self [] _
  have announced := tutor.announces_perform_of_learner learner kind _ shown
  rw [Notice.displayed_append_of_faultless faultless, shown] at announced
  cases last : (Notice.moves kind (tutor.perform action).notices).getLast? with
  | none =>
      rw [last] at announced
      exact absurd announced.symm changed
  | some part =>
      rw [last] at announced
      exact congrArg some announced

section Refused

variable {tutor : Tutor} {action : Action} {kind : LoopKind} {fault : LessonFault}

theorem perform_of_refused (asked : action = .run kind ∨ action = .step kind)
    (answered : (tutor.perform action).answer = .refused fault) :
    kind.play (tutor.lesson kind).script = .error fault ∧
      tutor.perform action = tutor.cancel.1.refuse kind tutor.cancel.2 fault := by
  have fails := (answer_eq_refused_iff asked).mp answered
  exact ⟨fails, perform_of_error asked fails⟩

theorem Coherent.not_stepping_of_error (coherent : tutor.Coherent)
    (fails : kind.play (tutor.lesson kind).script = .error fault) :
    tutor.stepping ≠ some kind := by
  intro owner
  obtain ⟨_playback, _position, plays, _within, _place⟩ := coherent.stepped kind owner
  rw [fails] at plays
  cases plays

theorem moves_refuse_of_not_owner (notOwner : tutor.stepping ≠ some kind) :
    Notice.moves kind (tutor.cancel.1.refuse kind tutor.cancel.2 fault).notices = [] := by
  have silent : Notice.moves kind [.fault kind fault.message] = [] :=
    Notice.moves_singleton_self (.fault kind fault.message)
  change Notice.moves kind (tutor.cancel.2 ++ [.fault kind fault.message]) = []
  rw [Notice.moves_append, silent, List.append_nil, notices_cancel]
  cases owned : tutor.stepping with
  | none => rfl
  | some owner =>
      apply Notice.moves_singleton_of_ne
      rintro rfl
      exact notOwner owned

end Refused

/-- An action that changes the highlight of a lesson says so by the last view or move that it sends
about the lesson, unless it is a run or step of the lesson that is refused.  A refusal puts out the
highlight of the lesson, and sends neither a view of it nor a move. -/
theorem highlight_change_told_unless_refused {tutor : Tutor} (reachable : tutor.Reachable)
    (action : Action) (kind : LoopKind) :
    let refused := (action = .run kind ∨ action = .step kind) ∧
      ∃ fault, (tutor.perform action).answer = .refused fault
    (¬refused →
      ((tutor.perform action).tutor.lesson kind).highlight ≠ (tutor.lesson kind).highlight →
      (Notice.moves kind (tutor.perform action).notices).getLast? =
        some ((tutor.perform action).tutor.lesson kind).highlight) ∧
    (refused →
      ((tutor.perform action).tutor.lesson kind).highlight = none ∧
      Notice.moves kind (tutor.perform action).notices = []) := by
  intro refused
  constructor
  · intro accepted changed
    cases tour : action.isTourStep with
    | true => exact absurd (tutor.highlight_perform_of_tour tour kind) changed
    | false =>
        apply getLast?_moves_of_faultless tour _ changed
        rintro notice sent rfl still
        exact accepted (refused_of_fault_sent sent still)
  · rintro ⟨asked, fault, answered⟩
    obtain ⟨fails, reaction⟩ := perform_of_refused asked answered
    -- What is stepped through can be played, so giving it up has blanked another lesson, if any.
    have notOwner := reachable.coherent.not_stepping_of_error fails
    rw [reaction, moves_refuse_of_not_owner notOwner, lesson_refuse_self]
    exact ⟨rfl, rfl⟩

/-- Editing another lesson blanks the one that is stepped through, and says so. -/
theorem highlight_given_up_is_told :
    ∃ tutor : Tutor,
      tutor.Reachable ∧ (tutor.lesson .forEach).highlight = some .condition ∧
      (Notice.moves .forEach (tutor.perform (.edit .forLoop .body "")).notices).getLast? =
        some none := by
  let actions : List Action := [.step .forEach, .advance .forEach, .advance .forEach]
  have reachable : (initial.after actions).Reachable := ⟨actions, rfl⟩
  have lit : ((initial.after actions).lesson .forEach).highlight = some .condition := by
    decide +kernel
  have unlit : (((initial.after actions).perform (.edit .forLoop .body "")).tutor.lesson
      .forEach).highlight = none := by decide +kernel
  have told := (highlight_change_told_unless_refused reachable (.edit .forLoop .body "")
    .forEach).1 nofun
  rw [lit, unlit] at told
  exact ⟨initial.after actions, reachable, lit, told nofun⟩

/-- A lit lesson whose step cannot be read goes dark when it is run, and the display hears of the
fault only. -/
theorem refused_lesson_goes_dark_untold :
    ∃ tutor : Tutor,
      tutor.Reachable ∧ (tutor.lesson .forLoop).highlight = some .condition ∧
      ((tutor.perform (.run .forLoop)).tutor.lesson .forLoop).highlight = none ∧
      (tutor.perform (.run .forLoop)).notices =
        [.fault .forLoop LessonFault.stepUnreadable.message] ∧
      Notice.moves .forLoop (tutor.perform (.run .forLoop)).notices = [] := by
  let actions : List Action := [.edit .forLoop .step "i++", .select .forLoop .condition]
  exact ⟨initial.after actions, ⟨actions, rfl⟩, by decide +kernel, by decide +kernel,
    by decide +kernel, by decide +kernel⟩

end Tutor
end LoopLesson
