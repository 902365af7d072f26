import LoopLesson.Proofs.Tour.Staging

/-!
One tour for each lesson.

On every stage, however it is used, the tours that have not ended hold their lessons as the sharers
of a tutor do.  Every tour has asked for the first of its frames in order and, once it has ended, for
its end.
-/

namespace LoopLesson
namespace Staged

open Tutor (Shared)

/-- The moves of a tour that holds its lesson, up to its end. -/
private theorem shared_shows (stage : Stage) {held : Nat → Option LoopKind} {kind : LoopKind}
    {number : Nat} (shared : Shared stage.tutor held (stage.log.map Prod.snd))
    (holds : held number = some kind) (shown : List (Option Part)) :
    Shared (stage.makeMoves kind (shown.map .show)).tutor held
      ((stage.makeMoves kind (shown.map .show)).log.map Prod.snd) := by
  induction shown generalizing stage with
  | nil => exact shared
  | cons frame rest ih =>
      rw [List.map_cons, Stage.makeMoves_cons]
      apply ih
      rw [Stage.map_log_act]
      exact shared.frame holds frame

private theorem shared_finish (stage : Stage) {held : Nat → Option LoopKind} {kind : LoopKind}
    {number : Nat} (shared : Shared stage.tutor held (stage.log.map Prod.snd))
    (holds : held number = some kind) (shown : List (Option Part)) :
    Shared (stage.makeMoves kind (shown.map .show ++ [.finish])).tutor
      (Function.update held number none)
      ((stage.makeMoves kind (shown.map .show ++ [.finish])).log.map Prod.snd) := by
  have before := shared_shows stage shared holds shown
  rw [Stage.makeMoves_append, Stage.makeMoves_cons, Stage.makeMoves]
  simp only [List.foldl_nil]
  rw [Stage.map_log_act]
  exact before.release holds

/-- On a stage, learners and tours share the tutor: a tour holds its lesson until it ends. -/
theorem shared {stage : Stage} {requests : List Request} (staged : Staged stage requests) :
    Shared stage.tutor (Tour.holdings stage.tours) (stage.log.map Prod.snd) := by
  induction staged with
  | opening => exact .opening
  | @learner stage requests before action own ih =>
      rw [Stage.map_log_act]
      exact ih.learner action own
  | @beginTour stage requests before kind delay stopped ih =>
      rcases stage.beginTour_cases kind delay stopped with ⟨granted, after⟩ | ⟨refused, after⟩
      · rw [after, Stage.tutor_wake, Stage.tours_wake, Stage.log_wake, Tour.holdings_concat _ rfl]
        simp only
        rw [Stage.map_log_act]
        exact ih.claim kind stage.tours.length granted (Tour.holdings_of_le (Nat.le_refl _))
      · rw [after, Stage.map_log_act]
        exact ih.denied kind refused
  | @signal stage requests before index value ih =>
      have relined := stage.relined_signal index value
      rw [relined.tutor, relined.holdings, relined.log]
      exact ih
  | @release stage requests before index ih =>
      have relined := stage.relined_release index
      rw [relined.tutor, relined.holdings, relined.log]
      exact ih
  | pass before clock woken ih => exact ih
  | @turn stage requests tour next moves before index found running proceeds ih =>
      have holds : Tour.holdings stage.tours index = some tour.kind :=
        Tour.holdings_eq_some_iff.mpr ⟨tour, found, running, rfl⟩
      rw [Stage.tours_makeMoves]
      cases proceeds with
      | wait due split left =>
          rw [Tour.holdings_set_of_kept found]
          · refine shared_shows _ ?_ holds _
            exact ih
          · rfl
          · rfl
      | stop due split left =>
          rw [Tour.holdings_set_of_ended found]
          · refine shared_finish _ ?_ holds _
            exact ih
          · rfl
      | complete due =>
          rw [Tour.holdings_set_of_ended found]
          · refine shared_finish _ ?_ holds _
            exact ih
          · rfl

end Staged

/-- What the tours of a stage have asked for. -/
structure Ledger (tours : List Tour) (requests : List Request) : Prop where
  accounted : ∀ (index : Nat) (tour : Tour), tours[index]? = some tour →
    tour.Accounted (Request.madeBy index requests)
  strangers : ∀ index : Nat, tours.length ≤ index → Request.madeBy index requests = []

namespace Ledger

variable {tours : List Tour} {requests : List Request} {index : Nat} {tour next : Tour}

theorem learner (ledger : Ledger tours requests) (action : Action) :
    Ledger tours (requests ++ [⟨none, action⟩]) where
  accounted := by
    intro number
    rw [Request.madeBy_learner]
    exact ledger.accounted number
  strangers := by
    intro number
    rw [Request.madeBy_learner]
    exact ledger.strangers number

theorem concat (ledger : Ledger tours requests) (starts : tour.Accounted []) :
    Ledger (tours ++ [tour]) requests where
  accounted := by
    intro number other found
    by_cases within : number < tours.length
    · rw [List.getElem?_append_left within] at found
      exact ledger.accounted number other found
    · have bound := (List.getElem?_eq_some_iff.mp found).1
      rw [List.length_append, List.length_singleton] at bound
      obtain rfl : number = tours.length := by omega
      rw [List.getElem?_concat_length] at found
      cases found
      rw [ledger.strangers _ (Nat.le_refl _)]
      exact starts
  strangers := by
    intro number past
    rw [List.length_append, List.length_singleton] at past
    exact ledger.strangers number (by omega)

theorem set (ledger : Ledger tours requests) (found : tours[index]? = some tour)
    {actions : List Action} (moved : next.Accounted (Request.madeBy index requests ++ actions)) :
    Ledger (tours.set index next)
      (requests ++ actions.map fun action => ⟨some index, action⟩) where
  accounted := by
    intro number other present
    rw [Request.madeBy_append]
    by_cases same : number = index
    · subst number
      rw [List.getElem?_set_self (List.getElem?_eq_some_iff.mp found).1] at present
      cases present
      rw [Request.madeBy_tour_self]
      exact moved
    · rw [List.getElem?_set_ne (Ne.symm same)] at present
      rw [Request.madeBy_tour_of_ne same, List.append_nil]
      exact ledger.accounted number other present
  strangers := by
    intro number past
    rw [List.length_set] at past
    have within := (List.getElem?_eq_some_iff.mp found).1
    rw [Request.madeBy_append, Request.madeBy_tour_of_ne (by omega), List.append_nil]
    exact ledger.strangers number past

theorem relined {stage next : Stage} (ledger : Ledger stage.tours requests)
    (told : stage.Relined index next) : Ledger next.tours requests := by
  rcases told with rfl | ⟨tour, line, found, rfl⟩
  · exact ledger
  · have unchanged : ({ tour with line } : Tour).Accounted (Request.madeBy index requests ++ []) := by
      rw [List.append_nil]
      exact ledger.accounted index tour found
    have kept := ledger.set found unchanged
    rw [List.map_nil, List.append_nil] at kept
    rw [Stage.tours_wake]
    exact kept

end Ledger

namespace Staged

theorem ledger {stage : Stage} {requests : List Request} (staged : Staged stage requests) :
    Ledger stage.tours requests := by
  induction staged with
  | opening =>
      constructor
      · intro index tour found
        cases found
      · intro index _past
        rfl
  | learner before action own ih => exact ih.learner action
  | @beginTour stage requests before kind delay stopped ih =>
      apply Ledger.learner
      rcases stage.beginTour_cases kind delay stopped with ⟨_, after⟩ | ⟨_, after⟩
      · rw [after, Stage.tours_wake]
        exact ih.concat (Tour.accounted_starting kind delay stage.clock stopped)
      · rw [after]
        exact ih
  | signal before index value ih => exact ih.relined (Stage.relined_signal _ index value)
  | release before index ih => exact ih.relined (Stage.relined_release _ index)
  | pass before clock woken ih => exact ih
  | @turn stage requests tour next moves before index found running proceeds ih =>
      rw [Stage.tours_makeMoves]
      exact ih.set found ((ih.accounted index tour found).proceeds running proceeds)

end Staged

end LoopLesson
