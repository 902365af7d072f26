import Mathlib.Logic.Function.Basic
import LoopLesson.Proofs.Tutor.Locality

/-!
A tutor that learners and tours share.

A tour claims a lesson, moves its highlight on display as often as it likes, and releases it at the
end; nobody else moves highlights for a tour or releases a lesson.  Tours and learners take turns in
any order.  Whatever they do, a lesson is marked as being toured exactly while a tour holds it, and
no two tours hold the same lesson.
-/

namespace LoopLesson
namespace Tutor

/-- A tutor with the lessons that its tours hold, by the numbers of the tours, and all notices so
far. -/
inductive Shared : Tutor → (Nat → Option LoopKind) → List Notice → Prop
  | opening : Shared .initial (fun _number => none) []
  | learner {tutor held log} (before : Shared tutor held log) (action : Action)
      (own : action.isTourStep = false) :
      Shared (tutor.perform action).tutor held (log ++ (tutor.perform action).notices)
  | claim {tutor held log} (before : Shared tutor held log) (kind : LoopKind) (number : Nat)
      (granted : (tutor.perform (.beginTour kind)).answer = .granted true)
      (free : held number = none) :
      Shared (tutor.perform (.beginTour kind)).tutor (Function.update held number (some kind))
        (log ++ (tutor.perform (.beginTour kind)).notices)
  | denied {tutor held log} (before : Shared tutor held log) (kind : LoopKind)
      (refused : (tutor.perform (.beginTour kind)).answer = .granted false) :
      Shared (tutor.perform (.beginTour kind)).tutor held
        (log ++ (tutor.perform (.beginTour kind)).notices)
  | frame {tutor held log kind number} (before : Shared tutor held log)
      (holds : held number = some kind) (part : Option Part) :
      Shared (tutor.perform (.showTourFrame kind part)).tutor held
        (log ++ (tutor.perform (.showTourFrame kind part)).notices)
  | release {tutor held log kind number} (before : Shared tutor held log)
      (holds : held number = some kind) :
      Shared (tutor.perform (.finishTour kind)).tutor (Function.update held number none)
        (log ++ (tutor.perform (.finishTour kind)).notices)

structure Occupied (tutor : Tutor) (held : Nat → Option LoopKind) : Prop where
  marked : ∀ kind, (tutor.lesson kind).touring = true ↔ ∃ number, held number = some kind
  alone : ∀ kind first second, held first = some kind → held second = some kind → first = second

theorem touring_beginTour (tutor : Tutor) (kind other : LoopKind) :
    ((tutor.perform (.beginTour kind)).tutor.lesson other).touring =
      (decide (other = kind) || (tutor.lesson other).touring) := by
  simp only [perform]
  rw [tutor_beginTour]
  by_cases same : other = kind
  · subst other
    rw [lesson_modify_self]
    simp
  · rw [lesson_modify_of_ne tutor same]
    simp [same]

theorem touring_finishTour (tutor : Tutor) (kind other : LoopKind) :
    ((tutor.perform (.finishTour kind)).tutor.lesson other).touring =
      (!decide (other = kind) && (tutor.lesson other).touring) := by
  simp only [perform]
  rw [tutor_finishTour]
  by_cases same : other = kind
  · subst other
    rw [lesson_modify_self]
    simp
  · rw [lesson_modify_of_ne tutor same]
    simp [same]

namespace Occupied

variable {tutor : Tutor} {held : Nat → Option LoopKind} {kind : LoopKind} {number : Nat}

theorem initial : Occupied .initial fun _number => none where
  marked := by
    intro kind
    cases kind <;> simp [lesson, Tutor.initial, LessonState.fresh]
  alone := by
    intro _kind _first _second absent
    cases absent

theorem of_same_marks (occupied : tutor.Occupied held) {later : Tutor}
    (same : ∀ kind, (later.lesson kind).touring = (tutor.lesson kind).touring) :
    later.Occupied held where
  marked := by
    intro kind
    rw [same]
    exact occupied.marked kind
  alone := occupied.alone

theorem claim (occupied : tutor.Occupied held) (unmarked : (tutor.lesson kind).touring = false)
    (free : held number = none) :
    (tutor.perform (.beginTour kind)).tutor.Occupied (Function.update held number (some kind)) where
  marked := by
    intro other
    rw [touring_beginTour]
    by_cases same : other = kind
    · subst other
      simp only [decide_true, Bool.true_or, true_iff]
      exact ⟨number, Function.update_self number (some kind) held⟩
    · rw [decide_eq_false same, Bool.false_or, occupied.marked other]
      constructor
      · rintro ⟨holder, holds⟩
        refine ⟨holder, ?_⟩
        rw [Function.update_of_ne (by rintro rfl; rw [free] at holds; cases holds)]
        exact holds
      · rintro ⟨holder, holds⟩
        refine ⟨holder, ?_⟩
        by_cases new : holder = number
        · subst holder
          rw [Function.update_self] at holds
          exact absurd (Option.some.inj holds).symm same
        · rw [Function.update_of_ne new] at holds
          exact holds
  alone := by
    -- Nobody held the lesson before, so its only holder now is the new one.
    have unheld : ∀ holder, held holder ≠ some kind := by
      intro holder holds
      rw [(occupied.marked kind).mpr ⟨holder, holds⟩] at unmarked
      cases unmarked
    intro other first second holdsFirst holdsSecond
    simp only [Function.update_apply] at holdsFirst holdsSecond
    split at holdsFirst <;> split at holdsSecond
    · rename_i atFirst atSecond
      exact atFirst.trans atSecond.symm
    · rw [← holdsFirst] at holdsSecond
      exact absurd holdsSecond (unheld second)
    · rw [← holdsSecond] at holdsFirst
      exact absurd holdsFirst (unheld first)
    · exact occupied.alone other first second holdsFirst holdsSecond

theorem release (occupied : tutor.Occupied held) (holds : held number = some kind) :
    (tutor.perform (.finishTour kind)).tutor.Occupied (Function.update held number none) where
  marked := by
    intro other
    rw [touring_finishTour]
    by_cases same : other = kind
    · subst other
      simp only [decide_true, Bool.not_true, Bool.false_and, Bool.false_eq_true, false_iff]
      rintro ⟨holder, stillHolds⟩
      simp only [Function.update_apply] at stillHolds
      split at stillHolds
      · cases stillHolds
      · rename_i different
        exact different (occupied.alone kind holder number stillHolds holds)
    · rw [decide_eq_false same, Bool.not_false, Bool.true_and, occupied.marked other]
      constructor
      · rintro ⟨holder, holdsOther⟩
        refine ⟨holder, ?_⟩
        rw [Function.update_of_ne]
        · exact holdsOther
        · rintro rfl
          rw [holds] at holdsOther
          exact same (Option.some.inj holdsOther).symm
      · rintro ⟨holder, holdsOther⟩
        simp only [Function.update_apply] at holdsOther
        split at holdsOther
        · cases holdsOther
        · exact ⟨holder, holdsOther⟩
  alone := by
    intro other first second holdsFirst holdsSecond
    simp only [Function.update_apply] at holdsFirst holdsSecond
    split at holdsFirst
    · cases holdsFirst
    · split at holdsSecond
      · cases holdsSecond
      · exact occupied.alone other first second holdsFirst holdsSecond

end Occupied

/-- A lesson is marked exactly while a tour holds it, and one tour at most holds it. -/
theorem Shared.occupied {tutor : Tutor} {held : Nat → Option LoopKind} {log : List Notice}
    (shared : Shared tutor held log) : tutor.Occupied held := by
  induction shared with
  | opening => exact Occupied.initial
  | learner before action own ih =>
      exact ih.of_same_marks fun kind => touring_perform_of_learner _ kind own
  | @claim tutor held log before kind number granted free ih =>
      have unmarked : (tutor.lesson kind).touring = false := by
        rw [answer_beginTour] at granted
        simpa using granted
      exact ih.claim unmarked free
  | @denied tutor held log before kind refused ih =>
      apply ih.of_same_marks
      intro other
      rw [touring_beginTour]
      by_cases same : other = kind
      · subst other
        rw [answer_beginTour] at refused
        have touring : (tutor.lesson kind).touring = true := by simpa using refused
        simp [touring]
      · simp [same]
  | frame before holds part ih => exact ih
  | release before holds ih => exact ih.release holds

end Tutor
end LoopLesson
