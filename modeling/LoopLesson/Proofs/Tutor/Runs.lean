import LoopLesson.Tutor.Basic

/-!
Runs of a tutor: one action after the other, with the reactions that they bring about.

A tutor is reachable when some run leads to it from the start.  What holds at the start and is kept
by every action holds of every reachable tutor.
-/

namespace LoopLesson
namespace Tutor

def after (tutor : Tutor) (actions : List Action) : Tutor :=
  actions.foldl (fun current action => (current.perform action).tutor) tutor

/-- The actions of a run, each with the reaction to it. -/
def transcript (tutor : Tutor) : List Action → List (Action × Reaction)
  | [] => []
  | action :: rest =>
      (action, tutor.perform action) :: (tutor.perform action).tutor.transcript rest

/-- The reactions to one of the actions of a run, in order. -/
def reactionsTo (tutor : Tutor) (asked : Action) (actions : List Action) : List Reaction :=
  (tutor.transcript actions).filterMap fun entry => if entry.1 = asked then some entry.2 else none

def noticesOf (tutor : Tutor) (actions : List Action) : List Notice :=
  (tutor.transcript actions).flatMap fun entry => entry.2.notices

theorem after_cons (tutor : Tutor) (action : Action) (rest : List Action) :
    tutor.after (action :: rest) = (tutor.perform action).tutor.after rest := rfl

theorem after_append (tutor : Tutor) (first second : List Action) :
    tutor.after (first ++ second) = (tutor.after first).after second := List.foldl_append

theorem after_concat (tutor : Tutor) (actions : List Action) (action : Action) :
    tutor.after (actions ++ [action]) = ((tutor.after actions).perform action).tutor :=
  after_append tutor actions [action]

theorem transcript_concat (tutor : Tutor) (actions : List Action) (action : Action) :
    tutor.transcript (actions ++ [action]) =
      tutor.transcript actions ++ [(action, (tutor.after actions).perform action)] := by
  induction actions generalizing tutor with
  | nil => rfl
  | cons earlier rest ih => exact congrArg (_ :: ·) (ih (tutor.perform earlier).tutor)

theorem reactionsTo_cons_self (tutor : Tutor) (action : Action) (rest : List Action) :
    tutor.reactionsTo action (action :: rest) =
      tutor.perform action :: (tutor.perform action).tutor.reactionsTo action rest := by
  unfold reactionsTo
  rw [transcript, List.filterMap_cons, if_pos rfl]

theorem reactionsTo_cons_of_ne (tutor : Tutor) {asked action : Action} (different : action ≠ asked)
    (rest : List Action) :
    tutor.reactionsTo asked (action :: rest) =
      (tutor.perform action).tutor.reactionsTo asked rest := by
  unfold reactionsTo
  rw [transcript, List.filterMap_cons, if_neg different]

@[simp] theorem noticesOf_nil (tutor : Tutor) : tutor.noticesOf [] = [] := rfl

theorem noticesOf_cons (tutor : Tutor) (action : Action) (rest : List Action) :
    tutor.noticesOf (action :: rest) =
      (tutor.perform action).notices ++ (tutor.perform action).tutor.noticesOf rest := by
  unfold noticesOf
  rw [transcript, List.flatMap_cons]

theorem noticesOf_append (tutor : Tutor) (first second : List Action) :
    tutor.noticesOf (first ++ second) =
      tutor.noticesOf first ++ (tutor.after first).noticesOf second := by
  induction first generalizing tutor with
  | nil => rfl
  | cons action rest ih =>
      rw [List.cons_append, noticesOf_cons, noticesOf_cons, ih, List.append_assoc, after_cons]

/-- A tutor that some run leads to from the start. -/
def Reachable (tutor : Tutor) : Prop := ∃ actions, initial.after actions = tutor

/-- What every action keeps, every run keeps. -/
theorem after_of_perform {keeps : Tutor → Prop}
    (kept : ∀ tutor action, keeps tutor → keeps (tutor.perform action).tutor)
    (actions : List Action) {tutor : Tutor} (before : keeps tutor) : keeps (tutor.after actions) := by
  induction actions generalizing tutor with
  | nil => exact before
  | cons action rest ih =>
      rw [after_cons]
      exact ih (kept tutor action before)

theorem Reachable.of_perform {tutor : Tutor} (reachable : tutor.Reachable) {holds : Tutor → Prop}
    (atStart : holds initial)
    (kept : ∀ tutor action, holds tutor → holds (tutor.perform action).tutor) : holds tutor := by
  obtain ⟨actions, leads⟩ := reachable
  rw [← leads]
  exact after_of_perform kept actions atStart

end Tutor
end LoopLesson
