import LoopLesson.Proofs.Tour.Progress
import LoopLesson.Proofs.Tutor.Sharing
import LoopLesson.Tour.Stage

/-!
Tours on a stage.

A stage is used in any order: learners act, tours are begun, told something and released, time
passes, and any tour may take its turn at any moment.  Each request to the tutor is kept with the
tour that made it, and the tutor does nothing but carry out the requests in order.
-/

namespace LoopLesson

/-- A request to the tutor of a stage, by a learner or by the tour with a number. -/
structure Request where
  tour? : Option Nat
  action : Action
deriving DecidableEq, Repr

namespace Request

def madeBy (number : Nat) (requests : List Request) : List Action :=
  requests.filterMap fun request => if request.tour? = some number then some request.action else none

theorem madeBy_append (number : Nat) (earlier later : List Request) :
    madeBy number (earlier ++ later) = madeBy number earlier ++ madeBy number later :=
  List.filterMap_append

theorem madeBy_learner (number : Nat) (requests : List Request) (action : Action) :
    madeBy number (requests ++ [⟨none, action⟩]) = madeBy number requests := by
  rw [madeBy_append]
  exact List.append_nil _

theorem madeBy_tour_self (number : Nat) (actions : List Action) :
    madeBy number (actions.map fun action => ⟨some number, action⟩) = actions := by
  induction actions with
  | nil => rfl
  | cons action rest ih =>
      unfold madeBy at ih ⊢
      rw [List.map_cons, List.filterMap_cons, if_pos rfl, ih]

theorem madeBy_tour_of_ne {number other : Nat} (different : other ≠ number)
    (actions : List Action) :
    madeBy other (actions.map fun action => ⟨some number, action⟩) = [] := by
  unfold madeBy
  rw [List.filterMap_eq_nil_iff]
  intro request member
  obtain ⟨action, _, rfl⟩ := List.mem_map.mp member
  exact if_neg fun same => different (Option.some.inj same).symm

end Request

namespace Tour

/-- The lesson that each of some tours holds: its own while it is running, none once it has ended. -/
def holdings (tours : List Tour) (number : Nat) : Option LoopKind :=
  tours[number]?.bind fun tour => if tour.isRunning then some tour.kind else none

theorem holdings_eq_some_iff {tours : List Tour} {number : Nat} {kind : LoopKind} :
    holdings tours number = some kind ↔
      ∃ tour, tours[number]? = some tour ∧ tour.isRunning = true ∧ tour.kind = kind := by
  unfold holdings
  rw [Option.bind_eq_some_iff]
  constructor
  · rintro ⟨tour, found, holds⟩
    split at holds
    · rename_i running
      exact ⟨tour, found, running, Option.some.inj holds⟩
    · cases holds
  · rintro ⟨tour, found, running, rfl⟩
    exact ⟨tour, found, if_pos running⟩

theorem holdings_of_le {tours : List Tour} {number : Nat} (past : tours.length ≤ number) :
    holdings tours number = none := by
  unfold holdings
  rw [List.getElem?_eq_none past]
  rfl

theorem holdings_set {tours : List Tour} {index : Nat} {tour : Tour}
    (found : tours[index]? = some tour) (next : Tour) :
    holdings (tours.set index next) =
      Function.update (holdings tours) index
        (if next.isRunning then some next.kind else none) := by
  have within : index < tours.length := (List.getElem?_eq_some_iff.mp found).1
  funext number
  unfold holdings
  by_cases same : number = index
  · subst number
    rw [Function.update_self, List.getElem?_set_self within]
    rfl
  · rw [Function.update_of_ne same, List.getElem?_set_ne (Ne.symm same)]

theorem holdings_set_of_kept {tours : List Tour} {index : Nat} {tour next : Tour}
    (found : tours[index]? = some tour) (kind : next.kind = tour.kind)
    (running : next.isRunning = tour.isRunning) :
    holdings (tours.set index next) = holdings tours := by
  have same : holdings tours index = if next.isRunning then some next.kind else none := by
    unfold holdings
    rw [found, kind, running]
    rfl
  rw [holdings_set found, ← same, Function.update_eq_self]

theorem holdings_set_of_ended {tours : List Tour} {index : Nat} {tour next : Tour}
    (found : tours[index]? = some tour) (ended : next.isRunning = false) :
    holdings (tours.set index next) = Function.update (holdings tours) index none := by
  rw [holdings_set found, if_neg (by simp [ended])]

theorem holdings_concat (tours : List Tour) {tour : Tour} (running : tour.isRunning = true) :
    holdings (tours ++ [tour]) =
      Function.update (holdings tours) tours.length (some tour.kind) := by
  funext number
  unfold holdings
  by_cases same : number = tours.length
  · subst number
    rw [Function.update_self, List.getElem?_concat_length]
    exact if_pos running
  · rw [Function.update_of_ne same]
    congr 1
    by_cases within : number < tours.length
    · rw [List.getElem?_append_left within]
    · have past : tours.length + 1 ≤ number := by omega
      rw [List.getElem?_eq_none (by rw [List.length_append]; exact past),
        List.getElem?_eq_none (by omega)]

end Tour

namespace Stage

variable (stage : Stage)

theorem map_log_act (action : Action) :
    (stage.act action).1.log.map Prod.snd =
      stage.log.map Prod.snd ++ (stage.tutor.perform action).notices := by
  simp [act, Function.comp_def]

@[simp] theorem tutor_wake (index : Nat) : (stage.wake index).tutor = stage.tutor := by
  unfold wake
  split <;> rfl

@[simp] theorem tours_wake (index : Nat) : (stage.wake index).tours = stage.tours := by
  unfold wake
  split <;> rfl

@[simp] theorem log_wake (index : Nat) : (stage.wake index).log = stage.log := by
  unfold wake
  split <;> rfl

theorem beginTour_cases (kind : LoopKind) (delay : Nat) (stopped : Bool) :
    ((stage.act (.beginTour kind)).2 = .granted true ∧
      (stage.beginTour kind delay stopped).1 =
        ({ (stage.act (.beginTour kind)).1 with
            tours := stage.tours ++ [Tour.starting kind delay stage.clock stopped] }).wake
          stage.tours.length) ∨
    ((stage.act (.beginTour kind)).2 = .granted false ∧
      (stage.beginTour kind delay stopped).1 = (stage.act (.beginTour kind)).1) := by
  have answer : (stage.act (.beginTour kind)).2 = .granted (!(stage.tutor.lesson kind).touring) :=
    stage.tutor.answer_beginTour kind
  unfold beginTour
  cases begun : stage.act (.beginTour kind) with
  | mk next reply =>
      rw [begun] at answer
      simp only at answer
      subst reply
      have tours : next.tours = stage.tours := (congrArg (fun pair => pair.1.tours) begun).symm
      have clock : next.clock = stage.clock := (congrArg (fun pair => pair.1.clock) begun).symm
      cases (stage.tutor.lesson kind).touring with
      | false => exact .inl ⟨rfl, by simp only [Bool.not_false, tours, clock]⟩
      | true => exact .inr ⟨rfl, rfl⟩

/-- Telling a tour something, on a line or by letting go of it, changes its line and whose turn it
is at most. -/
def Relined (index : Nat) (next : Stage) : Prop :=
  next = stage ∨
    ∃ tour line, stage.tours[index]? = some tour ∧
      next = ({ stage with tours := stage.tours.set index { tour with line } }).wake index

theorem relined_signal (index : Nat) (value : Bool) :
    stage.Relined index (stage.signal index value).1 := by
  unfold signal
  split
  · exact .inl rfl
  · rename_i tour found
    split
    · split
      · exact .inr ⟨tour, _, found, rfl⟩
      · exact .inl rfl
    · exact .inl rfl

theorem relined_release (index : Nat) : stage.Relined index (stage.release index) := by
  unfold release
  split
  · exact .inl rfl
  · rename_i tour found
    exact .inr ⟨tour, _, found, rfl⟩

namespace Relined

variable {stage} {next : Stage} {index : Nat}

theorem tutor (relined : stage.Relined index next) : next.tutor = stage.tutor := by
  rcases relined with rfl | ⟨tour, line, _, rfl⟩
  · rfl
  · rw [tutor_wake]

theorem log (relined : stage.Relined index next) : next.log = stage.log := by
  rcases relined with rfl | ⟨tour, line, _, rfl⟩
  · rfl
  · rw [log_wake]

theorem holdings (relined : stage.Relined index next) :
    Tour.holdings next.tours = Tour.holdings stage.tours := by
  rcases relined with rfl | ⟨tour, line, found, rfl⟩
  · rfl
  · rw [tours_wake, Tour.holdings_set_of_kept found]
    · rfl
    · rfl

end Relined

theorem makeMoves_cons (kind : LoopKind) (move : TourMove) (rest : List TourMove) :
    stage.makeMoves kind (move :: rest) =
      ((stage.act (move.action kind)).1).makeMoves kind rest := by
  cases move <;> rfl

theorem makeMoves_append (kind : LoopKind) (first second : List TourMove) :
    stage.makeMoves kind (first ++ second) = (stage.makeMoves kind first).makeMoves kind second :=
  List.foldl_append

theorem tours_makeMoves (kind : LoopKind) (moves : List TourMove) :
    (stage.makeMoves kind moves).tours = stage.tours := by
  induction moves generalizing stage with
  | nil => rfl
  | cons move rest ih =>
      rw [makeMoves_cons, ih]
      rfl

theorem tutor_makeMoves (kind : LoopKind) (moves : List TourMove) :
    (stage.makeMoves kind moves).tutor = stage.tutor.after (moves.map (TourMove.action kind)) := by
  induction moves generalizing stage with
  | nil => rfl
  | cons move rest ih =>
      rw [makeMoves_cons, ih, List.map_cons, Tutor.after_cons]
      rfl

theorem map_log_makeMoves (kind : LoopKind) (moves : List TourMove) :
    (stage.makeMoves kind moves).log.map Prod.snd =
      stage.log.map Prod.snd ++ stage.tutor.noticesOf (moves.map (TourMove.action kind)) := by
  induction moves generalizing stage with
  | nil => exact (List.append_nil _).symm
  | cons move rest ih =>
      rw [makeMoves_cons, ih, map_log_act, List.map_cons, Tutor.noticesOf_cons, List.append_assoc]
      rfl

theorem beginTour_acts (kind : LoopKind) (delay : Nat) (stopped : Bool) :
    (stage.beginTour kind delay stopped).1.tutor = (stage.act (.beginTour kind)).1.tutor ∧
      (stage.beginTour kind delay stopped).1.log = (stage.act (.beginTour kind)).1.log := by
  rcases stage.beginTour_cases kind delay stopped with ⟨_, after⟩ | ⟨_, after⟩
  · rw [after, tutor_wake, log_wake]
    exact ⟨rfl, rfl⟩
  · rw [after]
    exact ⟨rfl, rfl⟩

end Stage

/-- A stage after some schedule, with the requests to its tutor so far. -/
inductive Staged : Stage → List Request → Prop
  | opening : Staged .initial []
  | learner {stage requests} (before : Staged stage requests) (action : Action)
      (own : action.isTourStep = false) :
      Staged (stage.act action).1 (requests ++ [⟨none, action⟩])
  | beginTour {stage requests} (before : Staged stage requests) (kind : LoopKind) (delay : Nat)
      (stopped : Bool) :
      Staged (stage.beginTour kind delay stopped).1 (requests ++ [⟨none, .beginTour kind⟩])
  | signal {stage requests} (before : Staged stage requests) (index : Nat) (value : Bool) :
      Staged (stage.signal index value).1 requests
  | release {stage requests} (before : Staged stage requests) (index : Nat) :
      Staged (stage.release index) requests
  | pass {stage requests} (before : Staged stage requests) (clock : Nat) (woken : List Nat) :
      Staged { stage with clock, woken } requests
  | turn {stage requests tour next moves} (before : Staged stage requests) (index : Nat)
      (found : stage.tours[index]? = some tour) (running : tour.isRunning = true)
      (proceeds : tour.Proceeds next moves) :
      Staged (({ stage with tours := stage.tours.set index next }).makeMoves tour.kind moves)
        (requests ++ (moves.map (TourMove.action tour.kind)).map fun action => ⟨some index, action⟩)

/-- The tutor of a stage has carried out the requests one after the other, and nothing else. -/
theorem Staged.carried_out {stage : Stage} {requests : List Request}
    (staged : Staged stage requests) :
    stage.tutor = Tutor.initial.after (requests.map Request.action) ∧
      stage.log.map Prod.snd = Tutor.initial.noticesOf (requests.map Request.action) := by
  have one : ∀ (tutor : Tutor) (action : Action),
      tutor.noticesOf [action] = (tutor.perform action).notices := by
    intro tutor action
    rw [Tutor.noticesOf_cons, Tutor.noticesOf_nil, List.append_nil]
  induction staged with
  | opening => exact ⟨rfl, rfl⟩
  | @learner stage requests before action own ih =>
      obtain ⟨tutor, log⟩ := ih
      rw [List.map_append, Tutor.after_append, Tutor.noticesOf_append, ← tutor, ← log,
        Stage.map_log_act]
      exact ⟨rfl, congrArg _ (one stage.tutor action).symm⟩
  | @beginTour stage requests before kind delay stopped ih =>
      obtain ⟨tutor, log⟩ := ih
      obtain ⟨acted, logged⟩ := stage.beginTour_acts kind delay stopped
      rw [List.map_append, Tutor.after_append, Tutor.noticesOf_append, ← tutor, ← log, acted, logged,
        Stage.map_log_act]
      exact ⟨rfl, congrArg _ (one stage.tutor (.beginTour kind)).symm⟩
  | @signal stage requests before index value ih =>
      have relined := stage.relined_signal index value
      rw [relined.tutor, relined.log]
      exact ih
  | @release stage requests before index ih =>
      have relined := stage.relined_release index
      rw [relined.tutor, relined.log]
      exact ih
  | pass before clock woken ih => exact ih
  | @turn stage requests tour next moves before index found running proceeds ih =>
      obtain ⟨tutor, log⟩ := ih
      have actions : (((moves.map (TourMove.action tour.kind)).map
          fun action => Request.mk (some index) action).map Request.action) =
            moves.map (TourMove.action tour.kind) := by
        rw [List.map_map]
        exact List.map_id _
      rw [List.map_append, actions, Tutor.after_append, Tutor.noticesOf_append, ← tutor, ← log,
        Stage.tutor_makeMoves, Stage.map_log_makeMoves]
      exact ⟨rfl, rfl⟩

end LoopLesson
