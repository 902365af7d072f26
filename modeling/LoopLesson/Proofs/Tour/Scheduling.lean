import Mathlib.Algebra.Ring.Nat
import LoopLesson.Proofs.Tour.Occupancy

/-!
The clock of a stage.

A stage with a clock gives turns to the tours that were told something and to those whose next frame
is due.  This is one of the schedules that are possible, so all that holds of every schedule holds of
it.  Each turn that is due shows a frame or ends a tour, and the frames that are left bound the number
of turns: a stage that is let finish has no unfinished tour.
-/

namespace LoopLesson

/-- A stage that some schedule leads to after some requests. -/
def Stage.Follows (requests : List Request) (stage : Stage) : Prop :=
  ∃ more, Staged stage (requests ++ more)

theorem Staged.follows {stage : Stage} {requests : List Request} (staged : Staged stage requests) :
    stage.Follows requests := by
  refine ⟨[], ?_⟩
  rw [List.append_nil]
  exact staged

namespace Stage

variable {stage : Stage} {index : Nat} {tour : Tour}

theorem turn_of_missing (missing : stage.tours[index]? = none) : stage.turn index = stage := by
  unfold turn
  rw [missing]

theorem turn_eq (found : stage.tours[index]? = some tour) :
    stage.turn index =
      ({ stage with tours := stage.tours.set index (tour.turn stage.clock).1 } : Stage).makeMoves
        tour.kind (tour.turn stage.clock).2 := by
  unfold turn
  rw [found]

theorem turn_of_still (found : stage.tours[index]? = some tour)
    (still : tour.turn stage.clock = (tour, [])) : stage.turn index = stage := by
  have kept : stage.tours.set index tour = stage.tours := by
    obtain ⟨within, rfl⟩ := List.getElem?_eq_some_iff.mp found
    exact List.set_getElem_self within
  rw [turn_eq found, still, kept]
  rfl

end Stage

namespace Stage.Follows

variable {stage : Stage} {requests : List Request}

theorem pass (follows : stage.Follows requests) (clock : Nat) (woken : List Nat) :
    Follows requests { stage with clock, woken } := by
  obtain ⟨more, staged⟩ := follows
  exact ⟨more, staged.pass clock woken⟩

/-- The turn that a stage gives to a tour by its clock is one of those that the tour may take. -/
theorem turn (follows : stage.Follows requests) (index : Nat) :
    (stage.turn index).Follows requests := by
  obtain ⟨more, staged⟩ := follows
  cases found : stage.tours[index]? with
  | none =>
      rw [turn_of_missing found]
      exact ⟨more, staged⟩
  | some tour =>
      cases running : tour.isRunning with
      | false =>
          rw [turn_of_still found (Tour.turn_of_ended stage.clock running)]
          exact ⟨more, staged⟩
      | true =>
          have left := (staged.ledger.accounted index tour found).pending_ne_nil running
          have turned := staged.turn index found running (Tour.proceeds_turn stage.clock running left)
          rw [List.append_assoc, ← turn_eq found] at turned
          exact ⟨_, turned⟩

theorem turns (follows : stage.Follows requests) (woken : List Nat) :
    (woken.foldl Stage.turn stage).Follows requests := by
  induction woken generalizing stage with
  | nil => exact follows
  | cons index rest ih => exact ih (follows.turn index)

theorem settle (follows : stage.Follows requests) : stage.settle.Follows requests :=
  (follows.pass stage.clock []).turns stage.woken

theorem showFrames (follows : stage.Follows requests) (limit : Option Nat) (count : Nat) :
    (Stage.showFrames limit count stage).Follows requests := by
  induction count generalizing stage with
  | zero => exact follows
  | succ count ih =>
      rw [Stage.showFrames]
      split
      · exact follows
      · rename_i due index next
        split
        · exact ih ((follows.pass due stage.woken).turn index)
        · exact follows

theorem advanceTo (follows : stage.Follows requests) (time : Nat) :
    (stage.advanceTo time).Follows requests := by
  unfold Stage.advanceTo
  split
  · have shown := follows.settle.showFrames (some time) stage.settle.pendingFrames
    exact shown.pass time _
  · exact follows

theorem finish (follows : stage.Follows requests) : stage.finish.Follows requests :=
  follows.settle.showFrames none stage.settle.pendingFrames

end Stage.Follows

namespace Tour

/-- The number of frames that a running tour has not shown. -/
private def load (tour : Tour) : Nat := if tour.isRunning then tour.pending.length else 0

theorem length_splitDue_lt {delay now due : Nat} {frames : List (Option Part)}
    (left : frames ≠ []) (ripe : due ≤ now) :
    (splitDue delay now due frames).2.1.length < frames.length := by
  cases frames with
  | nil => exact absurd rfl left
  | cons frame rest =>
      have parts := congrArg List.length (splitDue_append delay now (now + delay) rest)
      rw [List.length_append] at parts
      rw [splitDue, if_pos ripe, List.length_cons]
      change (splitDue delay now (now + delay) rest).2.1.length < rest.length + 1
      omega

private theorem load_turn_lt {now : Nat} {tour : Tour} (running : tour.isRunning = true)
    (left : tour.pending ≠ []) (ripe : tour.due ≤ now) : load (tour.turn now).1 < load tour := by
  have positive : 0 < tour.pending.length := List.length_pos_iff.mpr left
  have unfinished : tour.completed = none := by simpa [isRunning] using running
  have whole : load tour = tour.pending.length := if_pos running
  rw [whole]
  unfold turn
  rw [if_neg (by simp [running])]
  split
  · exact positive
  · simp only
    split
    · exact positive
    · simp only [load, isRunning, unfinished, Option.isNone_none, if_true]
      exact length_splitDue_lt left ripe

end Tour

namespace Stage

/-- The better of the tour found so far and the next one, in the search for the first that is due. -/
private def sooner (best : Option (Nat × Nat)) (entry : Tour × Nat) : Option (Nat × Nat) :=
  if entry.1.isRunning then
    match best with
    | none => some (entry.1.due, entry.2)
    | some (due, other) => if entry.1.due < due then some (entry.1.due, entry.2) else some (due, other)
  else best

private theorem nextDue?_eq (stage : Stage) :
    stage.nextDue? = stage.tours.zipIdx.foldl sooner none := rfl

private theorem sooner_cases (best : Option (Nat × Nat)) (entry : Tour × Nat) :
    (sooner best entry = best ∧ (best = none → entry.1.isRunning = false)) ∨
      (sooner best entry = some (entry.1.due, entry.2) ∧ entry.1.isRunning = true) := by
  unfold sooner
  cases running : entry.1.isRunning with
  | false => exact .inl ⟨rfl, fun _ => rfl⟩
  | true =>
      cases best with
      | none => exact .inr ⟨rfl, rfl⟩
      | some known =>
          by_cases earlier : entry.1.due < known.1
          · exact .inr ⟨if_pos earlier, rfl⟩
          · exact .inl ⟨if_neg earlier, fun absent => by cases absent⟩

private theorem foldl_sooner_eq_none {entries : List (Tour × Nat)} {best : Option (Nat × Nat)}
    (nothing : entries.foldl sooner best = none) :
    best = none ∧ ∀ entry ∈ entries, entry.1.isRunning = false := by
  induction entries generalizing best with
  | nil => exact ⟨nothing, fun _entry member => by cases member⟩
  | cons entry rest ih =>
      obtain ⟨none, ended⟩ := ih nothing
      rcases sooner_cases best entry with ⟨kept, idle⟩ | ⟨found, _⟩
      · rw [kept] at none
        refine ⟨none, ?_⟩
        intro other member
        rcases List.mem_cons.mp member with rfl | later
        · exact idle none
        · exact ended other later
      · rw [found] at none
        cases none

private theorem foldl_sooner_eq_some {entries : List (Tour × Nat)} {best : Option (Nat × Nat)}
    {due index : Nat} (found : entries.foldl sooner best = some (due, index)) :
    best = some (due, index) ∨
      ∃ tour, (tour, index) ∈ entries ∧ tour.isRunning = true ∧ tour.due = due := by
  induction entries generalizing best with
  | nil => exact .inl found
  | cons entry rest ih =>
      rcases ih found with here | ⟨tour, member, running, ripe⟩
      · rcases sooner_cases best entry with ⟨kept, _⟩ | ⟨better, running⟩
        · exact .inl (kept.symm.trans here)
        · rw [better] at here
          cases here
          exact .inr ⟨entry.1, List.mem_cons_self, running, rfl⟩
      · exact .inr ⟨tour, List.mem_cons_of_mem entry member, running, ripe⟩

private theorem exists_sooner_le (best : Option (Nat × Nat)) (entry : Tour × Nat) :
    (∀ known, best = some known →
      ∃ better, sooner best entry = some better ∧ better.1 ≤ known.1) ∧
    (entry.1.isRunning = true →
      ∃ better, sooner best entry = some better ∧ better.1 ≤ entry.1.due) := by
  unfold sooner
  cases entry.1.isRunning with
  | false => exact ⟨fun known found => ⟨known, found, Nat.le_refl _⟩, nofun⟩
  | true =>
      rw [if_pos rfl]
      cases best with
      | none => exact ⟨nofun, fun _running => ⟨_, rfl, Nat.le_refl _⟩⟩
      | some known =>
          dsimp only
          by_cases earlier : entry.1.due < known.1
          · rw [if_pos earlier]
            refine ⟨?_, fun _running => ⟨_, rfl, Nat.le_refl _⟩⟩
            rintro _known ⟨⟩
            exact ⟨_, rfl, Nat.le_of_lt earlier⟩
          · rw [if_neg earlier]
            refine ⟨?_, fun _running => ⟨_, rfl, Nat.le_of_not_lt earlier⟩⟩
            rintro _known ⟨⟩
            exact ⟨_, rfl, Nat.le_refl _⟩

private theorem foldl_sooner_le {entries : List (Tour × Nat)} {best : Option (Nat × Nat)}
    {due index : Nat} (found : entries.foldl sooner best = some (due, index)) :
    (∀ known, best = some known → due ≤ known.1) ∧
      ∀ entry ∈ entries, entry.1.isRunning = true → due ≤ entry.1.due := by
  induction entries generalizing best with
  | nil =>
      refine ⟨?_, fun _entry member => by cases member⟩
      rintro known rfl
      exact Nat.le_of_eq (congrArg Prod.fst (Option.some.inj found)).symm
  | cons entry rest ih =>
      obtain ⟨keeps, takes⟩ := exists_sooner_le best entry
      obtain ⟨below, later⟩ := ih found
      constructor
      · intro known present
        obtain ⟨better, chosen, less⟩ := keeps known present
        exact Nat.le_trans (below better chosen) less
      · intro other member running
        rcases List.mem_cons.mp member with rfl | further
        · obtain ⟨better, chosen, less⟩ := takes running
          exact Nat.le_trans (below better chosen) less
        · exact later other further running

theorem ended_of_nextDue?_eq_none {stage : Stage} (nothing : stage.nextDue? = none) :
    ∀ tour ∈ stage.tours, tour.isRunning = false := by
  intro tour member
  obtain ⟨index, found⟩ := List.mem_iff_getElem?.mp member
  rw [nextDue?_eq] at nothing
  exact (foldl_sooner_eq_none nothing).2 (tour, index) (List.mem_zipIdx_iff_getElem?.mpr found)

theorem exists_of_nextDue?_eq_some {stage : Stage} {due index : Nat}
    (next : stage.nextDue? = some (due, index)) :
    ∃ tour, stage.tours[index]? = some tour ∧ tour.isRunning = true ∧ tour.due = due := by
  rw [nextDue?_eq] at next
  rcases foldl_sooner_eq_some next with absent | ⟨tour, member, running, ripe⟩
  · cases absent
  · exact ⟨tour, List.mem_zipIdx_iff_getElem?.mp member, running, ripe⟩

theorem le_due_of_nextDue?_eq_some {stage : Stage} {due index : Nat}
    (next : stage.nextDue? = some (due, index)) :
    ∀ tour ∈ stage.tours, tour.isRunning = true → due ≤ tour.due := by
  intro tour member
  obtain ⟨place, found⟩ := List.mem_iff_getElem?.mp member
  rw [nextDue?_eq] at next
  exact (foldl_sooner_le next).2 (tour, place) (List.mem_zipIdx_iff_getElem?.mpr found)

private theorem foldl_pending (tours : List Tour) (start : Nat) :
    tours.foldl (fun (total : Nat) (tour : Tour) =>
      if tour.isRunning then total + tour.pending.length else total) start =
      start + (tours.map Tour.load).sum := by
  induction tours generalizing start with
  | nil => rfl
  | cons tour rest ih =>
      have head : tour.load = if tour.isRunning then tour.pending.length else 0 := rfl
      rw [List.foldl_cons, ih, List.map_cons, List.sum_cons, head]
      split <;> omega

private theorem pendingFrames_eq (stage : Stage) :
    stage.pendingFrames = (stage.tours.map Tour.load).sum :=
  (foldl_pending stage.tours 0).trans (Nat.zero_add _)

private theorem sum_set_lt {tours : List Tour} {index : Nat} {tour next : Tour}
    (found : tours[index]? = some tour) (less : next.load < tour.load) :
    ((tours.set index next).map Tour.load).sum < (tours.map Tour.load).sum := by
  induction tours generalizing index with
  | nil => cases found
  | cons head rest ih =>
      cases index with
      | zero =>
          cases found
          simp only [List.set_cons_zero, List.map_cons, List.sum_cons]
          omega
      | succ index =>
          have smaller := ih found
          simp only [List.set_cons_succ, List.map_cons, List.sum_cons]
          omega

theorem tours_turn {stage : Stage} {index : Nat} {tour : Tour}
    (found : stage.tours[index]? = some tour) :
    (stage.turn index).tours = stage.tours.set index (tour.turn stage.clock).1 := by
  rw [turn_eq found, tours_makeMoves]

/-- A turn that is due shows a frame or ends a tour. -/
theorem Follows.pendingFrames_turn_lt {stage : Stage} {requests : List Request}
    (follows : stage.Follows requests) {index : Nat}
    {tour : Tour} (found : stage.tours[index]? = some tour) (running : tour.isRunning = true)
    (ripe : tour.due ≤ stage.clock) : (stage.turn index).pendingFrames < stage.pendingFrames := by
  obtain ⟨more, staged⟩ := follows
  have left := (staged.ledger.accounted index tour found).pending_ne_nil running
  rw [pendingFrames_eq, pendingFrames_eq, tours_turn found]
  exact sum_set_lt found (Tour.load_turn_lt running left ripe)

/-- Once so many frames are shown as were left, no running tour has one that is due. -/
theorem Follows.not_due_of_showFrames {stage : Stage} {requests : List Request}
    (follows : stage.Follows requests) (limit : Option Nat) {count : Nat}
    (enough : stage.pendingFrames ≤ count) :
    ∀ tour ∈ (Stage.showFrames limit count stage).tours, tour.isRunning = true →
      limit.all (tour.due < ·) = false := by
  induction count generalizing stage with
  | zero =>
      intro tour member running
      obtain ⟨index, found⟩ := List.mem_iff_getElem?.mp member
      have now : Stage.Follows requests { stage with clock := tour.due } :=
        follows.pass tour.due stage.woken
      have fewer := now.pendingFrames_turn_lt found running (Nat.le_refl _)
      have same : ({ stage with clock := tour.due } : Stage).pendingFrames =
        stage.pendingFrames := rfl
      omega
  | succ count ih =>
      rw [Stage.showFrames]
      split
      · rename_i nothing
        intro tour member running
        rw [ended_of_nextDue?_eq_none nothing tour member] at running
        cases running
      · rename_i due index next
        split
        · obtain ⟨tour, found, running, ripe⟩ := exists_of_nextDue?_eq_some next
          have now : Stage.Follows requests { stage with clock := due } :=
            follows.pass due stage.woken
          have fewer := now.pendingFrames_turn_lt found running (Nat.le_of_eq ripe)
          have same : ({ stage with clock := due } : Stage).pendingFrames =
            stage.pendingFrames := rfl
          exact ih (now.turn index) (by omega)
        · rename_i beyond
          intro tour member running
          have first := le_due_of_nextDue?_eq_some next tour member running
          apply Bool.eq_false_iff.mpr
          intro early
          apply beyond
          rw [Option.all_eq_true] at early ⊢
          intro time given
          exact decide_eq_true (Nat.lt_of_le_of_lt first (of_decide_eq_true (early time given)))

/-- A stage that is let finish has no unfinished tour. -/
theorem Follows.ended_of_finish {stage : Stage} {requests : List Request}
    (follows : stage.Follows requests) :
    ∀ tour ∈ stage.finish.tours, tour.isRunning = false := by
  intro tour member
  apply Bool.eq_false_iff.mpr
  intro running
  cases follows.settle.not_due_of_showFrames none (Nat.le_refl _) tour member running

end Stage

/-- The tour with a number is an unfinished one of a lesson. -/
def Stage.IsTouredBy (stage : Stage) (kind : LoopKind) (number : Nat) : Prop :=
  ∃ tour, stage.tours[number]? = some tour ∧ tour.isRunning = true ∧ tour.kind = kind

theorem Tour.nodup_frames : Tour.frames.Nodup := by decide

/-- However a stage is used, a lesson is marked exactly while one tour of it is unfinished, and no
lesson ever has two.  A tour has asked the tutor for the first of its frames, for all of them exactly
if it completed, and for its end once, after its frames, as soon as it has ended.  Letting the stage
finish ends every tour. -/
theorem Staged.mark_iff_one_unfinished_tour {stage : Stage} {requests : List Request}
    (staged : Staged stage requests) :
    stage.tutor = Tutor.initial.after (requests.map Request.action) ∧
    (∀ kind, (stage.tutor.lesson kind).touring = true ↔ ∃! number, stage.IsTouredBy kind number) ∧
    (∀ kind first second, stage.IsTouredBy kind first → stage.IsTouredBy kind second →
      first = second) ∧
    (∀ number tour, stage.tours[number]? = some tour →
      ∃ shown, shown <+: Tour.frames ∧ shown.Nodup ∧
        Request.madeBy number requests = shown.map (.showTourFrame tour.kind) ++
          (if tour.isRunning then [] else [.finishTour tour.kind]) ∧
        (tour.completed = some true ↔ shown = Tour.frames)) ∧
    ∃ more, Staged stage.finish (requests ++ more) ∧
      ∀ tour ∈ stage.finish.tours, tour.isRunning = false := by
  have occupied := staged.shared.occupied
  have toured : ∀ kind number, stage.IsTouredBy kind number ↔
      Tour.holdings stage.tours number = some kind :=
    fun _kind _number => Tour.holdings_eq_some_iff.symm
  have alone : ∀ kind first second, stage.IsTouredBy kind first → stage.IsTouredBy kind second →
      first = second := by
    intro kind first second byFirst bySecond
    exact occupied.alone kind first second ((toured _ _).mp byFirst) ((toured _ _).mp bySecond)
  obtain ⟨more, finished⟩ := staged.follows.finish
  refine ⟨staged.carried_out.1, ?_, alone, ?_, more, finished, staged.follows.ended_of_finish⟩
  · intro kind
    rw [occupied.marked kind]
    constructor
    · rintro ⟨number, holds⟩
      have byNumber := (toured kind number).mpr holds
      exact ⟨number, byNumber, fun other byOther => alone kind other number byOther byNumber⟩
    · rintro ⟨number, byNumber, _⟩
      exact ⟨number, (toured kind number).mp byNumber⟩
  · intro number tour found
    obtain ⟨shown, all, made, completed⟩ := staged.ledger.accounted number tour found
    have first : shown <+: Tour.frames := ⟨tour.pending, all.symm⟩
    refine ⟨shown, first, first.sublist.nodup Tour.nodup_frames, made, ?_⟩
    rw [completed, all]
    constructor
    · intro exhausted
      rw [exhausted, List.append_nil]
    · intro same
      exact List.append_cancel_left (same.symm.trans (List.append_nil shown).symm)

theorem Staged.tours_of_three_lessons :
    ∃ (stage : Stage) (requests : List Request),
      Staged stage requests ∧
      (∃! number, stage.IsTouredBy .forEach number) ∧
      Request.madeBy 0 requests =
        Tour.frames.map (.showTourFrame .forLoop) ++ [.finishTour .forLoop] ∧
      ∃ shown, shown <+: Tour.frames ∧ shown ≠ Tour.frames ∧
        Request.madeBy 1 requests =
          shown.map (.showTourFrame .whileLoop) ++ [.finishTour .whileLoop] := by
  -- The first tour completes, the second is stopped, and the third is still under way.
  have begun := ((Staged.opening.beginTour .forLoop 10 false).beginTour .whileLoop 10 false).beginTour
    .forEach 100 false
  have told := (begun.learner (.edit .forLoop .body "console.log(i)") rfl).signal 1 true
  obtain ⟨more, staged⟩ := told.follows.advanceTo 60
  obtain ⟨_, marks, _, made, _⟩ := mark_iff_one_unfinished_tour staged
  refine ⟨_, _, staged, (marks .forEach).mp (by decide +kernel), ?_, ?_⟩
  · obtain ⟨shown, _, _, asked, completed⟩ := made 0 _ rfl
    rw [completed.mp (by decide +kernel)] at asked
    exact asked
  · obtain ⟨shown, first, _, asked, completed⟩ := made 1 _ rfl
    have stopped : shown ≠ Tour.frames := fun all => absurd (completed.mpr all) (by decide +kernel)
    exact ⟨shown, first, stopped, asked⟩

end LoopLesson
