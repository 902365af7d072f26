import LoopLesson.Proofs.Tour.Scheduling

/-!
One tour among the others of a stage.

While a tour is under way it is known which frame it waits for and until when.  A turn before that
time changes nothing, a turn at that time shows the frame, and a turn after it was told something
ends it.  The turns of other tours do not concern it, since they are tours of other lessons.
-/

namespace LoopLesson

namespace Tour

variable {tour : Tour} {now : Nat}

theorem turn_of_asked (running : tour.isRunning = true) (asked : tour.line.asksToStop = true) :
    tour.turn now = ({ tour with completed := some false }, [.finish]) := by
  unfold turn
  rw [running, asked]
  rfl

theorem turn_of_early (running : tour.isRunning = true) (unasked : tour.line.asksToStop = false)
    (left : tour.pending ≠ []) (early : now < tour.due) : tour.turn now = (tour, []) := by
  obtain ⟨frame, rest, pending⟩ := List.exists_cons_of_ne_nil left
  have nothing : splitDue tour.delay now tour.due tour.pending = ([], tour.pending, tour.due) := by
    rw [pending, splitDue, if_neg (Nat.not_le_of_lt early)]
  unfold turn
  rw [running, unasked, nothing]
  simp only [left]
  rfl

theorem splitDue_now {delay : Nat} (positive : 0 < delay) (frame : Option Part)
    (rest : List (Option Part)) :
    splitDue delay now now (frame :: rest) = ([frame], rest, now + delay) := by
  rw [splitDue, if_pos (Nat.le_refl now)]
  cases rest with
  | nil => rfl
  | cons next further => rw [splitDue, if_neg (Nat.not_le_of_lt (Nat.lt_add_of_pos_right positive))]

/-- At the time of its next frame a tour shows this frame alone. -/
theorem turn_of_due {frame : Option Part} {rest : List (Option Part)}
    (running : tour.isRunning = true) (unasked : tour.line.asksToStop = false)
    (pending : tour.pending = frame :: rest) (positive : 0 < tour.delay) (due : tour.due = now) :
    tour.turn now =
      if rest = [] then
        ({ tour with pending := [], due := now + tour.delay, completed := some true },
          [.show frame, .finish])
      else
        ({ tour with pending := rest, due := now + tour.delay }, [.show frame]) := by
  unfold turn
  rw [running, unasked, pending, due, splitDue_now positive]
  by_cases last : rest = []
  · simp only [last]
    rfl
  · simp only [last]
    rfl

/-- When each frame of a tour is shown, as long as it is not stopped. -/
def timetable (start wait : Nat) : List (Nat × Option Part) :=
  (frames.zipIdx 1).map fun (frame, place) => (start + place * wait, frame)

theorem length_timetable (start wait : Nat) : (timetable start wait).length = frames.length := by
  unfold timetable
  rw [List.length_map, List.length_zipIdx]

theorem map_snd_timetable (start wait : Nat) : (timetable start wait).map Prod.snd = frames := by
  unfold timetable
  rw [List.map_map]
  exact List.zipIdx_map_fst 1 frames

theorem getElem?_timetable (start wait count : Nat) :
    (timetable start wait)[count]? =
      frames[count]?.map fun frame => (start + (count + 1) * wait, frame) := by
  unfold timetable
  rw [List.getElem?_map, List.getElem?_zipIdx, Option.map_map, Nat.add_comm count 1]
  rfl

end Tour

namespace Stage

/-- The notices so far about a lesson, with their times. -/
def logAbout (stage : Stage) (kind : LoopKind) : List (Nat × Notice) :=
  stage.log.filter fun entry => entry.2.kind = kind

section Moves

variable (stage : Stage)

theorem clock_makeMoves (kind : LoopKind) (moves : List TourMove) :
    (stage.makeMoves kind moves).clock = stage.clock := by
  induction moves generalizing stage with
  | nil => rfl
  | cons move rest ih =>
      rw [makeMoves_cons, ih]
      rfl

theorem logAbout_act {action : Action} {target : LoopKind} {part : Option Part}
    (sent : (stage.tutor.perform action).notices = [.highlight target part]) (kind : LoopKind) :
    (stage.act action).1.logAbout kind =
      stage.logAbout kind ++
        if target = kind then [(stage.clock, .highlight target part)] else [] := by
  unfold logAbout act
  dsimp only
  rw [sent, List.filter_append, List.map_singleton]
  congr 1
  by_cases same : target = kind
  · simp [Notice.kind, same]
  · simp [Notice.kind, same]

theorem act_elsewhere {other kind : LoopKind} (different : other ≠ kind) (move : TourMove) :
    (stage.act (move.action other)).1.logAbout kind = stage.logAbout kind ∧
      (stage.act (move.action other)).1.tutor.lesson kind = stage.tutor.lesson kind := by
  obtain ⟨part, sent⟩ : ∃ part, (stage.tutor.perform (move.action other)).notices =
      [.highlight other part] := by
    cases move <;> exact ⟨_, rfl⟩
  rw [stage.logAbout_act sent, if_neg different, List.append_nil]
  refine ⟨rfl, ?_⟩
  cases move
  · rfl
  · exact Tutor.lesson_modify_of_ne stage.tutor different.symm _

theorem makeMoves_elsewhere {other kind : LoopKind} (different : other ≠ kind)
    (moves : List TourMove) :
    (stage.makeMoves other moves).logAbout kind = stage.logAbout kind ∧
      (stage.makeMoves other moves).tutor.lesson kind = stage.tutor.lesson kind := by
  induction moves generalizing stage with
  | nil => exact ⟨rfl, rfl⟩
  | cons move rest ih =>
      obtain ⟨log, lesson⟩ := stage.act_elsewhere different move
      rw [makeMoves_cons, ← log, ← lesson]
      exact ih (stage.act (move.action other)).1

theorem logAbout_show (kind : LoopKind) (frame : Option Part) :
    (stage.act (.showTourFrame kind frame)).1.logAbout kind =
      stage.logAbout kind ++ [(stage.clock, .highlight kind frame)] := by
  have sent : (stage.tutor.perform (.showTourFrame kind frame)).notices =
      [.highlight kind frame] := rfl
  rw [stage.logAbout_act sent, if_pos rfl]

theorem logAbout_finish (kind : LoopKind) :
    (stage.act (.finishTour kind)).1.logAbout kind =
      stage.logAbout kind ++
        [(stage.clock, .highlight kind (stage.tutor.lesson kind).highlight)] := by
  have sent : (stage.tutor.perform (.finishTour kind)).notices =
      [.highlight kind (stage.tutor.lesson kind).highlight] := rfl
  rw [stage.logAbout_act sent, if_pos rfl]

theorem lesson_finish (kind : LoopKind) :
    (stage.act (.finishTour kind)).1.tutor.lesson kind =
      { stage.tutor.lesson kind with touring := false } :=
  Tutor.lesson_modify_self stage.tutor kind _

end Moves

/-- One stage is like another for a tour of a lesson. -/
structure AlikeFor (number : Nat) (kind : LoopKind) (stage next : Stage) : Prop where
  tour : next.tours[number]? = stage.tours[number]?
  lesson : next.tutor.lesson kind = stage.tutor.lesson kind
  log : next.logAbout kind = stage.logAbout kind

section Turns

variable {stage : Stage} {index : Nat}

theorem clock_turn (stage : Stage) (index : Nat) : (stage.turn index).clock = stage.clock := by
  cases found : stage.tours[index]? with
  | none => rw [turn_of_missing found]
  | some tour => rw [turn_eq found, clock_makeMoves]

/-- The turn of a tour of another lesson does not concern a tour. -/
theorem alikeFor_turn {number : Nat} {kind : LoopKind} (other : index ≠ number)
    (elsewhere : ∀ tour, stage.tours[index]? = some tour → tour.isRunning = true →
      tour.kind ≠ kind) :
    AlikeFor number kind stage (stage.turn index) := by
  cases found : stage.tours[index]? with
  | none =>
      rw [turn_of_missing found]
      exact ⟨rfl, rfl, rfl⟩
  | some tour =>
      cases running : tour.isRunning with
      | false =>
          rw [turn_of_still found (Tour.turn_of_ended stage.clock running)]
          exact ⟨rfl, rfl, rfl⟩
      | true =>
          rw [turn_eq found]
          obtain ⟨log, lesson⟩ :=
            ({ stage with tours := stage.tours.set index (tour.turn stage.clock).1 } :
              Stage).makeMoves_elsewhere (elsewhere tour found running) (tour.turn stage.clock).2
          refine ⟨?_, lesson, log⟩
          rw [tours_makeMoves]
          exact List.getElem?_set_ne other

end Turns

end Stage

/-- A tour of a lesson that was free: when it begins and how long it waits for each frame, with the
lesson and the notices about it as they were before. -/
structure Walk where
  number : Nat
  kind : LoopKind
  start : Nat
  wait : Nat
  positive : 0 < wait
  lesson : LessonState
  free : lesson.touring = false
  earlier : List (Nat × Notice)

namespace Walk

variable {walk : Walk} {count : Nat} {line : CancelLine} {stage next : Stage}

/-- The time of the frame at a place, counted from one. -/
def time (walk : Walk) (place : Nat) : Nat := walk.start + place * walk.wait

theorem time_succ (walk : Walk) (place : Nat) :
    walk.time (place + 1) = walk.time place + walk.wait := by
  unfold time
  rw [Nat.succ_mul, Nat.add_assoc]

/-- The tour after so many frames. -/
def tour (walk : Walk) (count : Nat) (line : CancelLine) : Tour where
  kind := walk.kind
  delay := walk.wait
  due := walk.time (count + 1)
  pending := Tour.frames.drop count
  line

/-- The notices about the first frames, behind the earlier ones. -/
def notices (walk : Walk) (count : Nat) : List (Nat × Notice) :=
  walk.earlier ++ ((Tour.timetable walk.start walk.wait).take count).map fun entry =>
    (entry.1, .highlight walk.kind entry.2)

theorem notices_succ {frame : Option Part} (found : Tour.frames[count]? = some frame) :
    walk.notices (count + 1) =
      walk.notices count ++ [(walk.time (count + 1), .highlight walk.kind frame)] := by
  unfold notices
  rw [List.take_add_one, Tour.getElem?_timetable, found, List.map_append, List.append_assoc]
  rfl

/-- So many frames have been shown, and the tour waits for the next. -/
structure Underway (walk : Walk) (count : Nat) (line : CancelLine) (stage : Stage) : Prop where
  follows : stage.Follows []
  tour : stage.tours[walk.number]? = some (walk.tour count line)
  left : count < Tour.frames.length
  lesson : stage.tutor.lesson walk.kind = { walk.lesson with touring := true }
  log : stage.logAbout walk.kind = walk.notices count
  clock : stage.clock ≤ walk.time (count + 1)

/-- The tour has ended at a time after so many frames. -/
structure Ended (walk : Walk) (count time : Nat) (stage : Stage) : Prop where
  follows : stage.Follows []
  tour : ∃ line due, stage.tours[walk.number]? = some
    { walk.tour count line with due, completed := some (decide (count = Tour.frames.length)) }
  lesson : stage.tutor.lesson walk.kind = walk.lesson
  log : stage.logAbout walk.kind =
    walk.notices count ++ [(time, .highlight walk.kind walk.lesson.highlight)]

theorem Underway.alike (underway : walk.Underway count line stage) (follows : next.Follows [])
    (alike : Stage.AlikeFor walk.number walk.kind stage next)
    (clock : next.clock ≤ walk.time (count + 1)) : walk.Underway count line next where
  follows
  tour := alike.tour.trans underway.tour
  left := underway.left
  lesson := alike.lesson.trans underway.lesson
  log := alike.log.trans underway.log
  clock

theorem Ended.alike {time : Nat} (ended : walk.Ended count time stage) (follows : next.Follows [])
    (alike : Stage.AlikeFor walk.number walk.kind stage next) : walk.Ended count time next where
  follows
  tour := by
    rw [alike.tour]
    exact ended.tour
  lesson := alike.lesson.trans ended.lesson
  log := alike.log.trans ended.log

theorem Underway.pass (underway : walk.Underway count line stage) {clock : Nat}
    (early : clock ≤ walk.time (count + 1)) (woken : List Nat) :
    walk.Underway count line { stage with clock, woken } :=
  underway.alike (underway.follows.pass clock woken) ⟨rfl, rfl, rfl⟩ early

theorem Ended.pass {time : Nat} (ended : walk.Ended count time stage) (clock : Nat)
    (woken : List Nat) : walk.Ended count time { stage with clock, woken } :=
  ended.alike (ended.follows.pass clock woken) ⟨rfl, rfl, rfl⟩

section Others

theorem Underway.kind_ne {index : Nat} (underway : walk.Underway count line stage)
    (other : index ≠ walk.number) (tour : Tour) (found : stage.tours[index]? = some tour)
    (running : tour.isRunning = true) : tour.kind ≠ walk.kind := by
  intro same
  obtain ⟨requests, staged⟩ := underway.follows
  apply other
  refine staged.shared.occupied.alone walk.kind index walk.number ?_ ?_
  · exact Tour.holdings_eq_some_iff.mpr ⟨tour, found, running, same⟩
  · exact Tour.holdings_eq_some_iff.mpr ⟨_, underway.tour, rfl, rfl⟩

theorem Ended.kind_ne {index time : Nat} (ended : walk.Ended count time stage) (tour : Tour)
    (found : stage.tours[index]? = some tour) (running : tour.isRunning = true) :
    tour.kind ≠ walk.kind := by
  intro same
  obtain ⟨requests, staged⟩ := ended.follows
  have marked := (staged.shared.occupied.marked walk.kind).mpr
    ⟨index, Tour.holdings_eq_some_iff.mpr ⟨tour, found, running, same⟩⟩
  rw [ended.lesson, walk.free] at marked
  cases marked

theorem Underway.turn_other {index : Nat} (underway : walk.Underway count line stage)
    (other : index ≠ walk.number) : walk.Underway count line (stage.turn index) := by
  refine underway.alike (underway.follows.turn index)
    (Stage.alikeFor_turn other (underway.kind_ne other)) ?_
  rw [Stage.clock_turn]
  exact underway.clock

theorem Ended.turn {time : Nat} (ended : walk.Ended count time stage) (index : Nat) :
    walk.Ended count time (stage.turn index) := by
  by_cases own : index = walk.number
  · obtain ⟨line, due, found⟩ := ended.tour
    rw [own, Stage.turn_of_still found (Tour.turn_of_ended stage.clock rfl)]
    exact ended
  · exact ended.alike (ended.follows.turn index) (Stage.alikeFor_turn own ended.kind_ne)

end Others

section Own

theorem isRunning_tour (walk : Walk) (count : Nat) (line : CancelLine) :
    (walk.tour count line).isRunning = true := rfl

theorem pending_tour (left : count < Tour.frames.length) :
    (walk.tour count line).pending = Tour.frames[count] :: Tour.frames.drop (count + 1) :=
  List.drop_eq_getElem_cons left

theorem Underway.turn_early (underway : walk.Underway count line stage)
    (unasked : line.asksToStop = false) (early : stage.clock < walk.time (count + 1)) :
    stage.turn walk.number = stage := by
  apply Stage.turn_of_still underway.tour
  apply Tour.turn_of_early (walk.isRunning_tour count line) unasked _ early
  rw [pending_tour underway.left]
  exact List.cons_ne_nil _ _

theorem ended_of_finish (follows : (stage.act (.finishTour walk.kind)).1.Follows [])
    (found : ∃ line due, stage.tours[walk.number]? = some
      { walk.tour count line with due, completed := some (decide (count = Tour.frames.length)) })
    (lesson : stage.tutor.lesson walk.kind = { walk.lesson with touring := true })
    (log : stage.logAbout walk.kind = walk.notices count) :
    walk.Ended count stage.clock (stage.act (.finishTour walk.kind)).1 where
  follows
  tour := found
  lesson := by
    rw [Stage.lesson_finish, lesson, ← walk.free]
  log := by
    rw [Stage.logAbout_finish, log, lesson]

theorem Underway.turn_asked (underway : walk.Underway count line stage)
    (asked : line.asksToStop = true) :
    walk.Ended count stage.clock (stage.turn walk.number) := by
  have turned := Stage.turn_eq underway.tour
  rw [Tour.turn_of_asked (walk.isRunning_tour count line) asked] at turned
  have follows := underway.follows.turn walk.number
  have within := (List.getElem?_eq_some_iff.mp underway.tour).1
  rw [turned] at follows ⊢
  refine ended_of_finish follows ⟨line, walk.time (count + 1), ?_⟩ underway.lesson underway.log
  rw [decide_eq_false (Nat.ne_of_lt underway.left)]
  exact List.getElem?_set_self within

/-- At its time the next frame is shown, and after the last one the tour ends. -/
theorem Underway.turn_due (underway : walk.Underway count line stage)
    (unasked : line.asksToStop = false) (due : stage.clock = walk.time (count + 1)) :
    (count + 1 < Tour.frames.length ∧
      walk.Underway (count + 1) line (stage.turn walk.number)) ∨
    (count + 1 = Tour.frames.length ∧
      walk.Ended (count + 1) stage.clock (stage.turn walk.number)) := by
  have left := underway.left
  have turned := Stage.turn_eq underway.tour
  have follows := underway.follows.turn walk.number
  have within := (List.getElem?_eq_some_iff.mp underway.tour).1
  rw [Tour.turn_of_due (walk.isRunning_tour count line) unasked (pending_tour left) walk.positive
    due.symm] at turned
  -- The notice about the frame, wherever the tour goes from here.
  have shown (next : Tour) :
      (({ stage with tours := stage.tours.set walk.number next } : Stage).act
        (.showTourFrame walk.kind Tour.frames[count])).1.logAbout walk.kind =
      walk.notices (count + 1) := by
    rw [Stage.logAbout_show, notices_succ (List.getElem?_eq_getElem left), ← due, ← underway.log]
    rfl
  rcases Nat.lt_or_eq_of_le left with more | last
  · have rest : Tour.frames.drop (count + 1) ≠ [] := by
      rw [ne_eq, List.drop_eq_nil_iff]
      omega
    rw [if_neg rest] at turned
    rw [turned] at follows ⊢
    refine .inl ⟨more, follows, ?_, more, underway.lesson, shown _, ?_⟩
    · have moved : ({ walk.tour count line with
          pending := Tour.frames.drop (count + 1), due := stage.clock + walk.wait } : Tour) =
          walk.tour (count + 1) line := by
        rw [due, ← walk.time_succ]
        rfl
      rw [← moved]
      exact List.getElem?_set_self within
    · rw [time_succ, ← due]
      exact Nat.le_add_right stage.clock walk.wait
  · have rest : Tour.frames.drop (count + 1) = [] := List.drop_eq_nil_iff.mpr (by omega)
    rw [if_pos rest] at turned
    rw [turned] at follows ⊢
    refine .inr ⟨last, ?_⟩
    refine ended_of_finish follows ⟨line, stage.clock + walk.wait, ?_⟩ underway.lesson (shown _)
    rw [decide_eq_true last]
    have exhausted : ({ walk.tour count line with
        pending := [], due := stage.clock + walk.wait, completed := some true } : Tour) =
        { walk.tour (count + 1) line with
          due := stage.clock + walk.wait, completed := some true } := by
      rw [← rest]
      rfl
    rw [← exhausted]
    exact List.getElem?_set_self within

end Own

end Walk

end LoopLesson
