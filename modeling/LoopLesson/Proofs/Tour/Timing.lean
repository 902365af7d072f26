import LoopLesson.Proofs.Tour.Walking

/-!
A tour keeps to its clock and to its cancel line.

Whatever else happens on the stage, the frames of a tour are shown one wait after the other from its
beginning on.  The first use of its line stops it, whatever is sent, and so does a line that carries
a stop from the beginning; a tour that nobody stops shows all its frames.  Either way it ends once.
-/

namespace LoopLesson

theorem filter_eq_take {α : Type} {p : α → Bool} {items : List α} {count : Nat}
    (first : ∀ index item, items[index]? = some item → p item = decide (index < count)) :
    items.filter p = items.take count := by
  induction items generalizing count with
  | nil =>
      rw [List.take_nil]
      rfl
  | cons item rest ih =>
      have head := first 0 item rfl
      cases count with
      | zero =>
          have tail : rest.filter p = rest.take 0 := by
            apply ih
            intro index item found
            exact first (index + 1) item found
          rw [List.filter_cons_of_neg (by simp [head]), tail, List.take_zero, List.take_zero]
      | succ count =>
          have tail : rest.filter p = rest.take count := by
            apply ih
            intro index item found
            rw [first (index + 1) item found, decide_eq_decide, Nat.succ_lt_succ_iff]
          rw [List.filter_cons_of_pos (by simp [head]), tail, List.take_succ_cons]

/-- What the holder of a cancel line can do with it. -/
inductive LineUse where
  | send (value : Bool)
  | release
deriving DecidableEq, Repr

/-- The line after a use that is heard. -/
def CancelLine.after (line : CancelLine) : LineUse → CancelLine
  | .send value => line.send value
  | .release => line.release

theorem CancelLine.asksToStop_after (line : CancelLine) (lineUse : LineUse) :
    (line.after lineUse).asksToStop = true := by
  cases lineUse <;> simp [after, send, release, asksToStop]

namespace Stage

def use (stage : Stage) (number : Nat) : LineUse → Stage
  | .send value => (stage.signal number value).1
  | .release => stage.release number

/-- Lets the line of a tour be used at the given times, and then every tour run to its end. -/
def playOut (stage : Stage) (number : Nat) (history : List (Nat × LineUse)) : Stage :=
  (history.foldl (fun stage entry => (stage.advanceTo entry.1).use number entry.2) stage).finish

theorem Follows.use {stage : Stage} {requests : List Request} (follows : stage.Follows requests)
    (number : Nat) (lineUse : LineUse) : (stage.use number lineUse).Follows requests := by
  obtain ⟨more, staged⟩ := follows
  cases lineUse with
  | send value => exact ⟨more, staged.signal number value⟩
  | release => exact ⟨more, staged.release number⟩

theorem relined_use (stage : Stage) (number : Nat) (lineUse : LineUse) :
    stage.Relined number (stage.use number lineUse) := by
  cases lineUse with
  | send value => exact stage.relined_signal number value
  | release => exact stage.relined_release number

/-- Nothing that is sent on a released line is heard. -/
theorem use_cases {stage : Stage} {number : Nat} {tour : Tour}
    (found : stage.tours[number]? = some tour) (running : tour.isRunning = true)
    (lineUse : LineUse) :
    (tour.line.held = false ∧ stage.use number lineUse = stage) ∨
      stage.use number lineUse =
        ({ stage with
            tours := stage.tours.set number { tour with line := tour.line.after lineUse } } :
          Stage).wake number := by
  cases lineUse with
  | send value =>
      simp only [use, signal, found, running, if_true]
      cases tour.line.held with
      | true => exact .inr rfl
      | false => exact .inl ⟨rfl, rfl⟩
  | release =>
      simp only [use, release, found]
      exact .inr rfl

theorem clock_wake (stage : Stage) (index : Nat) : (stage.wake index).clock = stage.clock := by
  unfold wake
  split <;> rfl

theorem mem_woken_wake (stage : Stage) (index : Nat) : index ∈ (stage.wake index).woken := by
  unfold wake
  split
  · assumption
  · exact List.mem_append_right stage.woken (List.mem_singleton_self index)

end Stage

namespace Walk

variable {walk : Walk} {count time : Nat} {line : CancelLine} {stage : Stage}

section Afterwards

theorem Ended.turns (ended : walk.Ended count time stage) (woken : List Nat) :
    walk.Ended count time (woken.foldl Stage.turn stage) := by
  induction woken generalizing stage with
  | nil => exact ended
  | cons index rest ih => exact ih (ended.turn index)

theorem Ended.settle (ended : walk.Ended count time stage) : walk.Ended count time stage.settle :=
  (ended.pass stage.clock []).turns stage.woken

theorem Ended.showFrames (ended : walk.Ended count time stage) (limit : Option Nat) (frames : Nat) :
    walk.Ended count time (Stage.showFrames limit frames stage) := by
  induction frames generalizing stage with
  | zero => exact ended
  | succ frames ih =>
      rw [Stage.showFrames]
      split
      · exact ended
      · rename_i due index next
        split
        · exact ih ((ended.pass due stage.woken).turn index)
        · exact ended

theorem Ended.advanceTo (ended : walk.Ended count time stage) (later : Nat) :
    walk.Ended count time (stage.advanceTo later) := by
  unfold Stage.advanceTo
  split
  · exact (ended.settle.showFrames (some later) stage.settle.pendingFrames).pass later _
  · exact ended

theorem Ended.finish (ended : walk.Ended count time stage) : walk.Ended count time stage.finish :=
  ended.settle.showFrames none stage.settle.pendingFrames

theorem Ended.use (ended : walk.Ended count time stage) (lineUse : LineUse) :
    walk.Ended count time (stage.use walk.number lineUse) := by
  have relined := stage.relined_use walk.number lineUse
  refine ⟨ended.follows.use walk.number lineUse, ?_, ?_, ?_⟩
  · obtain ⟨line, due, found⟩ := ended.tour
    rcases relined with same | ⟨tour, relaid, present, changed⟩
    · rw [same]
      exact ⟨line, due, found⟩
    · cases present.symm.trans found
      refine ⟨relaid, due, ?_⟩
      rw [changed, Stage.tours_wake]
      exact List.getElem?_set_self (List.getElem?_eq_some_iff.mp found).1
  · rw [relined.tutor]
    exact ended.lesson
  · unfold Stage.logAbout
    rw [relined.log]
    exact ended.log

end Afterwards

/-- The tour was told to stop at a time, after so many frames, and its turn has come. -/
structure Told (walk : Walk) (count time : Nat) (stage : Stage) : Prop where
  underway : ∃ line, line.asksToStop = true ∧ walk.Underway count line stage
  woken : walk.number ∈ stage.woken
  clock : stage.clock = time

section Stopping

theorem Underway.use (underway : walk.Underway count line stage)
    (heard : line.held = true ∨ line.asksToStop = true ∧ walk.number ∈ stage.woken)
    (lineUse : LineUse) : walk.Told count stage.clock (stage.use walk.number lineUse) := by
  rcases Stage.use_cases underway.tour (walk.isRunning_tour count line) lineUse with
    ⟨released, same⟩ | changed
  · rw [same]
    rcases heard with held | ⟨asked, woken⟩
    · cases released.symm.trans held
    · exact ⟨⟨line, asked, underway⟩, woken, rfl⟩
  · have follows := underway.follows.use walk.number lineUse
    have within := (List.getElem?_eq_some_iff.mp underway.tour).1
    rw [changed] at follows ⊢
    refine ⟨⟨line.after lineUse, line.asksToStop_after lineUse, ?_⟩,
      Stage.mem_woken_wake _ walk.number, Stage.clock_wake _ walk.number⟩
    refine ⟨follows, ?_, underway.left, ?_, ?_, ?_⟩
    · rw [Stage.tours_wake]
      exact List.getElem?_set_self within
    · rw [Stage.tutor_wake]
      exact underway.lesson
    · unfold Stage.logAbout
      rw [Stage.log_wake]
      exact underway.log
    · rw [Stage.clock_wake]
      exact underway.clock

theorem Underway.turns_asked (underway : walk.Underway count line stage)
    (asked : line.asksToStop = true) {woken : List Nat} (listed : walk.number ∈ woken) :
    walk.Ended count stage.clock (woken.foldl Stage.turn stage) := by
  induction woken generalizing stage with
  | nil => cases listed
  | cons index rest ih =>
      rw [List.foldl_cons]
      by_cases own : index = walk.number
      · rw [own]
        exact (underway.turn_asked asked).turns rest
      · have later := ih (underway.turn_other own)
          ((List.mem_cons.mp listed).resolve_left fun same => own same.symm)
        rw [Stage.clock_turn] at later
        exact later

theorem Told.settle (told : walk.Told count time stage) : walk.Ended count time stage.settle := by
  obtain ⟨⟨line, asked, underway⟩, woken, rfl⟩ := told
  exact (underway.pass underway.clock []).turns_asked asked woken

theorem Told.advanceTo (told : walk.Told count time stage) {later : Nat}
    (passes : stage.clock < later) : walk.Ended count time (stage.advanceTo later) := by
  unfold Stage.advanceTo
  rw [if_pos passes]
  exact (told.settle.showFrames (some later) stage.settle.pendingFrames).pass later _

/-- A tour that was told to stop ends at this time, whatever its line is used for later. -/
theorem ended_of_told (history : List (Nat × LineUse))
    (decided : walk.Told count time stage ∨ walk.Ended count time stage) :
    walk.Ended count time (stage.playOut walk.number history) := by
  unfold Stage.playOut
  induction history generalizing stage with
  | nil =>
      rcases decided with told | ended
      · exact told.settle.showFrames none stage.settle.pendingFrames
      · exact ended.finish
  | cons entry rest ih =>
      rw [List.foldl_cons]
      apply ih
      rcases decided with told | ended
      · by_cases passes : stage.clock < entry.1
        · exact .inr ((told.advanceTo passes).use entry.2)
        · have still : stage.advanceTo entry.1 = stage := if_neg passes
          obtain ⟨⟨line, asked, underway⟩, woken, rfl⟩ := told
          rw [still]
          exact .inl (underway.use (.inr ⟨asked, woken⟩) entry.2)
      · exact .inr ((ended.advanceTo entry.1).use entry.2)

end Stopping

section Showing

theorem time_le_time (walk : Walk) {place later : Nat} (order : place ≤ later) :
    walk.time place ≤ walk.time later :=
  Nat.add_le_add_left (Nat.mul_le_mul_right walk.wait order) walk.start

theorem Underway.turns_early (underway : walk.Underway count line stage)
    (unasked : line.asksToStop = false) (early : stage.clock < walk.time (count + 1))
    (woken : List Nat) : walk.Underway count line (woken.foldl Stage.turn stage) := by
  induction woken generalizing stage with
  | nil => exact underway
  | cons index rest ih =>
      rw [List.foldl_cons]
      by_cases own : index = walk.number
      · rw [own, underway.turn_early unasked early]
        exact ih underway early
      · apply ih (underway.turn_other own)
        rw [Stage.clock_turn]
        exact early

theorem Underway.settle (underway : walk.Underway count line stage)
    (unasked : line.asksToStop = false) (early : stage.clock < walk.time (count + 1)) :
    walk.Underway count line stage.settle :=
  (underway.pass underway.clock []).turns_early unasked early stage.woken

/-- However many frames are shown on the stage, those of the tour come at their times. -/
theorem Underway.showFrames (underway : walk.Underway count line stage)
    (unasked : line.asksToStop = false) {limit : Option Nat}
    (before : limit.all (walk.time count < ·) = true) (frames : Nat) :
    (∃ reached, limit.all (walk.time reached < ·) = true ∧
      walk.Underway reached line (Stage.showFrames limit frames stage)) ∨
    (limit.all (walk.time Tour.frames.length < ·) = true ∧
      walk.Ended Tour.frames.length (walk.time Tour.frames.length)
        (Stage.showFrames limit frames stage)) := by
  induction frames generalizing stage count with
  | zero => exact .inl ⟨count, before, underway⟩
  | succ frames ih =>
      rw [Stage.showFrames]
      split
      · exact .inl ⟨count, before, underway⟩
      · rename_i due index next
        split
        · rename_i within
          have first : due ≤ walk.time (count + 1) :=
            Stage.le_due_of_nextDue?_eq_some next _ (List.mem_of_getElem? underway.tour)
              (walk.isRunning_tour count line)
          have passed := underway.pass first stage.woken
          by_cases own : index = walk.number
          · obtain ⟨tour, found, _running, ripe⟩ := Stage.exists_of_nextDue?_eq_some next
            rw [own] at found
            cases found.symm.trans underway.tour
            subst ripe
            rw [own]
            rcases passed.turn_due unasked rfl with ⟨_more, walked⟩ | ⟨last, ended⟩
            · exact ih walked within
            · have inTime : limit.all (walk.time (count + 1) < ·) = true := within
              have whole : walk.Ended (count + 1) (walk.time (count + 1)) _ :=
                ended.showFrames limit frames
              rw [last] at inTime whole
              exact .inr ⟨inTime, whole⟩
          · exact ih (passed.turn_other own) before
        · exact .inl ⟨count, before, underway⟩

theorem Underway.finish (underway : walk.Underway count line stage)
    (unasked : line.asksToStop = false) (early : stage.clock < walk.time (count + 1)) :
    walk.Ended Tour.frames.length (walk.time Tour.frames.length) stage.finish := by
  have settled := underway.settle unasked early
  rcases settled.showFrames unasked Option.all_none stage.settle.pendingFrames with
    ⟨reached, _before, waiting⟩ | ⟨_before, ended⟩
  · have due := settled.follows.not_due_of_showFrames none (Nat.le_refl _) _
      (List.mem_of_getElem? waiting.tour) (walk.isRunning_tour reached line)
    cases due
  · exact ended

/-- When time has passed up to a limit, exactly the frames before it have been shown. -/
theorem Underway.advanceTo (underway : walk.Underway count line stage)
    (unasked : line.asksToStop = false) (early : stage.clock < walk.time (count + 1))
    {limit : Nat} (later : stage.clock < limit) (before : walk.time count < limit) :
    (stage.advanceTo limit).clock = limit ∧
    ((∃ reached, walk.time reached < limit ∧
        walk.Underway reached line (stage.advanceTo limit)) ∨
      (walk.time Tour.frames.length < limit ∧
        walk.Ended Tour.frames.length (walk.time Tour.frames.length) (stage.advanceTo limit))) := by
  have settled := underway.settle unasked early
  have inTime : (some limit).all (walk.time count < ·) = true := decide_eq_true before
  unfold Stage.advanceTo
  rw [if_pos later]
  refine ⟨rfl, ?_⟩
  rcases settled.showFrames unasked inTime stage.settle.pendingFrames with
    ⟨reached, shown, waiting⟩ | ⟨shown, ended⟩
  · left
    have due := settled.follows.not_due_of_showFrames (some limit) (Nat.le_refl _) _
      (List.mem_of_getElem? waiting.tour) (walk.isRunning_tour reached line)
    have beyond : limit ≤ walk.time (reached + 1) := Nat.le_of_not_lt (of_decide_eq_false due)
    exact ⟨reached, of_decide_eq_true shown, waiting.pass beyond _⟩
  · exact .inr ⟨of_decide_eq_true shown, ended.pass limit _⟩

end Showing

/-- If a tour is stopped at a time, or never, it ends at this time and after so many frames. -/
structure EndsAt (walk : Walk) (stop : Option Nat) (count time : Nat) : Prop where
  within : count ≤ Tour.frames.length
  shown : ∀ index < Tour.frames.length,
    stop.all (walk.time (index + 1) < ·) = decide (index < count)
  time : time = stop.elim (walk.time Tour.frames.length) (min · (walk.time Tour.frames.length))

section Endings

theorem endsAt_last (walk : Walk) :
    walk.EndsAt none Tour.frames.length (walk.time Tour.frames.length) where
  within := Nat.le_refl _
  shown := fun _index early => (decide_eq_true early).symm
  time := rfl

theorem endsAt_of_past {limit : Nat} (past : walk.time Tour.frames.length < limit) :
    walk.EndsAt (some limit) Tour.frames.length (walk.time Tour.frames.length) where
  within := Nat.le_refl _
  shown := by
    intro index early
    have order := walk.time_le_time (Nat.succ_le_of_lt early)
    rw [decide_eq_true early]
    exact decide_eq_true (Nat.lt_of_le_of_lt order past)
  time := (Nat.min_eq_right (Nat.le_of_lt past)).symm

theorem endsAt_of_between {limit : Nat} (left : count < Tour.frames.length)
    (before : count ≠ 0 → walk.time count < limit) (beyond : limit ≤ walk.time (count + 1)) :
    walk.EndsAt (some limit) count limit where
  within := Nat.le_of_lt left
  shown := by
    intro index _early
    apply decide_eq_decide.mpr
    constructor
    · intro reached
      apply Nat.lt_of_not_le
      intro past
      have order : walk.time (count + 1) ≤ walk.time (index + 1) :=
        walk.time_le_time (Nat.succ_le_succ past)
      omega
    · intro early
      have order := walk.time_le_time (Nat.succ_le_of_lt early)
      exact Nat.lt_of_le_of_lt order (before (Nat.ne_of_gt (Nat.zero_lt_of_lt early)))
  time := (Nat.min_eq_left (Nat.le_trans beyond (walk.time_le_time left))).symm

theorem start_lt_time_one (walk : Walk) : walk.start < walk.time 1 :=
  Nat.lt_add_of_pos_right (Nat.mul_pos Nat.one_pos walk.positive)

theorem endsAt_start (walk : Walk) : walk.EndsAt (some walk.start) 0 walk.start :=
  endsAt_of_between (by decide) (fun nonzero => absurd rfl nonzero)
    (Nat.le_of_lt walk.start_lt_time_one)

/-- The first use of the line decides when the tour ends. -/
theorem Underway.exists_decided (underway : walk.Underway 0 { value := false } stage)
    (clock : stage.clock = walk.start) (entry : Nat × LineUse) :
    let next := (stage.advanceTo entry.1).use walk.number entry.2
    ∃ count time, walk.EndsAt (some (max walk.start entry.1)) count time ∧
      (walk.Told count time next ∨ walk.Ended count time next) := by
  intro next
  have early := walk.start_lt_time_one
  rw [← clock] at early
  by_cases passes : stage.clock < entry.1
  · have after : walk.time 0 < entry.1 := by
      unfold time
      rw [Nat.zero_mul, Nat.add_zero, ← clock]
      exact passes
    rw [← clock, Nat.max_eq_right (Nat.le_of_lt passes)]
    obtain ⟨now, ⟨reached, before, waiting⟩ | ⟨past, ended⟩⟩ :=
      underway.advanceTo rfl early passes after
    · have told := waiting.use (.inl rfl) entry.2
      have beyond := waiting.clock
      rw [now] at told beyond
      exact ⟨reached, entry.1,
        endsAt_of_between waiting.left (fun _nonzero => before) beyond, .inl told⟩
    · exact ⟨_, _, endsAt_of_past past, .inr (ended.use entry.2)⟩
  · have still : stage.advanceTo entry.1 = stage := if_neg passes
    have told := underway.use (.inl rfl) entry.2
    rw [clock, ← still] at told
    rw [clock] at passes
    rw [Nat.max_eq_left (Nat.le_of_not_lt passes)]
    exact ⟨0, walk.start, walk.endsAt_start, .inl told⟩

theorem EndsAt.filter_timetable {stop : Option Nat} (ends : walk.EndsAt stop count time) :
    (Tour.timetable walk.start walk.wait).filter (fun entry => stop.all (entry.1 < ·)) =
      (Tour.timetable walk.start walk.wait).take count := by
  apply filter_eq_take
  intro index entry found
  rw [Tour.getElem?_timetable] at found
  obtain ⟨frame, listed, rfl⟩ := Option.map_eq_some_iff.mp found
  exact ends.shown index (List.getElem?_eq_some_iff.mp listed).1

/-- What an ended tour has asked for: its first frames, and its end once. -/
theorem Ended.exists_requests (ended : walk.Ended count time stage) :
    ∃ requests, Staged stage requests ∧
      Request.madeBy walk.number requests =
        (Tour.frames.take count).map (.showTourFrame walk.kind) ++ [.finishTour walk.kind] := by
  obtain ⟨requests, staged⟩ := ended.follows
  obtain ⟨line, due, found⟩ := ended.tour
  obtain ⟨shown, all, made, _completed⟩ := staged.ledger.accounted walk.number _ found
  have whole : shown ++ Tour.frames.drop count = Tour.frames := all.symm
  have first : shown = Tour.frames.take count :=
    List.append_cancel_right (whole.trans (List.take_append_drop count Tour.frames).symm)
  rw [first] at made
  exact ⟨_, staged, made⟩

end Endings

end Walk

namespace Stage

variable {stage : Stage} {requests : List Request} {kind : LoopKind} {delay : Nat}

/-- The tour that begins now. -/
def walk (stage : Stage) {kind : LoopKind} (free : (stage.tutor.lesson kind).touring = false)
    {delay : Nat} (positive : 0 < delay) : Walk where
  number := stage.tours.length
  kind
  start := stage.clock
  wait := delay
  positive
  lesson := stage.tutor.lesson kind
  free
  earlier := stage.logAbout kind

theorem answer_beginTour_of_free (free : (stage.tutor.lesson kind).touring = false) (delay : Nat)
    (stopped : Bool) : (stage.beginTour kind delay stopped).2 = some stage.tours.length := by
  have granted : (stage.act (.beginTour kind)).2 = .granted true := by
    have answer := stage.tutor.answer_beginTour kind
    rw [free] at answer
    exact answer
  have begun : stage.act (.beginTour kind) = ((stage.act (.beginTour kind)).1, .granted true) :=
    Prod.ext rfl granted
  unfold beginTour
  rw [begun]
  rfl

theorem starting_eq_tour (free : (stage.tutor.lesson kind).touring = false) (positive : 0 < delay)
    (stopped : Bool) :
    Tour.starting kind delay stage.clock stopped =
      (stage.walk free positive).tour 0 { value := stopped } := by
  simp [Tour.starting, Walk.tour, Walk.time, walk]

theorem underway_beginTour (staged : Staged stage requests)
    (free : (stage.tutor.lesson kind).touring = false) (positive : 0 < delay) (stopped : Bool) :
    let begun := (stage.beginTour kind delay stopped).1
    (stage.walk free positive).Underway 0 { value := stopped } begun ∧
      stage.tours.length ∈ begun.woken ∧ begun.clock = stage.clock := by
  intro begun
  have follows : begun.Follows [] := ⟨_, staged.beginTour kind delay stopped⟩
  have answer := stage.tutor.answer_beginTour kind
  rw [free] at answer
  rcases stage.beginTour_cases kind delay stopped with ⟨_granted, after⟩ | ⟨refused, _after⟩
  · have shape : begun = _ := after
    clear_value begun
    subst shape
    refine ⟨⟨follows, ?_, by decide, ?_, ?_, ?_⟩, mem_woken_wake _ _, clock_wake _ _⟩
    · rw [tours_wake, starting_eq_tour free positive]
      exact List.getElem?_concat_length
    · rw [tutor_wake]
      have marked := congrArg (Tutor.lesson · kind) (stage.tutor.tutor_beginTour kind)
      exact marked.trans (Tutor.lesson_modify_self stage.tutor kind _)
    · have unsent : (stage.act (.beginTour kind)).1.log = stage.log := by
        change stage.log ++ (stage.tutor.beginTour kind).notices.map _ = stage.log
        rw [Tutor.notices_beginTour]
        exact List.append_nil stage.log
      unfold logAbout
      rw [log_wake]
      change (stage.act (.beginTour kind)).1.log.filter _ = stage.logAbout kind ++ []
      rw [unsent, List.append_nil]
      rfl
    · rw [clock_wake]
      exact Nat.le_add_right stage.clock _
  · cases refused.symm.trans answer

/-- Every use of the line but the first comes too late, and the first stops the tour. -/
theorem exists_ended_playOut (staged : Staged stage requests)
    (free : (stage.tutor.lesson kind).touring = false) (positive : 0 < delay) (stopped : Bool)
    (history : List (Nat × LineUse)) :
    ∃ count time,
      (stage.walk free positive).EndsAt
        (if stopped then some stage.clock
          else history.head?.map fun entry => max stage.clock entry.1) count time ∧
      (stage.walk free positive).Ended count time
        ((stage.beginTour kind delay stopped).1.playOut stage.tours.length history) := by
  obtain ⟨underway, woken, clock⟩ := underway_beginTour staged free positive stopped
  cases stopped with
  | true =>
      have told : (stage.walk free positive).Told 0 stage.clock _ :=
        ⟨⟨_, rfl, underway⟩, woken, clock⟩
      exact ⟨0, stage.clock, Walk.endsAt_start _, Walk.ended_of_told history (.inl told)⟩
  | false =>
      cases history with
      | nil =>
          have early := (stage.walk free positive).start_lt_time_one
          exact ⟨_, _, Walk.endsAt_last _, underway.finish rfl (clock ▸ early)⟩
      | cons entry rest =>
          obtain ⟨count, time, ends, decided⟩ := underway.exists_decided clock entry
          have ended := Walk.ended_of_told rest decided
          exact ⟨count, time, ends, ended⟩

/-- On any stage, a tour of a free lesson shows its frames one delay after the other from the time at
which it begins, until its line is used.  If the line carries a stop from the beginning, the tour
ends at once.  Otherwise the first use of the line ends it then, whatever is sent or if the line is
released, and only the frames before that are shown; a tour that nobody stops ends with its last
frame.  It asks for its end once, which puts back the highlight of the lesson, and it has completed
exactly if every frame was shown. -/
theorem tour_keeps_time (staged : Staged stage requests)
    (free : (stage.tutor.lesson kind).touring = false) (positive : 0 < delay) (stopped : Bool)
    (history : List (Nat × LineUse)) :
    let start := stage.clock
    let number := stage.tours.length
    let final := (stage.beginTour kind delay stopped).1.playOut number history
    let stop := if stopped then some start else history.head?.map fun entry => max start entry.1
    let shown := (Tour.timetable start delay).filter fun entry => stop.all (entry.1 < ·)
    let last := start + Tour.frames.length * delay
    (stage.beginTour kind delay stopped).2 = some number ∧
    final.logAbout kind =
      stage.logAbout kind ++ shown.map (fun entry => (entry.1, .highlight kind entry.2)) ++
        [(stop.elim last (min · last), .highlight kind (stage.tutor.lesson kind).highlight)] ∧
    final.tutor.lesson kind = stage.tutor.lesson kind ∧
    (∃ tour, final.tours[number]? = some tour ∧
      tour.completed = some (decide (shown.length = Tour.frames.length))) ∧
    ∃ requests, Staged final requests ∧
      Request.madeBy number requests =
        shown.map (fun entry => .showTourFrame kind entry.2) ++ [.finishTour kind] := by
  intro start number final stop shown last
  obtain ⟨count, time, ends, ended⟩ := exists_ended_playOut staged free positive stopped history
  have taken : shown = (Tour.timetable start delay).take count := ends.filter_timetable
  have length : shown.length = count := by
    rw [taken, List.length_take, Tour.length_timetable, Nat.min_eq_left ends.within]
  refine ⟨answer_beginTour_of_free free delay stopped, ?_, ended.lesson, ?_, ?_⟩
  · rw [taken]
    have log := ended.log
    rw [ends.time] at log
    exact log
  · obtain ⟨line, due, found⟩ := ended.tour
    exact ⟨_, found, by rw [length]⟩
  · obtain ⟨made, staged, asked⟩ := ended.exists_requests
    have frames : shown.map Prod.snd = Tour.frames.take count := by
      rw [taken, List.map_take, Tour.map_snd_timetable]
    refine ⟨made, staged, asked.trans ?_⟩
    rw [← frames, List.map_map]
    rfl

/-- Beside a tour of another lesson, a tour shows two frames before anything is sent to it. -/
theorem tour_stopped_between_frames :
    ∃ (stage : Stage) (requests : List Request),
      Staged stage requests ∧ stage.IsTouredBy .forLoop 0 ∧ stage.clock = 3 ∧
      (stage.tutor.lesson .whileLoop).touring = false ∧
      let final := (stage.beginTour .whileLoop 10 false).1.playOut 1
        [(25, .send false), (25, .release), (90, .send true)]
      final.logAbout .whileLoop =
        [(13, .highlight .whileLoop (some .start)), (23, .highlight .whileLoop (some .condition)),
          (25, .highlight .whileLoop none)] ∧
      ∃ tour, final.tours[1]? = some tour ∧ tour.completed = some false := by
  have staged := (Staged.opening.beginTour .forLoop 7 false).pass 3 [0]
  have free : ((Stage.initial.beginTour .forLoop 7 false).1.tutor.lesson .whileLoop).touring =
      false := by decide
  obtain ⟨_answer, log, _lesson, ⟨tour, found, completed⟩, _made⟩ :=
    tour_keeps_time staged free (show 0 < 10 by decide) false
      [(25, .send false), (25, .release), (90, .send true)]
  refine ⟨_, _, staged, ⟨_, rfl, rfl, rfl⟩, rfl, free, ?_, tour, found, ?_⟩
  · exact log.trans (by decide)
  · exact completed.trans (by decide)

end Stage

end LoopLesson
