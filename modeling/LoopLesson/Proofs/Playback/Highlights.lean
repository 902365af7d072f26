import LoopLesson.Proofs.Playback.Closing

/-!
What is highlighted while a lesson is played: a part of the loop at every event but the last.

The last event alone highlights nothing, so a display that waits for a view without a highlight
waits for the end of the lesson.
-/

namespace LoopLesson

theorem exists_intercalate_cons (separator first : String) (rest : List String) :
    ∃ behind, separator.intercalate (first :: rest) = first ++ behind := by
  cases rest with
  | nil =>
      refine ⟨"", ?_⟩
      rw [String.intercalate_singleton, String.append_empty]
  | cons next further =>
      refine ⟨separator ++ separator.intercalate (next :: further), ?_⟩
      rw [String.intercalate_cons_cons, String.append_assoc]

theorem intercalate_cons_ne_empty (separator : String) {first : String} (nonempty : first ≠ "")
    (rest : List String) : separator.intercalate (first :: rest) ≠ "" := by
  obtain ⟨behind, joined⟩ := exists_intercalate_cons separator first rest
  rw [joined]
  intro empty
  exact nonempty (String.append_eq_empty_iff.mp empty).1

namespace Playback

/-- A closed playback with a trace, in which every event but the last highlights a part. -/
structure LitUntilEnd (playback : Playback) : Prop extends playback.Closed where
  lit : ∀ event ∈ playback.events.dropLast, event.highlight ≠ none
  traced : playback.traceText ≠ ""

theorem LitUntilEnd.highlight_ne_none {playback : Playback} (lit : playback.LitUntilEnd)
    {index : Nat} (early : index + 1 < playback.events.length) :
    playback.events[index].highlight ≠ none := by
  have within : index < playback.events.dropLast.length := by
    rw [List.length_dropLast]
    omega
  have same : playback.events.dropLast[index] = playback.events[index] :=
    List.getElem_dropLast within
  rw [← same]
  exact lit.lit _ (List.getElem_mem within)

/-- The shape of every lesson: a traced start, the events of the iterations, a check and the end. -/
theorem litUntilEnd_ofEvents {start check last : Event} {inner : List Event}
    {line finalCounter : String}
    (startLit : start.highlight ≠ none) (innerLit : ∀ event ∈ inner, event.highlight ≠ none)
    (checkLit : check.highlight ≠ none) (traced : start.trace = some line) (nonempty : line ≠ "")
    (highlight : last.highlight = none) (counter : last.counter = some finalCounter) :
    (ofEvents (start :: inner ++ [check, last]) finalCounter).LitUntilEnd where
  toClosed := closed_ofEvents highlight counter
  lit := by
    intro event member
    change event ∈ (start :: inner ++ [check, last]).dropLast at member
    rw [List.dropLast_append_of_ne_nil (List.cons_ne_nil _ _)] at member
    rcases List.mem_append.mp member with early | final
    · rcases List.mem_cons.mp early with rfl | inside
      · exact startLit
      · exact innerLit event inside
    · rw [List.mem_singleton.mp final]
      exact checkLit
  traced := by
    change joinLines ((start :: inner ++ [check, last]).filterMap Event.trace) ≠ ""
    rw [List.cons_append, List.filterMap_cons, traced]
    exact intercalate_cons_ne_empty _ nonempty _

end Playback

theorem CountingLoop.litUntilEnd_playback (kind : LoopKind) (loop : CountingLoop) :
    (loop.playback kind).LitUntilEnd := by
  have labelled : kind.wording.start ≠ "" := by cases kind <;> decide
  unfold playback events
  refine Playback.litUntilEnd_ofEvents nofun ?_ nofun rfl ?_ rfl rfl
  · intro event member
    obtain ⟨visit, _listed, inIteration⟩ := List.mem_flatMap.mp member
    simp only [iterationEvents, List.mem_cons, List.not_mem_nil, or_false] at inIteration
    rcases inIteration with rfl | rfl | rfl <;> nofun
  · simp only [String.append_assoc, ne_eq, String.append_eq_empty_iff, labelled, false_and,
      not_false_eq_true]

theorem ItemLoop.litUntilEnd_playback (loop : ItemLoop) : loop.playback.LitUntilEnd := by
  unfold playback events
  refine Playback.litUntilEnd_ofEvents nofun ?_ nofun rfl ?_ rfl rfl
  · intro event member
    obtain ⟨item, _listed, ofItem⟩ := List.mem_flatMap.mp member
    simp only [itemEvents, List.mem_cons, List.not_mem_nil, or_false] at ofItem
    rcases ofItem with rfl | rfl | rfl <;> nofun
  · have labelled : "Start: " ≠ "" := by decide
    simp only [String.append_assoc, ne_eq, String.append_eq_empty_iff, labelled, false_and,
      not_false_eq_true]

theorem LoopKind.litUntilEnd_of_play {kind : LoopKind} {script : Script} {playback : Playback}
    (plays : kind.play script = .ok playback) : playback.LitUntilEnd := by
  rcases exists_loop_of_play plays with
    ⟨loop, _counts, _readable, rfl⟩ | ⟨loop, _iterates, _readable, rfl⟩
  · exact loop.litUntilEnd_playback kind
  · exact loop.litUntilEnd_playback

end LoopLesson
