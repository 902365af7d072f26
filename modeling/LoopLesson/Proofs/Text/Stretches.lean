/-!
The stretches of a text: its longest runs of characters of one class.

A text is its stretches with the other characters between them, in exactly this order, so a function
on stretches can be carried through a text.  What it does in one stretch does not depend on the rest
of the text, and a second function sees the stretches of what the first has left.
-/

namespace LoopLesson
namespace Text

/-- The longest stretches of characters of a class.  The first one stands apart, and every later one
behind the character that separates it from the one before.  A stretch may be empty. -/
def stretches (inClass : Char → Bool) : List Char → List Char × List (Char × List Char)
  | [] => ([], [])
  | c :: rest =>
      let (first, others) := stretches inClass rest
      if inClass c then (c :: first, others) else ([], (c, first) :: others)

/-- The stretches without the characters that separate them. -/
def stretchList (inClass : Char → Bool) (text : List Char) : List (List Char) :=
  (stretches inClass text).1 :: (stretches inClass text).2.map Prod.snd

/-- Puts the image of every stretch in its place and keeps all other characters. -/
def mapStretches (inClass : Char → Bool) (image : List Char → List Char) (text : List Char) :
    List Char :=
  image (stretches inClass text).1 ++
    (stretches inClass text).2.flatMap fun (c, stretch) => c :: image stretch

section Decomposition

variable {inClass : Char → Bool} {stretch : List Char}

theorem stretches_cons_inside {c : Char} (inside : inClass c = true) (rest : List Char) :
    stretches inClass (c :: rest) =
      (c :: (stretches inClass rest).1, (stretches inClass rest).2) := by
  rw [stretches]
  exact if_pos inside

theorem stretches_cons_outside {c : Char} (outside : inClass c = false) (rest : List Char) :
    stretches inClass (c :: rest) =
      ([], (c, (stretches inClass rest).1) :: (stretches inClass rest).2) := by
  rw [stretches]
  exact if_neg (Bool.eq_false_iff.mp outside)

theorem stretches_of_all (all : ∀ c ∈ stretch, inClass c = true) :
    stretches inClass stretch = (stretch, []) := by
  induction stretch with
  | nil => rfl
  | cons c rest ih =>
      have later := ih fun d member => all d (List.mem_cons_of_mem c member)
      rw [stretches_cons_inside (all c List.mem_cons_self), later]

theorem stretches_append_cons (all : ∀ c ∈ stretch, inClass c = true) {c : Char}
    (outside : inClass c = false) (rest : List Char) :
    stretches inClass (stretch ++ c :: rest) =
      (stretch, (c, (stretches inClass rest).1) :: (stretches inClass rest).2) := by
  induction stretch with
  | nil => exact stretches_cons_outside outside rest
  | cons d further ih =>
      have later := ih fun e member => all e (List.mem_cons_of_mem d member)
      rw [List.cons_append, stretches_cons_inside (all d List.mem_cons_self), later]

/-- A text is a stretch, or a stretch and a character outside the class before another text. -/
@[elab_as_elim]
theorem stretch_induction (inClass : Char → Bool) {motive : List Char → Prop}
    (last : ∀ stretch, (∀ c ∈ stretch, inClass c = true) → motive stretch)
    (before : ∀ stretch c rest, (∀ d ∈ stretch, inClass d = true) → inClass c = false →
      motive rest → motive (stretch ++ c :: rest))
    (text : List Char) : motive text := by
  -- The characters that were passed belong to the stretch that has not ended yet.
  suffices unfinished : ∀ passed, (∀ c ∈ passed, inClass c = true) → motive (passed ++ text) from
    unfinished [] nofun
  induction text with
  | nil =>
      intro passed all
      rw [List.append_nil]
      exact last passed all
  | cons c rest ih =>
      intro passed all
      cases held : inClass c with
      | true =>
          have longer : ∀ d ∈ passed ++ [c], inClass d = true := by
            intro d member
            rcases List.mem_append.mp member with earlier | new
            · exact all d earlier
            · rw [List.mem_singleton.mp new]
              exact held
          have whole := ih (passed ++ [c]) longer
          rwa [List.append_assoc, List.singleton_append] at whole
      | false => exact before passed c rest all held (ih [] nofun)

theorem stretchList_of_all (all : ∀ c ∈ stretch, inClass c = true) :
    stretchList inClass stretch = [stretch] := by
  unfold stretchList
  rw [stretches_of_all all]
  rfl

theorem stretchList_stretch_cons (all : ∀ c ∈ stretch, inClass c = true) {c : Char}
    (outside : inClass c = false) (rest : List Char) :
    stretchList inClass (stretch ++ c :: rest) = stretch :: stretchList inClass rest := by
  unfold stretchList
  rw [stretches_append_cons all outside]
  rfl

/-- A character outside the class divides the stretches of a text. -/
theorem stretchList_append_cons (left : List Char) {c : Char} (outside : inClass c = false)
    (right : List Char) :
    stretchList inClass (left ++ c :: right) =
      stretchList inClass left ++ stretchList inClass right := by
  induction left using stretch_induction inClass with
  | last whole all =>
      rw [stretchList_stretch_cons all outside, stretchList_of_all all, List.singleton_append]
  | before first d rest all outside' ih =>
      rw [List.append_assoc, List.cons_append, stretchList_stretch_cons all outside', ih,
        stretchList_stretch_cons all outside', List.cons_append]

theorem all_of_mem_stretchList {text : List Char} (listed : stretch ∈ stretchList inClass text) :
    ∀ c ∈ stretch, inClass c = true := by
  induction text using stretch_induction inClass with
  | last whole all =>
      rw [stretchList_of_all all] at listed
      rw [List.mem_singleton.mp listed]
      exact all
  | before first c rest all outside ih =>
      rw [stretchList_stretch_cons all outside] at listed
      rcases List.mem_cons.mp listed with rfl | later
      · exact all
      · exact ih later

end Decomposition

section Images

variable {inClass : Char → Bool} {stretch : List Char} (image : List Char → List Char)

theorem mapStretches_of_all (all : ∀ c ∈ stretch, inClass c = true) :
    mapStretches inClass image stretch = image stretch := by
  unfold mapStretches
  rw [stretches_of_all all, List.flatMap_nil, List.append_nil]

theorem mapStretches_stretch_cons (all : ∀ c ∈ stretch, inClass c = true) {c : Char}
    (outside : inClass c = false) (rest : List Char) :
    mapStretches inClass image (stretch ++ c :: rest) =
      image stretch ++ c :: mapStretches inClass image rest := by
  unfold mapStretches
  rw [stretches_append_cons all outside, List.flatMap_cons, List.cons_append]

/-- A character outside the class divides the text into two that do not see each other. -/
theorem mapStretches_append_cons (left : List Char) {c : Char} (outside : inClass c = false)
    (right : List Char) :
    mapStretches inClass image (left ++ c :: right) =
      mapStretches inClass image left ++ c :: mapStretches inClass image right := by
  induction left using stretch_induction inClass with
  | last whole all =>
      rw [mapStretches_stretch_cons image all outside, mapStretches_of_all image all]
  | before first d rest all outside' ih =>
      rw [List.append_assoc, List.cons_append, mapStretches_stretch_cons image all outside', ih,
        mapStretches_stretch_cons image all outside', List.append_assoc, List.cons_append]

/-- A second pass works in what the first one has put in the place of each stretch. -/
theorem mapStretches_mapStretches (further : List Char → List Char) (text : List Char) :
    mapStretches inClass further (mapStretches inClass image text) =
      mapStretches inClass (fun stretch => mapStretches inClass further (image stretch)) text := by
  induction text using stretch_induction inClass with
  | last whole all => rw [mapStretches_of_all image all, mapStretches_of_all _ all]
  | before first c rest all outside ih =>
      rw [mapStretches_stretch_cons image all outside, mapStretches_append_cons further _ outside,
        ih, mapStretches_stretch_cons _ all outside]

variable {image}

theorem mapStretches_congr {other : List Char → List Char} {text : List Char}
    (same : ∀ stretch ∈ stretchList inClass text, image stretch = other stretch) :
    mapStretches inClass image text = mapStretches inClass other text := by
  induction text using stretch_induction inClass with
  | last whole all =>
      rw [stretchList_of_all all] at same
      rw [mapStretches_of_all _ all, mapStretches_of_all _ all, same whole List.mem_cons_self]
  | before first c rest all outside ih =>
      rw [stretchList_stretch_cons all outside] at same
      obtain ⟨here, later⟩ := List.forall_mem_cons.mp same
      rw [mapStretches_stretch_cons _ all outside, mapStretches_stretch_cons _ all outside, here,
        ih later]

theorem mem_mapStretches {text : List Char} (listed : stretch ∈ stretchList inClass text) {c : Char}
    (shown : c ∈ image stretch) : c ∈ mapStretches inClass image text := by
  rcases List.mem_cons.mp listed with rfl | later
  · exact List.mem_append_left _ shown
  · obtain ⟨separated, member, rfl⟩ := List.mem_map.mp later
    apply List.mem_append_right
    exact List.mem_flatMap.mpr ⟨separated, member, List.mem_cons_of_mem _ shown⟩

/-- Where every stretch is its own image, the text stays as it is. -/
theorem mapStretches_eq_self {text : List Char}
    (kept : ∀ stretch ∈ stretchList inClass text, image stretch = stretch) :
    mapStretches inClass image text = text := by
  induction text using stretch_induction inClass with
  | last whole all =>
      rw [stretchList_of_all all] at kept
      rw [mapStretches_of_all _ all, kept whole List.mem_cons_self]
  | before first c rest all outside ih =>
      rw [stretchList_stretch_cons all outside] at kept
      obtain ⟨here, later⟩ := List.forall_mem_cons.mp kept
      rw [mapStretches_stretch_cons _ all outside, here, ih later]

end Images

end Text
end LoopLesson
