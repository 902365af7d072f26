import LoopLesson.Pattern.Meaning

/-!
The room of the machines of a text, of blanks and of digits.

A character has a state for each of its bytes.  The room of machines that run one after the other is
the sum of their rooms.
-/

namespace LoopLesson

/-- The number of bytes of a text. -/
def byteLength : List Char → Nat
  | [] => 0
  | c :: rest => c.utf8Size + byteLength rest

theorem byteLength_replicate (count : Nat) (c : Char) :
    byteLength (List.replicate count c) = count * c.utf8Size := by
  induction count with
  | zero => exact (Nat.zero_mul c.utf8Size).symm
  | succ count ih =>
      rw [List.replicate_succ, byteLength, ih, Nat.succ_mul, Nat.add_comm]

namespace CodeRanges

theorem cut?_self (point : Nat) : cut? point point = none := by
  simp [cut?]

theorem blocks_self (depth point : Nat) : blocks depth point point = [(point, point)] := by
  cases depth with
  | zero => rfl
  | succ depth => rw [blocks, cut?_self]

/-- Of the numbers of bytes, only the one that fits a code point has a block for it. -/
theorem blocks_within {α : Type} (depth lower upper point : Nat) (spell : Nat × Nat → α) :
    (if max lower point ≤ min upper point then
        (blocks depth (max lower point) (min upper point)).map spell
      else []) =
      if lower ≤ point ∧ point ≤ upper then [spell (point, point)] else [] := by
  by_cases within : lower ≤ point ∧ point ≤ upper
  · rw [Nat.max_eq_right within.1, Nat.min_eq_right within.2, if_pos (Nat.le_refl point),
      if_pos within, blocks_self]
    rfl
  · rw [if_neg within, if_neg]
    omega

theorem utf8Size_eq (c : Char) :
    c.utf8Size =
      if c.toNat ≤ 0x7F then 1 else if c.toNat ≤ 0x7FF then 2 else if c.toNat ≤ 0xFFFF then 3
      else 4 := by
  simp only [Char.utf8Size, UInt32.le_iff_toNat_le]
  rfl

/-- A single code point is spelt in one way, with as many bytes as its character has. -/
theorem length_byteRanges_self (c : Char) :
    (byteRanges (c.toNat, c.toNat)).map List.length = [c.utf8Size] := by
  have valid : c.toNat < 0xD800 ∨ 0xDFFF < c.toNat ∧ c.toNat < 0x110000 := c.valid
  rw [utf8Size_eq]
  generalize c.toNat = point at valid
  simp only [byteRanges, byteLengths, List.flatMap_cons, List.flatMap_nil, blocks_within]
  have classes : point ≤ 0x7F ∨ (0x80 ≤ point ∧ point ≤ 0x7FF) ∨ (0x800 ≤ point ∧ point ≤ 0xD7FF) ∨
      (0xE000 ≤ point ∧ point ≤ 0xFFFF) ∨ (0x10000 ≤ point ∧ point ≤ 0x10FFFF) := by omega
  rcases classes with one | two | low | high | four
  all_goals
    simp (disch := omega) only [if_pos, if_neg]
    rfl

end CodeRanges

namespace Room

theorem both_zero_plus (room : Room) : (both 0).plus room = room := by
  unfold plus both
  rw [Nat.zero_add, Nat.zero_add]

theorem plus_assoc (first second third : Room) :
    (first.plus second).plus third = first.plus (second.plus third) := by
  unfold plus
  rw [Nat.add_assoc, Nat.add_assoc]

end Room

namespace Machine

def ofChar (c : Char) : Machine := .ofPoints [(c.toNat, c.toNat)] 0

def blank : Machine := .ofPoints Shorthand.space.points 0

def digit : Machine := .ofPoints Shorthand.digit.points 0

/-- The machines that read a plus or a minus sign. -/
def sign : Machine := .ofPoints [(0x2B, 0x2B), (0x2D, 0x2D)] 0

theorem normalized_of_ordered {ranges : List (Nat × Nat)}
    (ordered : ranges.Pairwise fun left right => left.1 ≤ right.1) :
    CodeRanges.normalized ranges = CodeRanges.join ranges := by
  unfold CodeRanges.normalized
  rw [List.mergeSort_of_pairwise]
  simpa using ordered

theorem ofPoints_of_ordered {ranges : List (Nat × Nat)}
    (ordered : ranges.Pairwise fun left right => left.1 ≤ right.1)
    (nonempty : CodeRanges.join ranges ≠ []) :
    ofPoints ranges 0 =
      { room := pointsRoom (CodeRanges.join ranges), alwaysReads := true, canRead := true
        points? := some (CodeRanges.join ranges) } := by
  simp [ofPoints, normalized_of_ordered ordered, nonempty, Room.plus, Room.both]

theorem blank_eq : blank =
    { room := { ahead := 424, back := 680 }, alwaysReads := true, canRead := true
      points? := some Text.whiteSpace.ranges } := by
  rw [blank, ofPoints_of_ordered (by decide +kernel) (by decide +kernel)]
  decide +kernel

theorem digit_eq : digit =
    { room := { ahead := 1584, back := 5116 }, alwaysReads := true, canRead := true
      points? := some Text.decimalNumber.ranges } := by
  rw [digit, ofPoints_of_ordered (by decide +kernel) (by decide +kernel)]
  decide +kernel

theorem sign_eq : sign =
    { room := .both 80, alwaysReads := true, canRead := true
      points? := some [(0x2B, 0x2B), (0x2D, 0x2D)] } := by
  rw [sign, ofPoints_of_ordered (by decide) (by decide)]
  decide

theorem ofChar_eq (c : Char) : ofChar c =
    { room := .both (state * c.utf8Size), alwaysReads := true, canRead := true
      points? := some [(c.toNat, c.toNat)] } := by
  obtain ⟨bytes, spelt, length⟩ : ∃ bytes, CodeRanges.byteRanges (c.toNat, c.toNat) = [bytes] ∧
      bytes.length = c.utf8Size :=
    List.map_eq_singleton_iff.mp (CodeRanges.length_byteRanges_self c)
  have room : pointsRoom [(c.toNat, c.toNat)] = .both (state * c.utf8Size) := by
    simp [pointsRoom, spelt, CodeRanges.beginnings, CodeRanges.sharedLength, length]
  rw [ofChar, ofPoints_of_ordered (List.pairwise_singleton _ _) (List.cons_ne_nil _ _), ← room]
  rfl

/-- The room of machines that run one after the other. -/
def roomOfAll : List Machine → Room
  | [] => .both 0
  | part :: rest => part.room.plus (roomOfAll rest)

theorem roomOfAll_append (parts others : List Machine) :
    roomOfAll (parts ++ others) = (roomOfAll parts).plus (roomOfAll others) := by
  induction parts with
  | nil => exact (Room.both_zero_plus _).symm
  | cons part rest ih => rw [List.cons_append, roomOfAll, ih, roomOfAll, Room.plus_assoc]

/-- The machines of some parts, none of which is nothing, take so much room together. -/
def Weigh (parts : List Machine) (total : Room) : Prop :=
  (∀ part ∈ parts, part.isNothing = false) ∧ roomOfAll parts = total

instance (parts : List Machine) (total : Room) : Decidable (Weigh parts total) :=
  inferInstanceAs (Decidable (_ ∧ _))

theorem Weigh.append {parts others : List Machine} {total more : Room} (weigh : Weigh parts total)
    (weighToo : Weigh others more) : Weigh (parts ++ others) (total.plus more) := by
  refine ⟨List.forall_mem_append.mpr ⟨weigh.1, weighToo.1⟩, ?_⟩
  rw [roomOfAll_append, weigh.2, weighToo.2]

theorem weigh_text (text : List Char) :
    Weigh (text.map ofChar) (.both (state * byteLength text)) := by
  induction text with
  | nil => exact ⟨nofun, rfl⟩
  | cons c rest ih =>
      have first : Weigh [ofChar c] (.both (state * c.utf8Size)) := by
        rw [ofChar_eq]
        exact ⟨List.forall_mem_singleton.mpr rfl, rfl⟩
      rw [byteLength, Nat.mul_add]
      exact first.append ih

theorem foldl_room (parts : List Machine) (total : Room) :
    parts.foldl (fun total part => total.plus part.room) total = total.plus (roomOfAll parts) := by
  induction parts generalizing total with
  | nil => rfl
  | cons part rest ih => rw [List.foldl_cons, ih, roomOfAll, Room.plus_assoc]

theorem holdsEarly_eq_false {condition : Machine → Bool} {parts : List Machine}
    (never : ∀ part ∈ parts, condition part = false) : holdsEarly condition parts = false := by
  induction parts with
  | nil => rfl
  | cons part rest ih =>
      obtain ⟨here, further⟩ := List.forall_mem_cons.mp never
      rw [holdsEarly, here, ih further, Bool.and_false, Bool.or_false]

theorem sequence_fits_iff {parts : List Machine} {total : Room} (weigh : Weigh parts total)
    (several : 2 ≤ parts.length) :
    (sequence parts).Fits ↔
      total.ahead + (searchRoom (holdsEarly opensText parts) + 3 * state) ≤ limit ∧
        total.back + (searchRoom (holdsEarly closesText parts.reverse) + state) ≤ limit := by
  have all : parts.filter (fun part => !part.isNothing) = parts := by
    apply List.filter_eq_self.mpr
    intro part member
    rw [weigh.1 part member]
    rfl
  have room : parts.foldl (fun total part => total.plus part.room) (.both 0) = total := by
    rw [foldl_room, weigh.2, Room.both_zero_plus]
  rw [← room, sequence, all]
  match parts, several with
  | first :: second :: rest, _ => rfl

end Machine

end LoopLesson
