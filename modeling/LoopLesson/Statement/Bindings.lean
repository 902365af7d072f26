/-!
Bindings of names to the texts that stand for their values.

The entries are kept in ascending order of the names, so that a name is bound at most once and every
walk over the bindings meets the names in the same order.
-/

namespace LoopLesson
namespace Bindings

/-- Every name comes before all later ones. -/
def Ordered (entries : List (String × String)) : Prop :=
  entries.Pairwise fun earlier later => earlier.1 < later.1

/-- Puts an entry in its place; an entry of the same name gives way to it. -/
def place (name value : String) : List (String × String) → List (String × String)
  | [] => [(name, value)]
  | (other, old) :: rest =>
      if name = other then (name, value) :: rest
      else if name < other then (name, value) :: (other, old) :: rest
      else (other, old) :: place name value rest

/-- Placing an entry brings in no other new entry. -/
theorem mem_place {name value : String} {entries : List (String × String)}
    {entry : String × String} (member : entry ∈ place name value entries) :
    entry = (name, value) ∨ entry ∈ entries := by
  induction entries with
  | nil => simpa [place] using member
  | cons first rest ih =>
      obtain ⟨other, old⟩ := first
      simp only [place] at member
      split at member
      · rcases List.mem_cons.mp member with same | later
        · exact .inl same
        · exact .inr (List.mem_cons_of_mem _ later)
      · split at member
        · exact List.mem_cons.mp member
        · rcases List.mem_cons.mp member with same | later
          · exact .inr (List.mem_cons.mpr (.inl same))
          · rcases ih later with same | older
            · exact .inl same
            · exact .inr (List.mem_cons_of_mem _ older)

private theorem name_lt_of_not_lt {name other : String} (different : name ≠ other)
    (notBefore : ¬name < other) : other < name :=
  Decidable.byContradiction fun notAfter =>
    different (String.le_antisymm (String.not_lt.mp notAfter) (String.not_lt.mp notBefore))

/-- Placing an entry keeps the order. -/
theorem Ordered.place (name value : String) {entries : List (String × String)}
    (ordered : Ordered entries) : Ordered (place name value entries) := by
  induction entries with
  | nil => simp [Bindings.place, Ordered]
  | cons first rest ih =>
      obtain ⟨other, old⟩ := first
      obtain ⟨before, later⟩ := List.pairwise_cons.mp ordered
      simp only [Bindings.place]
      split
      next same =>
        subst same
        exact List.pairwise_cons.mpr ⟨before, later⟩
      next different =>
        split
        next smaller =>
          refine List.pairwise_cons.mpr ⟨?_, ordered⟩
          intro entry member
          rcases List.mem_cons.mp member with same | older
          · subst same
            exact smaller
          · exact String.lt_trans smaller (before entry older)
        next notSmaller =>
          refine List.pairwise_cons.mpr ⟨?_, ih later⟩
          intro entry member
          rcases mem_place member with same | older
          · subst same
            exact name_lt_of_not_lt different notSmaller
          · exact before entry older

end Bindings

/-- Names with their values, in ascending order of the names. -/
structure Bindings where
  entries : List (String × String)
  ordered : Bindings.Ordered entries

namespace Bindings

def empty : Bindings := ⟨[], .nil⟩

def insert (bindings : Bindings) (name value : String) : Bindings :=
  ⟨place name value bindings.entries, bindings.ordered.place name value⟩

/-- Binds every name of a list; the last entry of a name counts. -/
def ofList (entries : List (String × String)) : Bindings :=
  entries.foldl (fun bindings entry => bindings.insert entry.1 entry.2) empty

def get? (bindings : Bindings) (name : String) : Option String := bindings.entries.lookup name

theorem lookup_place_self (name value : String) (entries : List (String × String)) :
    (place name value entries).lookup name = some value := by
  induction entries with
  | nil => simp [place]
  | cons entry rest ih =>
      obtain ⟨other, old⟩ := entry
      by_cases same : name = other
      · simp [place, same]
      · by_cases before : name < other
        · simp [place, same, before]
        · have different : (name == other) = false := by simp [same]
          simp [place, same, before, List.lookup_cons, different, ih]

theorem lookup_place_of_ne {name other : String} (different : other ≠ name) (value : String)
    (entries : List (String × String)) :
    (place name value entries).lookup other = entries.lookup other := by
  have unequal : (other == name) = false := by simp [different]
  induction entries with
  | nil => simp [place, List.lookup_cons, unequal]
  | cons entry rest ih =>
      obtain ⟨first, old⟩ := entry
      by_cases same : name = first
      · subst same
        simp [place, List.lookup_cons, unequal]
      · by_cases before : name < first
        · simp [place, same, before, List.lookup_cons, unequal]
        · simp [place, same, before, List.lookup_cons, ih]

/-- A name is bound to the value it was given last. -/
@[simp] theorem get?_insert_self (bindings : Bindings) (name value : String) :
    (bindings.insert name value).get? name = some value :=
  lookup_place_self name value bindings.entries

theorem get?_insert_of_ne (bindings : Bindings) {name other : String} (different : other ≠ name)
    (value : String) : (bindings.insert name value).get? other = bindings.get? other :=
  lookup_place_of_ne different value bindings.entries

end Bindings

end LoopLesson
