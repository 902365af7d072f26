import LoopLesson.Pattern.Meaning

/-!
Texts that stand for themselves inside a pattern.

A backslash before every character with a meaning of its own quotes a text.
-/

namespace LoopLesson
namespace Pattern

/-- The pattern that a text and nothing else matches. -/
def quoted (text : List Char) : List Char :=
  text.flatMap fun c => if isMeta c then ['\\', c] else [c]

/-- A pattern can be used if nothing is wrong with it. -/
def Compiles (pattern : List Char) : Prop := problem? pattern = none

section Quoted

variable {c : Char}

theorem quoted_cons_of_meta (special : isMeta c = true) (rest : List Char) :
    quoted (c :: rest) = '\\' :: c :: quoted rest := by
  simp [quoted, special]

theorem quoted_cons_of_plain (plain : isMeta c = false) (rest : List Char) :
    quoted (c :: rest) = c :: quoted rest := by
  simp [quoted, plain]

/-- No letter and no digit has a meaning of its own. -/
theorem isAlphanum_of_isMeta (special : isMeta c = true) : c.isAlphanum = false := by
  have listed : c ∈ "\\.+*?()|[]\x7b\x7d^$#&-~".toList := List.contains_iff_mem.mp special
  have none : "\\.+*?()|[]\x7b\x7d^$#&-~".toList.all (fun c => !c.isAlphanum) = true := by decide
  exact Bool.not_eq_true' _ ▸ List.all_eq_true.mp none c listed

/-- What follows a part does not change how it is read: it is neither the question mark of a
repetition nor a brace. -/
def Apart (rest : List Char) : Prop := rest.head? ≠ some '?' ∧ rest.head? ≠ some '\x7b'

theorem apart_cons (notPreference : c ≠ '?') (notBrace : c ≠ '\x7b') (rest : List Char) :
    Apart (c :: rest) :=
  ⟨fun same => notPreference (Option.some.inj same), fun same => notBrace (Option.some.inj same)⟩

theorem apart_quoted (text : List Char) {rest : List Char} (apart : Apart rest) :
    Apart (quoted text ++ rest) := by
  cases text with
  | nil => exact apart
  | cons c text =>
      cases special : isMeta c with
      | true =>
          rw [quoted_cons_of_meta special]
          exact apart_cons (by decide) (by decide) _
      | false =>
          rw [quoted_cons_of_plain special]
          have notMark {mark : Char} (isMark : isMeta mark = true) : c ≠ mark := by
            rintro rfl
            rw [special] at isMark
            cases isMark
          exact apart_cons (notMark (by decide)) (notMark (by decide)) _

end Quoted

end Pattern
end LoopLesson
