import LoopLesson.Pattern.PropertyValue
import LoopLesson.Pattern.Tree

/-!
Finding properties of characters by their names.

Names are compared loosely: capital letters, spaces, hyphens and underscores do not matter, and
neither does an `is` in front.
-/

namespace LoopLesson

/-- What matters of a name.  The letter `c` keeps an `is` in front, since alone it names a category. -/
def looseName (name : List Char) : List Char :=
  let hasIs := (name.take 2).map Char.toLower = ['i', 's']
  let rest := if hasIs then name.drop 2 else name
  let kept := rest.filter fun c => c ≠ ' ' && c ≠ '_' && c ≠ '-' && c.toNat < 0x80
  let lowered := kept.map Char.toLower
  if hasIs ∧ lowered = ['c'] then ['i', 's', 'c'] else lowered

namespace PropertyQuery

/-- The value with a name, compared loosely. -/
def find? (values : List PropertyValue) (name : List Char) : Option PropertyValue :=
  values.find? fun value => value.names.any fun known => looseName known.toList = looseName name

/-- The properties whose values a pattern may ask for. -/
def valuedProperties : List (List String × List PropertyValue) := [
  (["gc", "General_Category"], PropertyValue.generalCategories),
  (["sc", "Script"], PropertyValue.scripts),
  (["scx", "Script_Extensions"], PropertyValue.scripts),
  (["age"], PropertyValue.ages),
  (["GCB", "Grapheme_Cluster_Break"], PropertyValue.graphemeBreaks),
  (["WB", "Word_Break"], PropertyValue.wordBreaks),
  (["SB", "Sentence_Break"], PropertyValue.sentenceBreaks)]

/-- The values of a property with a name, compared loosely. -/
def valuesOf? (name : List Char) : Option (List PropertyValue) :=
  (valuedProperties.find? fun property =>
    property.1.any fun known => looseName known.toList = looseName name).map Prod.snd

/-- Whether a name is that of a property without values to ask for. -/
def isFurther (name : List Char) : Bool :=
  PropertyValue.furtherProperties.any fun known => looseName known.toList = looseName name

/-- The weight of a value that some characters have. -/
def weightOf : Option PropertyValue → Except PatternCause Nat
  | some { weight := some weight, .. } => .ok weight
  | _ => .error .propertyValueUnknown

/-- The short names of general categories that are also those of properties. -/
def sharedNames : List (List Char) := [['c', 'f'], ['s', 'c'], ['l', 'c']]

/-- The weight of a property that a character has or has not, of a general category, or of a
script. -/
def namedWeight (name : List Char) : Except PatternCause Nat :=
  let isProperty := (valuesOf? name).isSome || isFurther name
  match find? PropertyValue.binaryProperties name with
  | some value => weightOf (some value)
  | none =>
      if isProperty ∧ looseName name ∉ sharedNames then .error .propertyUnknown
      else
        match find? PropertyValue.generalCategories name, find? PropertyValue.scripts name with
        | some value, _ => weightOf (some value)
        | none, some value => weightOf (some value)
        | none, none => .error .propertyUnknown

/-- The weight of what a question asks for. -/
def weight : PropertyQuery → Except PatternCause Nat
  | .named name => namedWeight name
  | .valued name value =>
      match valuesOf? name with
      | some values => weightOf (find? values value)
      | none =>
          if isFurther name ∨ (find? PropertyValue.binaryProperties name).isSome then
            .error .propertyValueUnknown
          else
            .error .propertyUnknown

end PropertyQuery

end LoopLesson
