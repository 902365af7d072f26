import LoopLesson.Yaml.Node
import LoopLesson.Yaml.Tokens

/-!
The document that a text holds.

A text holds at most one document.  Without tokens it holds none, which counts like a document where
nothing is written.
-/

namespace LoopLesson
namespace Yaml

/-- The tokens that are left, and the anchors so far with their numbers. -/
structure NodeReader where
  tokens : List Token
  anchors : List (List Char × Nat) := []
deriving DecidableEq, Repr

namespace NodeReader

/-- Passes to the given tokens. -/
def goTo (reader : NodeReader) (tokens : List Token) : NodeReader := { reader with tokens }

/-- Whether the next token is one of the given ones. -/
def nextIsAny (reader : NodeReader) (tokens : List Token) : Bool :=
  reader.tokens.head?.any tokens.contains

/-- Gives an anchor the number of names before it.  A name that has a number gets a new one. -/
def bindAnchor (reader : NodeReader) : Option (List Char) → Option Nat × NodeReader
  | none => (none, reader)
  | some name =>
      let number := reader.anchors.length
      (some number, { reader with
        anchors := (name, number) :: reader.anchors.filter fun anchor => anchor.1 ≠ name })

end NodeReader

/-- The anchor and the tag in front of a node. -/
structure Properties where
  anchor : Option (List Char) := none
  tag : Option (List Char × List Char) := none
deriving DecidableEq, Repr

def Properties.isEmpty (properties : Properties) : Bool :=
  properties.anchor.isNone && properties.tag.isNone

/-- Takes an anchor and a tag, as far as they are there, in any order. -/
def takeProperties : List Token → Properties × List Token
  | .anchor name :: .tag handle suffix :: rest => ({ anchor := some name, tag := some (handle, suffix) }, rest)
  | .tag handle suffix :: .anchor name :: rest => ({ anchor := some name, tag := some (handle, suffix) }, rest)
  | .anchor name :: rest => ({ anchor := some name }, rest)
  | .tag handle suffix :: rest => ({ tag := some (handle, suffix) }, rest)
  | tokens => ({}, tokens)

/-- The handles of tags, with what they stand for. -/
abbrev TagHandles := List (List Char × List Char)

/-- The whole tag, whose handle has to be known. -/
def Properties.tag? (handles : TagHandles) (properties : Properties) : Option (Option (List Char)) :=
  match properties.tag with
  | none => some none
  | some ([], suffix) => some (some suffix)
  | some (handle, suffix) => (handles.lookup handle).map fun stem => some (stem ++ suffix)

/-- The tag of a scalar; a single exclamation mark says nothing. -/
def scalarTag (tag : Option (List Char)) : Option (List Char) := if tag = some ['!'] then none else tag

mutual

/-- Reads a node.  Block collections are read only where they are allowed, and a sequence that is
not indented only where that is allowed. -/
def node? (handles : TagHandles) : Nat → Bool → Bool → NodeReader → Option (Yaml × NodeReader)
  | 0, _, _, _ => none
  | fuel + 1, inBlock, unindented, reader =>
      match reader.tokens with
      | .alias name :: rest => (reader.anchors.lookup name).map fun number => (.alias number, reader.goTo rest)
      | _ =>
          let (properties, tokens) := takeProperties reader.tokens
          (properties.tag? handles).bind fun tag =>
            let (anchor, reader) := (reader.goTo tokens).bindAnchor properties.anchor
            let noContent := if properties.isEmpty then none else some (Yaml.scalar anchor tag .plain "", reader)
            match reader.tokens with
            | .scalar style text :: rest =>
                some (.scalar anchor (scalarTag tag) style (String.ofList text), reader.goTo rest)
            | .flowSequenceStart :: rest =>
                (flowItems? handles fuel true (reader.goTo rest)).map fun (items, reader) =>
                  (.sequence anchor items, reader)
            | .flowMappingStart :: rest =>
                (flowEntries? handles fuel true (reader.goTo rest)).map fun (entries, reader) =>
                  (.mapping anchor entries, reader)
            | .blockEntry :: _ =>
                if unindented then
                  (unindentedItems? handles fuel reader).map fun (items, reader) =>
                    (.sequence anchor items, reader)
                else noContent
            | .blockSequenceStart :: rest =>
                if inBlock then
                  (blockItems? handles fuel (reader.goTo rest)).map fun (items, reader) =>
                    (.sequence anchor items, reader)
                else noContent
            | .blockMappingStart :: rest =>
                if inBlock then
                  (blockEntries? handles fuel (reader.goTo rest)).map fun (entries, reader) =>
                    (.mapping anchor entries, reader)
                else noContent
            | _ => noContent

/-- Reads a node, unless one of the given tokens shows that there is none. -/
def nodeUnless? (handles : TagHandles) : Nat → List Token → Bool → Bool → NodeReader →
    Option (Yaml × NodeReader)
  | 0, _, _, _, _ => none
  | fuel + 1, stops, inBlock, unindented, reader =>
      if reader.nextIsAny stops then some (absent, reader)
      else node? handles fuel inBlock unindented reader

/-- Reads the value of an entry, which is absent where no mark announces one. -/
def value? (handles : TagHandles) : Nat → List Token → Bool → NodeReader → Option (Yaml × NodeReader)
  | 0, _, _, _ => none
  | fuel + 1, stops, inBlock, reader =>
      match reader.tokens with
      | .value :: rest => nodeUnless? handles fuel stops inBlock inBlock (reader.goTo rest)
      | _ => some (absent, reader)

/-- Reads the items of an indented sequence up to its end. -/
def blockItems? (handles : TagHandles) : Nat → NodeReader → Option (List Yaml × NodeReader)
  | 0, _ => none
  | fuel + 1, reader =>
      match reader.tokens with
      | .blockEntry :: rest =>
          (nodeUnless? handles fuel [.blockEntry, .blockEnd] true false (reader.goTo rest)).bind
            fun (item, reader) =>
              (blockItems? handles fuel reader).map fun (items, reader) => (item :: items, reader)
      | .blockEnd :: rest => some ([], reader.goTo rest)
      | _ => none

/-- Reads the items of a sequence that is not indented, which ends where there is no further one. -/
def unindentedItems? (handles : TagHandles) : Nat → NodeReader → Option (List Yaml × NodeReader)
  | 0, _ => none
  | fuel + 1, reader =>
      match reader.tokens with
      | .blockEntry :: rest =>
          (nodeUnless? handles fuel [.blockEntry, .key, .value, .blockEnd] true false
            (reader.goTo rest)).bind fun (item, reader) =>
              (unindentedItems? handles fuel reader).map fun (items, reader) => (item :: items, reader)
      | _ => some ([], reader)

/-- Reads the entries of a block mapping up to its end. -/
def blockEntries? (handles : TagHandles) : Nat → NodeReader → Option (List (Yaml × Yaml) × NodeReader)
  | 0, _ => none
  | fuel + 1, reader =>
      match reader.tokens with
      | .key :: rest =>
          (nodeUnless? handles fuel [.key, .value, .blockEnd] true true (reader.goTo rest)).bind
            fun (key, reader) =>
              (value? handles fuel [.key, .value, .blockEnd] true reader).bind fun (value, reader) =>
                (blockEntries? handles fuel reader).map fun (entries, reader) =>
                  ((key, value) :: entries, reader)
      | .blockEnd :: rest => some ([], reader.goTo rest)
      | _ => none

/-- Reads the items of a flow sequence up to its end.  All but the first follow a comma, and one that
has the mark of a key is a mapping of a single entry. -/
def flowItems? (handles : TagHandles) : Nat → Bool → NodeReader → Option (List Yaml × NodeReader)
  | 0, _, _ => none
  | fuel + 1, first, reader =>
      match reader.tokens with
      | .flowSequenceEnd :: rest => some ([], reader.goTo rest)
      | _ =>
          (if first then some reader
            else if reader.nextIsAny [.flowEntry] then some (reader.goTo (reader.tokens.drop 1))
            else none).bind fun reader =>
              match reader.tokens with
              | .flowSequenceEnd :: rest => some ([], reader.goTo rest)
              | .key :: rest =>
                  (flowPair? handles fuel (reader.goTo rest)).bind fun (pair, reader) =>
                    (flowItems? handles fuel false reader).map fun (items, reader) =>
                      (.mapping none [pair] :: items, reader)
              | _ =>
                  (node? handles fuel false false reader).bind fun (item, reader) =>
                    (flowItems? handles fuel false reader).map fun (items, reader) =>
                      (item :: items, reader)

/-- Reads an entry of a flow sequence after the mark of its key.  Where the key is absent, the token
that shows it is passed over. -/
def flowPair? (handles : TagHandles) : Nat → NodeReader → Option ((Yaml × Yaml) × NodeReader)
  | 0, _ => none
  | fuel + 1, reader =>
      (if reader.nextIsAny [.value, .flowEntry, .flowSequenceEnd] then
          some (absent, reader.goTo (reader.tokens.drop 1))
        else node? handles fuel false false reader).bind fun (key, reader) =>
          (value? handles fuel [.flowEntry, .flowSequenceEnd] false reader).map fun (value, reader) =>
            ((key, value), reader)

/-- Reads the entries of a flow mapping up to its end.  All but the first follow a comma, and one
that has no mark of a key has no value. -/
def flowEntries? (handles : TagHandles) : Nat → Bool → NodeReader →
    Option (List (Yaml × Yaml) × NodeReader)
  | 0, _, _ => none
  | fuel + 1, first, reader =>
      match reader.tokens with
      | .flowMappingEnd :: rest => some ([], reader.goTo rest)
      | _ =>
          (if first then some reader
            else if reader.nextIsAny [.flowEntry] then some (reader.goTo (reader.tokens.drop 1))
            else none).bind fun reader =>
              match reader.tokens with
              | .flowMappingEnd :: rest => some ([], reader.goTo rest)
              | .key :: rest =>
                  (nodeUnless? handles fuel [.value, .flowEntry, .flowMappingEnd] false false
                    (reader.goTo rest)).bind fun (key, reader) =>
                      (value? handles fuel [.flowEntry, .flowMappingEnd] false reader).bind
                        fun (value, reader) =>
                          (flowEntries? handles fuel false reader).map fun (entries, reader) =>
                            ((key, value) :: entries, reader)
              | _ =>
                  (node? handles fuel false false reader).bind fun (key, reader) =>
                    (flowEntries? handles fuel false reader).map fun (entries, reader) =>
                      ((key, absent) :: entries, reader)

end

/-- The handles that every document knows unless it says otherwise. -/
def defaultHandles : TagHandles := [(['!'], ['!']), (['!', '!'], standardTag "")]

/-- What the directives of a document say. -/
structure Directives where
  versioned : Bool := false
  handles : TagHandles := []
deriving DecidableEq, Repr

/-- Reads the directives in front of a document.  There is at most one version, 1.1 or 1.2, and one
meaning for a handle. -/
def directives? (directives : Directives) : List Token → Option (TagHandles × List Token)
  | .versionDirective major minor :: rest =>
      if directives.versioned ∨ major ≠ 1 ∨ (minor ≠ 1 ∧ minor ≠ 2) then none
      else directives? { directives with versioned := true } rest
  | .tagDirective handle stem :: rest =>
      if directives.handles.any fun known => known.1 = handle then none
      else directives? { directives with handles := (handle, stem) :: directives.handles } rest
  | tokens => some (directives.handles ++ defaultHandles, tokens)

def Token.isDirective : Token → Bool
  | .versionDirective _ _ => true
  | .tagDirective _ _ => true
  | _ => false

/-- Whether a token belongs to no node. -/
def Token.isOutside (token : Token) : Bool :=
  token.isDirective || token = .documentStart || token = .documentEnd

/-- Reads the root of a document.  Each level of a node takes at least one token of its own. -/
def root? (handles : TagHandles) (tokens : List Token) : Option (Yaml × List Token) :=
  (node? handles (4 * tokens.length + 4) true false { tokens }).map fun (root, reader) =>
    (root, reader.tokens)

/-- Reads a document; it may only do without its opening marker if it has no directives. -/
def document? (tokens : List Token) : Option (Yaml × List Token) :=
  if tokens.head?.any fun token => token.isDirective || token = .documentStart then
    (directives? {} tokens).bind fun (handles, rest) =>
      match rest with
      | .documentStart :: rest =>
          if rest.head?.all Token.isOutside then some (absent, rest) else root? handles rest
      | _ => none
  else
    root? defaultHandles tokens

/-- The document that a text holds. -/
def read? (text : String) : Option Yaml :=
  if text.toList.all isAllowed then
    (tokens? (unifyBreaks text.toList)).bind fun tokens =>
      if tokens = [] then some absent
      else
        (document? tokens).bind fun (root, rest) =>
          if rest.all (· = .documentEnd) then some root else none
  else
    none

end Yaml
end LoopLesson
