import LoopLesson.Yaml.Property
import LoopLesson.Yaml.Scalar

/-!
The tokens of a text.

A block collection reaches as far as its indentation, so its end is a token that no character spells.
Whether a scalar, or anything else that may be a key, is one shows only at the colon after it.  A
reader therefore remembers, for the block context and for every open flow collection, where a key
may have begun; a key begins and ends on one line and has at most 1024 characters.
-/

namespace LoopLesson
namespace Yaml

/-- A place where a key may have begun. -/
structure PossibleKey where
  /-- Whether nothing but a key can stand there. -/
  required : Bool
  /-- The number of tokens before it. -/
  tokenNumber : Nat
  line : Nat
  column : Nat
deriving DecidableEq, Repr

/-- The greatest number of characters of a key. -/
def keyLimit : Nat := 1024

/-- Whether a key that began here would be too long, or on an earlier line. -/
def PossibleKey.isStale (key : PossibleKey) (cursor : Cursor) : Bool :=
  key.line < cursor.line || key.column + keyLimit < cursor.column

/-- Forgets a key that is stale; one that was required is missed. -/
def freshKey? (cursor : Cursor) : Option PossibleKey → Option (Option PossibleKey)
  | none => some none
  | some key =>
      if key.isStale cursor then (if key.required then none else some none) else some (some key)

/-- A reader of tokens. -/
structure TokenReader where
  cursor : Cursor
  /-- The tokens so far, latest first. -/
  tokens : List Token := []
  /-- Whether a key may begin at the next token. -/
  keyAllowed : Bool := true
  /-- The possible key of the innermost flow collection, or of the block context. -/
  key : Option PossibleKey := none
  /-- The possible keys of the block context and the flow collections further out. -/
  outerKeys : List (Option PossibleKey) := []
  /-- The columns of the open block collections, innermost first. -/
  levels : List Nat := []
deriving DecidableEq, Repr

namespace TokenReader

def inFlow (reader : TokenReader) : Bool := reader.outerKeys ≠ []

/-- The least indentation of what belongs to the innermost block collection. -/
def least (reader : TokenReader) : Nat :=
  match reader.levels with
  | [] => 0
  | column :: _ => column + 1

def emit (reader : TokenReader) (token : Token) : TokenReader :=
  { reader with tokens := token :: reader.tokens }

/-- Puts a token after so many others. -/
def insert (reader : TokenReader) (number : Nat) (token : Token) : TokenReader :=
  let later := reader.tokens.length - number
  { reader with tokens := reader.tokens.take later ++ token :: reader.tokens.drop later }

/-- Emits a token that so many characters spell. -/
def spell (reader : TokenReader) (token : Token) (length : Nat) : TokenReader :=
  { reader.emit token with cursor := reader.cursor.skip length }

/-- Gives up the possible key, which must not be required. -/
def dropKey? (reader : TokenReader) : Option TokenReader :=
  if reader.key.any PossibleKey.required then none else some { reader with key := none }

/-- Remembers that a key may begin here, if one is allowed. -/
def saveKey? (reader : TokenReader) : Option TokenReader :=
  if reader.keyAllowed then
    reader.dropKey?.map fun reader =>
      { reader with key := some {
          required := !reader.inFlow && reader.levels.head? = some reader.cursor.column
          tokenNumber := reader.tokens.length
          line := reader.cursor.line
          column := reader.cursor.column } }
  else
    some reader

/-- Forgets all keys that have become stale. -/
def dropStaleKeys? (reader : TokenReader) : Option TokenReader := do
  let key ← freshKey? reader.cursor reader.key
  let outerKeys ← reader.outerKeys.mapM (freshKey? reader.cursor)
  return { reader with key, outerKeys }

/-- Closes the block collections that are indented deeper than a column. -/
def closeLevels (reader : TokenReader) (column : Nat) : TokenReader :=
  if reader.inFlow then reader
  else
    { reader with
      tokens := (reader.levels.takeWhile (column < ·)).map (fun _ => Token.blockEnd) ++ reader.tokens
      levels := reader.levels.dropWhile (column < ·) }

/-- Closes all block collections. -/
def closeAllLevels (reader : TokenReader) : TokenReader :=
  if reader.inFlow then reader
  else
    { reader with
      tokens := reader.levels.map (fun _ => Token.blockEnd) ++ reader.tokens
      levels := [] }

/-- Opens a block collection at a column, unless it is open already. -/
def openLevel (reader : TokenReader) (column number : Nat) (token : Token) : TokenReader :=
  if reader.inFlow ∨ !(reader.levels.head?.all (· < column)) then reader
  else { reader.insert number token with levels := column :: reader.levels }

/-- Opens a block collection here, where a new entry of one has to be allowed. -/
def openLevelHere? (reader : TokenReader) (token : Token) : Option TokenReader :=
  if reader.inFlow then some reader
  else if reader.keyAllowed then
    some (reader.openLevel reader.cursor.column reader.tokens.length token)
  else
    none

/-- Passes over spaces, breaks, comments and a byte order mark that begins a line.  Tabs are passed
over only where no key may begin.  The answer is whether a key is allowed then, and the place. -/
def skipToToken (inFlow : Bool) (keyAllowed inComment : Bool) (line column : Nat) :
    List Char → Bool × Cursor
  | [] => (keyAllowed, { text := [], line, column })
  | c :: rest =>
      if isBreak c then
        skipToToken inFlow (keyAllowed || !inFlow) false (line + 1) 0 rest
      else if inComment ∨ c = ' ' ∨ (c = '\t' ∧ (inFlow ∨ !keyAllowed)) ∨
          (c = byteOrderMark ∧ column = 0) then
        skipToToken inFlow keyAllowed inComment line (column + 1) rest
      else if c = '#' then
        skipToToken inFlow keyAllowed true line (column + 1) rest
      else
        (keyAllowed, { text := c :: rest, line, column })

/-- Goes to the next token, where block collections may end. -/
def approach? (reader : TokenReader) : Option TokenReader :=
  let (keyAllowed, cursor) := skipToToken reader.inFlow reader.keyAllowed false reader.cursor.line
    reader.cursor.column reader.cursor.text
  ({ reader with keyAllowed, cursor } : TokenReader).dropStaleKeys?.map fun reader =>
    reader.closeLevels reader.cursor.column

/-- Ends everything that belongs to the document so far. -/
def leaveDocument? (reader : TokenReader) : Option TokenReader :=
  reader.closeAllLevels.dropKey?.map fun reader => { reader with keyAllowed := false }

def directive? (reader : TokenReader) : Option TokenReader :=
  reader.leaveDocument?.bind fun reader =>
    (Yaml.directive? (reader.cursor.text.drop 1)).bind fun (token, rest) =>
      (reader.cursor.moveTo rest).finishLine?.map fun cursor => { reader.emit token with cursor }

def documentMarker? (reader : TokenReader) (token : Token) : Option TokenReader :=
  reader.leaveDocument?.map fun reader => reader.spell token 3

/-- Opens a flow collection, which may be a key itself. -/
def openFlow? (reader : TokenReader) (token : Token) : Option TokenReader :=
  reader.saveKey?.map fun reader =>
    { reader.spell token 1 with
      key := none
      outerKeys := reader.key :: reader.outerKeys
      keyAllowed := true }

def closeFlow? (reader : TokenReader) (token : Token) : Option TokenReader :=
  reader.dropKey?.map fun reader =>
    let closed := { reader.spell token 1 with keyAllowed := false }
    match reader.outerKeys with
    | [] => closed
    | key :: outerKeys => { closed with key, outerKeys }

def flowEntry? (reader : TokenReader) : Option TokenReader :=
  reader.dropKey?.map fun reader => { reader.spell .flowEntry 1 with keyAllowed := true }

def blockEntry? (reader : TokenReader) : Option TokenReader :=
  (reader.openLevelHere? .blockSequenceStart).bind fun reader =>
    reader.dropKey?.map fun reader => { reader.spell .blockEntry 1 with keyAllowed := true }

/-- Reads the mark of a key of any form. -/
def keyMark? (reader : TokenReader) : Option TokenReader :=
  (reader.openLevelHere? .blockMappingStart).bind fun reader =>
    reader.dropKey?.map fun reader => { reader.spell .key 1 with keyAllowed := !reader.inFlow }

/-- Reads the mark between a key and its value.  What may have been a key before it is one. -/
def valueMark? (reader : TokenReader) : Option TokenReader :=
  match reader.key with
  | some key =>
      let marked := (reader.insert key.tokenNumber .key).openLevel key.column key.tokenNumber
        .blockMappingStart
      some { marked.spell .value 1 with key := none, keyAllowed := false }
  | none =>
      (reader.openLevelHere? .blockMappingStart).map fun reader =>
        { reader.spell .value 1 with keyAllowed := !reader.inFlow }

/-- Emits a token that may be a key or a part of one, or begin one. -/
def withKey? (reader : TokenReader) (read : TokenReader → Option (Token × Cursor)) :
    Option TokenReader :=
  reader.saveKey?.bind fun reader =>
    (read reader).map fun (token, cursor) => { reader.emit token with cursor, keyAllowed := false }

def anchor? (reader : TokenReader) (token : List Char → Token) : Option TokenReader :=
  reader.withKey? fun reader =>
    (anchorName? (reader.cursor.text.drop 1)).map fun (name, rest) =>
      (token name, reader.cursor.moveTo rest)

def tag? (reader : TokenReader) : Option TokenReader :=
  reader.withKey? fun reader =>
    (Yaml.tag? reader.cursor.text).bind fun ((handle, suffix), rest) =>
      if endsToken rest ∨ (reader.inFlow ∧ beginsWith ',' rest) then
        some (.tag handle suffix, reader.cursor.moveTo rest)
      else
        none

def quotedScalar? (reader : TokenReader) (style : ScalarStyle) (quote : Char) : Option TokenReader :=
  reader.withKey? fun reader =>
    (quoted? quote reader.cursor).map fun (text, cursor) => (.scalar style text, cursor)

def blockScalar? (reader : TokenReader) (style : ScalarStyle) : Option TokenReader :=
  reader.dropKey?.bind fun reader =>
    (block? (style = .folded) reader.least reader.cursor).map fun (text, cursor) =>
      { reader.emit (.scalar style text) with cursor, keyAllowed := true }

/-- Reads a plain scalar.  A key may begin after it if the place is on a later line then. -/
def plainScalar? (reader : TokenReader) : Option TokenReader :=
  reader.saveKey?.bind fun reader =>
    (plain? reader.inFlow reader.least reader.cursor).map fun scalar =>
      { reader.emit (.scalar .plain scalar.text) with
        cursor := scalar.after, keyAllowed := scalar.crossesLine }

/-- Reads the token that begins with a character, given the text after it. -/
def token? (reader : TokenReader) (c : Char) (rest : List Char) : Option TokenReader :=
  let lineStart := reader.cursor.column = 0
  if lineStart ∧ c = '%' then reader.directive?
  else if lineStart ∧ isDocumentStart (c :: rest) then reader.documentMarker? .documentStart
  else if lineStart ∧ isDocumentEnd (c :: rest) then reader.documentMarker? .documentEnd
  else if c = '[' then reader.openFlow? .flowSequenceStart
  else if c = '\x7b' then reader.openFlow? .flowMappingStart
  else if c = ']' then reader.closeFlow? .flowSequenceEnd
  else if c = '\x7d' then reader.closeFlow? .flowMappingEnd
  else if c = ',' then reader.flowEntry?
  else if c = '-' ∧ endsToken rest then reader.blockEntry?
  else if c = '?' ∧ (reader.inFlow ∨ endsToken rest) then reader.keyMark?
  else if c = ':' ∧ (reader.inFlow ∨ endsToken rest) then reader.valueMark?
  else if c = '*' then reader.anchor? .alias
  else if c = '&' then reader.anchor? .anchor
  else if c = '!' then reader.tag?
  else if c = '|' ∧ !reader.inFlow then reader.blockScalar? .literal
  else if c = '>' ∧ !reader.inFlow then reader.blockScalar? .folded
  else if c = '\x27' then reader.quotedScalar? .singleQuoted '\x27'
  else if c = '\x22' then reader.quotedScalar? .doubleQuoted '\x22'
  else if opensPlain reader.inFlow c rest then reader.plainScalar?
  else none

/-- Reads so many tokens, or all of them up to the end of the text. -/
def readAll? : Nat → TokenReader → Option (List Token)
  | 0, _ => none
  | count + 1, reader =>
      reader.approach?.bind fun reader =>
        match reader.cursor.text with
        | [] => reader.leaveDocument?.map fun reader => reader.tokens.reverse
        | c :: rest => (reader.token? c rest).bind (readAll? count)

end TokenReader

/-- The tokens of a text with unified breaks.  Every token that is read has a character of its
own. -/
def tokens? (text : List Char) : Option (List Token) :=
  TokenReader.readAll? (text.length + 1) { cursor := { text } }

end Yaml
end LoopLesson
