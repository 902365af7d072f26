import LoopLesson.Number.Integer

/-!
JSON values and their text, one element to a line and two spaces to a level.
-/

namespace LoopLesson

/-- A JSON value.  The number `number m e` is `m · 10 ^ (-e)`. -/
inductive Json where
  | null
  | boolean (value : Bool)
  | number (mantissa : Int) (exponent : Nat)
  | text (value : String)
  | list (items : List Json)
  | object (fields : List (String × Json))
deriving Repr, Inhabited

namespace Json

def text? : Json → Option String
  | .text value => some value
  | _ => none

/-- Reads a list of texts. -/
def texts? : Json → Option (List String)
  | .list items => items.mapM text?
  | _ => none

/-- A text or `null` for none. -/
def ofOption : Option String → Json
  | none => .null
  | some value => .text value

/-- Reads a text, or none from `null`. -/
def optionalText? : Json → Option (Option String)
  | .null => some none
  | .text value => some (some value)
  | _ => none

def hexDigit (n : Nat) : Char := if n < 10 then Char.ofNat (48 + n) else Char.ofNat (87 + n)

/-- A character inside a quoted text.  Quotation marks, backslashes and control characters are
escaped. -/
def escapeChar (c : Char) : List Char :=
  if c = '\x22' then ['\\', '\x22']
  else if c = '\\' then ['\\', '\\']
  else if c = '\x08' then ['\\', 'b']
  else if c = '\x0c' then ['\\', 'f']
  else if c = '\n' then ['\\', 'n']
  else if c = '\r' then ['\\', 'r']
  else if c = '\t' then ['\\', 't']
  else if c.toNat < 32 then ['\\', 'u', '0', '0', hexDigit (c.toNat / 16), hexDigit (c.toNat % 16)]
  else [c]

/-- A text between quotation marks. -/
def quote (value : String) : String :=
  "\"" ++ String.ofList (value.toList.flatMap escapeChar) ++ "\""

/-- A number without an exponent. -/
def numberText (mantissa : Int) (exponent : Nat) : String :=
  if exponent = 0 then Number.integerText mantissa
  else
    let digits := Nat.toDigits 10 mantissa.natAbs
    let filled := List.replicate (exponent + 1 - digits.length) '0' ++ digits
    (if mantissa < 0 then "-" else "") ++ String.ofList (filled.take (filled.length - exponent)) ++ "." ++
      String.ofList (filled.drop (filled.length - exponent))

def indent (level : Nat) : String := String.ofList (List.replicate (2 * level) ' ')

/-- The lines of a list or an object between its brackets. -/
def bracket (opening closing : String) (level : Nat) (lines : List String) : String :=
  if lines = [] then opening ++ closing
  else
    opening ++ "\n" ++ ",\n".intercalate (lines.map fun line => indent (level + 1) ++ line) ++ "\n" ++
      indent level ++ closing

mutual

/-- The text of a value that stands at a level of indentation. -/
def pretty (level : Nat) : Json → String
  | .null => "null"
  | .boolean value => if value then "true" else "false"
  | .number mantissa exponent => numberText mantissa exponent
  | .text value => quote value
  | .list items => bracket "[" "]" level (prettyItems (level + 1) items)
  | .object fields => bracket "\x7b" "\x7d" level (prettyFields (level + 1) fields)

def prettyItems (level : Nat) : List Json → List String
  | [] => []
  | item :: rest => pretty level item :: prettyItems level rest

def prettyFields (level : Nat) : List (String × Json) → List String
  | [] => []
  | (name, value) :: rest => (quote name ++ ": " ++ pretty level value) :: prettyFields level rest

end

end Json

end LoopLesson
