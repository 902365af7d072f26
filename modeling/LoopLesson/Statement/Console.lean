import LoopLesson.Number.Display
import LoopLesson.Statement.Arguments
import LoopLesson.Statement.Substitution
import LoopLesson.Text.DecimalDigit
import LoopLesson.Text.Identifier

/-!
What a logging statement prints once its names are bound.

Of the arguments of a call, quoted texts, numerals, bound names and a bound name plus or minus a
number are evaluated; in anything else the bound names are replaced word by word.
-/

namespace LoopLesson

open Text

/-- The line of a body that has no text. -/
def noConsoleOutput : String := "(no console output)"

def isCalleePart (c : Char) : Bool := isIdentifierPart c || c = '.'

/-- Splits a text around the last occurrence of a character. -/
def splitAtLast? (mark : Char) (text : List Char) : Option (List Char × List Char) :=
  match text.reverse.dropWhile (· ≠ mark) with
  | [] => none
  | _ :: front => some (front.reverse, (text.reverse.takeWhile (· ≠ mark)).reverse)

/-- The text between the parentheses of a call, which a semicolon may close. -/
def callArguments? : List Char → Option (List Char)
  | [] => none
  | c :: rest =>
      if isIdentifierStart c then
        (after? "(" (skipBlanks (rest.dropWhile isCalleePart))).bind fun inside =>
          (splitAtLast? ')' inside).bind fun (arguments, closing) =>
            if skipBlanks closing = [] ∨ skipBlanks closing = [';'] then some arguments else none
      else
        none

/-- The inside of a text that opens and closes with the given quotation mark. -/
def quoted? (quote : Char) : List Char → Option (List Char)
  | [] => none
  | c :: rest => if c = quote ∧ rest.getLast? = some quote then some rest.dropLast else none

/-- Digits of any script, with a point among them or without one. -/
def isUnsignedNumeral (text : List Char) : Bool :=
  text.takeWhile isDecimalDigit ≠ [] &&
    match text.dropWhile isDecimalDigit with
    | [] => true
    | c :: fraction => c = '.' && fraction ≠ [] && fraction.all isDecimalDigit

def isNumeral : List Char → Bool
  | [] => false
  | c :: rest => if c = '-' then isUnsignedNumeral rest else isUnsignedNumeral (c :: rest)

/-- A name and a number to add to its value or to take away from it. -/
structure Offset where
  name : String
  subtracted : Bool
  operand : List Char

namespace Offset

/-- Reads `name + number` or `name - number`. -/
def read? (text : List Char) : Option Offset :=
  (identifier? text).bind fun (name, rest) =>
    match skipBlanks rest with
    | [] => none
    | sign :: rest =>
        let operand := skipBlanks rest
        if (sign = '+' ∨ sign = '-') ∧ isUnsignedNumeral operand then
          some { name := String.ofList name, subtracted := sign = '-', operand }
        else
          none

/-- The result, if the name is bound to a finite number and the operand is one. -/
def evaluate? (bindings : Bindings) (offset : Offset) : Option String :=
  (bindings.get? offset.name).bind fun value =>
    (Number.Binary64.read? (trim value.toList)).bind fun base =>
      if base.isFinite then
        (Number.Binary64.read? offset.operand).map fun operand =>
          (if offset.subtracted then base.sub operand else base.add operand).text
      else
        none

end Offset

/-- The inside of a text between double or single quotation marks. -/
def literalValue? (token : List Char) : Option (List Char) :=
  (quoted? doubleQuote token).or (quoted? singleQuote token)

/-- The inside of a text between backquotes, with its names replaced. -/
def templateValue? (bindings : Bindings) (token : List Char) : Option (List Char) :=
  (quoted? backQuote token).map (substitute bindings)

/-- A numeral, as it is written. -/
def numeralValue? (token : List Char) : Option (List Char) := if isNumeral token then some token else none

/-- The value of a bound name. -/
def boundValue? (bindings : Bindings) (token : List Char) : Option (List Char) :=
  (bindings.get? (String.ofList token)).map String.toList

/-- The result of adding a number to a bound name or of taking it away. -/
def offsetValue? (bindings : Bindings) (token : List Char) : Option (List Char) :=
  ((Offset.read? token).bind (Offset.evaluate? bindings)).map String.toList

/-- The value of an expression that is evaluated, by the first form it has. -/
def expressionValue? (bindings : Bindings) (token : List Char) : Option (List Char) :=
  ((((literalValue? token).or (templateValue? bindings token)).or (numeralValue? token)).or
    (boundValue? bindings token)).or (offsetValue? bindings token)

/-- The text that an argument contributes to the line. -/
def evaluateArgument (bindings : Bindings) (argument : List Char) : List Char :=
  let token := trim argument
  if token = [] then [] else (expressionValue? bindings token).getD (substitute bindings token)

/-- The line that a statement prints. -/
def consoleLine (bindings : Bindings) (statement : String) : String :=
  let text := trim statement.toList
  if text = [] then noConsoleOutput
  else
    match callArguments? text with
    | none => String.ofList (substitute bindings text)
    | some arguments =>
        let values := ((splitArguments arguments).map (evaluateArgument bindings)).filter (· ≠ [])
        if values = [] then String.ofList (substitute bindings text)
        else " ".intercalate (values.map String.ofList)

end LoopLesson
