import LoopLesson.Lesson.Comparison
import LoopLesson.Number.Integer
import LoopLesson.Pattern.NamePattern
import LoopLesson.Text.Identifier
import LoopLesson.Text.Search

/-!
The three clauses of a counting loop: where the counter starts, how long it goes on, and how it
changes.

A clause may end with one semicolon, and blanks may stand at its ends and between its tokens.  The
condition and the step must name the variable that the start introduces.  They are looked for with a
pattern that is made around its name, and cannot be read if that pattern cannot be used.
-/

namespace LoopLesson

open Text

/-- The text of a clause without the blanks at its ends and without one closing semicolon. -/
def clauseText (text : List Char) : List Char :=
  let inner := trim text
  if inner.getLast? = some ';' then dropTrailingBlanks inner.dropLast else inner

/-- The words that may introduce a variable. -/
def declarators : List String := ["let", "var", "const"]

/-- Skips a declarator and the blanks after it, in each way a declarator fits. -/
def afterDeclarator? {α : Type} (read : List Char → Option α) (text : List Char) : Option α :=
  declarators.findSome? fun word => (after? word text).bind fun rest => (skipSomeBlanks? rest).bind read

/-- The start of a counting loop. -/
structure StartClause where
  name : String
  value : Int
deriving DecidableEq, Repr

namespace StartClause

/-- Reads `name = number`. -/
def assignment? (text : List Char) : Option StartClause :=
  (identifier? text).bind fun (name, rest) =>
    (after? "=" (skipBlanks rest)).bind fun rest =>
      (Number.word? (skipBlanks rest)).map fun value =>
        { name := String.ofList name, value }

/-- Reads an assignment that a declarator may introduce. -/
def read? (text : List Char) : Option StartClause :=
  let clause := clauseText text
  (afterDeclarator? assignment? clause).or (assignment? clause)

end StartClause

/-- The condition of a counting loop. -/
structure ConditionClause where
  comparison : Comparison
  bound : Int
deriving DecidableEq, Repr

namespace ConditionClause

/-- Splits off the sign of a comparison. -/
def comparison? (text : List Char) : Option (Comparison × List Char) :=
  match after? "<=" text with
  | some rest => some (.atMost, rest)
  | none => (after? ">=" text).map fun rest => (.atLeast, rest)

/-- Reads what the pattern of a condition matches: `variable <= number` or `variable >= number`. -/
def matched? (variableName : List Char) (text : List Char) : Option ConditionClause :=
  (strip? variableName (clauseText text)).bind fun rest =>
    (comparison? (skipBlanks rest)).bind fun (comparison, rest) =>
      (Number.word? (skipBlanks rest)).map fun bound => { comparison, bound }

/-- Reads a condition, if its pattern can be used. -/
def read? (variableName : List Char) (text : List Char) : Option ConditionClause :=
  if Pattern.Compiles (NamePattern.condition variableName) then matched? variableName text else none

end ConditionClause

/-- The step of a counting loop: an amount to add or to take away. -/
structure StepClause where
  negative : Bool
  amount : Nat
deriving DecidableEq, Repr

namespace StepClause

def delta (clause : StepClause) : Int :=
  if clause.negative then -(clause.amount : Int) else (clause.amount : Int)

/-- Splits off a plus or minus sign; the answer is whether it is a minus. -/
def sign? : List Char → Option (Bool × List Char)
  | [] => none
  | c :: rest => if c = '+' then some (false, rest) else if c = '-' then some (true, rest) else none

/-- Reads an amount whose negative and positive both fit a word. -/
def amount? (text : List Char) : Option Nat :=
  (Number.natural? text).filter fun n => decide (Number.FitsWord n)

/-- Reads what the pattern of a step matches: `variable = variable + number` or
`variable = variable - number`. -/
def matched? (variableName : List Char) (text : List Char) : Option StepClause :=
  (strip? variableName (clauseText text)).bind fun rest =>
    (after? "=" (skipBlanks rest)).bind fun rest =>
      (strip? variableName (skipBlanks rest)).bind fun rest =>
        (sign? (skipBlanks rest)).bind fun (negative, rest) =>
          (amount? (skipBlanks rest)).map fun amount => { negative, amount }

/-- Reads a step, if its pattern can be used. -/
def read? (variableName : List Char) (text : List Char) : Option StepClause :=
  if Pattern.Compiles (NamePattern.step variableName) then matched? variableName text else none

end StepClause

end LoopLesson
