/-!
The two comparisons that a counting loop may test its counter with.
-/

namespace LoopLesson

/-- How a counter is compared with its bound. -/
inductive Comparison where
  | atMost
  | atLeast
deriving DecidableEq, Repr, Inhabited

namespace Comparison

def sign : Comparison → String
  | .atMost => "<="
  | .atLeast => ">="

/-- The comparison with exactly the given sign. -/
def ofSign? (text : String) : Option Comparison :=
  if text = "<=" then some .atMost else if text = ">=" then some .atLeast else none

def holds : Comparison → Int → Int → Bool
  | .atMost, value, bound => value ≤ bound
  | .atLeast, value, bound => bound ≤ value

/-- Whether a step moves a counter toward the bound. -/
def acceptsStep : Comparison → Int → Bool
  | .atMost, step => 0 < step
  | .atLeast, step => step < 0

/-- The word for the steps that are accepted. -/
def direction : Comparison → String
  | .atMost => "positive"
  | .atLeast => "negative"

end Comparison

end LoopLesson
