import LoopLesson.Lesson.Kind
import LoopLesson.Lesson.Script

/-!
The catalogue of lessons: the title of each, the script it starts from, and what it has to say about
every part of its loop.
-/

namespace LoopLesson
namespace LoopKind

def title : LoopKind → String
  | .forLoop => "The for loop"
  | .whileLoop => "The while loop"
  | .forEach => "Looping over an array"

/-- The script that a lesson starts from. -/
def defaultScript : LoopKind → Script
  | .forLoop | .whileLoop =>
      { start := "let i = 1"
        condition := "i <= 5"
        step := "i = i + 1"
        body := "console.log(\"Loop number\", i);" }
  | .forEach =>
      { start := "const values = [2, 4, 6];"
        condition := "for (const value of values)"
        step := "move to the next item"
        body := "console.log(\"Value\", value);" }

/-- What a lesson says about a part of its loop. -/
def explanation : LoopKind → Part → String
  | .forLoop, .start => "Runs once before anything else and creates the counter."
  | .forLoop, .condition => "Checked before every iteration. The body only runs while it is true."
  | .forLoop, .step => "Runs after each body to move the counter toward the end."
  | .forLoop, .body => "The work repeated on every iteration."
  | .whileLoop, .start => "A while loop has no start slot, so the counter is set up before it."
  | .whileLoop, .condition => "The only thing inside the parentheses. Checked before every pass."
  | .whileLoop, .step => "Lives at the end of the body. Forget it and the condition never changes."
  | .whileLoop, .body => "The work repeated while the condition holds."
  | .forEach, .start => "The array to walk through, one item at a time."
  | .forEach, .condition => "The loop asks for the next item until none are left."
  | .forEach, .step => "Moving to the next item happens automatically."
  | .forEach, .body => "Runs once for every item, with the item bound to a name."

end LoopKind
end LoopLesson
