import LoopLesson.Number.Integer
import LoopLesson.Tutor.Playhead

/-!
How lessons look on a terminal: the lines that are printed for a notice or a frame, with or without
colour.
-/

namespace LoopLesson

/-- The look of a piece of text, as the codes that switch it on. -/
structure Ink where
  codes : List String

namespace Ink

def bold : Ink := ⟨["1"]⟩
def dimmed : Ink := ⟨["2"]⟩
def heading : Ink := ⟨["1", "4"]⟩
def red : Ink := ⟨["31"]⟩
def green : Ink := ⟨["32"]⟩
def yellow : Ink := ⟨["33"]⟩
def cyan : Ink := ⟨["36"]⟩
def boldRed : Ink := ⟨["1", "31"]⟩
def boldMagenta : Ink := ⟨["1", "35"]⟩
def boldCyan : Ink := ⟨["1", "36"]⟩

def opening (ink : Ink) : List Char := ("\x1b[" ++ ";".intercalate ink.codes ++ "m").toList

/-- The code that switches every look off. -/
def closing : List Char := "\x1b[0m".toList

/-- Switches a look on again wherever a text switches it off. -/
def resume (opening : List Char) : List Char → List Char
  | '\x1b' :: '[' :: '0' :: 'm' :: rest => closing ++ opening ++ resume opening rest
  | c :: rest => c :: resume opening rest
  | [] => []

/-- A text in a look, or as it is without colour. -/
def paint (ink : Ink) (coloured : Bool) (text : String) : String :=
  if coloured then String.ofList (ink.opening ++ resume ink.opening text.toList ++ closing) else text

end Ink

/-- A line for one of the two outputs, or a wait in milliseconds. -/
inductive Effect where
  | print (line : String)
  | complain (line : String)
  | pause (milliseconds : Nat)
deriving DecidableEq, Repr

/-- The name of a part in capital letters. -/
def Part.label : Part → String
  | .start => "START"
  | .condition => "CONDITION"
  | .step => "STEP"
  | .body => "BODY"

/-- How lessons are printed. -/
structure Display where
  coloured : Bool
  showCounter : Bool
deriving DecidableEq, Repr

namespace Display

def paint (display : Display) (ink : Ink) (text : String) : String := ink.paint display.coloured text

/-- The part at work, or that the lesson is over. -/
def label (display : Display) : Option Part → String
  | some part => display.paint .boldCyan part.label
  | none => display.paint .boldMagenta "DONE"

/-- The lines for a revealed frame. -/
def frame (display : Display) (frame : Frame) : List Effect :=
  let marker := "[" ++ Number.naturalText frame.position ++ "/" ++ Number.naturalText frame.total ++ "]"
  .print (display.paint .dimmed marker ++ " " ++ display.label frame.highlight) ::
    ((frame.trace.toList.map fun trace => .print ("    " ++ trace)) ++
    (frame.console.toList.map fun console =>
      .print ("    " ++ display.paint .green ">" ++ " " ++ display.paint .green console)) ++
    (if display.showCounter then [.print ("    " ++ display.paint .yellow frame.counter)] else []))

/-- The lines for a whole lesson: trace, console and, if wanted, the counter. -/
def summary (display : Display) (view : View) : List Effect :=
  [.print (display.paint .heading "Trace"), .print view.trace, .print "",
    .print (display.paint .heading "Console"),
    .print (if view.console = "" then display.paint .dimmed "(nothing printed)"
      else display.paint .green view.console)] ++
    if display.showCounter then
      [.print "", .print (display.paint .bold "Counter:" ++ " " ++ display.paint .yellow view.counter)]
    else []

/-- The lines for a notice.  A view is printed as a whole once nothing is highlighted any more. -/
def notice (display : Display) : Notice → List Effect
  | .render _ view => if view.highlight = none ∧ view.trace ≠ "" then display.summary view else []
  | .fault kind message =>
      [.complain (display.paint .boldRed (kind.name ++ ":") ++ " " ++ display.paint .red message)]
  | .highlight kind part => [.print (display.paint .dimmed kind.name ++ " " ++ display.label part)]

def notices (display : Display) (notices : List Notice) : List Effect := notices.flatMap display.notice

end Display

end LoopLesson
