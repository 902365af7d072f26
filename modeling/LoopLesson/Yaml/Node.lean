import LoopLesson.Number.Integer
import LoopLesson.Yaml.Character
import LoopLesson.Yaml.Token

/-!
YAML documents as trees of scalars, sequences, mappings and aliases, and how typed values are read
from them.

Anchors are told apart by numbers.  An alias stands for the last node of the document that carries
its number, wherever that node is.
-/

namespace LoopLesson

/-- A node of a YAML document. -/
inductive Yaml where
  | scalar (anchor : Option Nat) (tag : Option (List Char)) (style : Yaml.ScalarStyle) (text : String)
  | sequence (anchor : Option Nat) (items : List Yaml)
  | mapping (anchor : Option Nat) (entries : List (Yaml × Yaml))
  | alias (anchor : Nat)
deriving Repr, Inhabited

namespace Yaml

/-- The node that stands where nothing is written. -/
def absent : Yaml := .scalar none none .plain ""

/-- The number that a node carries. -/
def anchor? : Yaml → Option Nat
  | .scalar anchor _ _ _ => anchor
  | .sequence anchor _ => anchor
  | .mapping anchor _ => anchor
  | .alias _ => none

mutual

/-- A node and all nodes inside it, in the order in which they begin. -/
def nodes : Yaml → List Yaml
  | .scalar anchor tag style text => [.scalar anchor tag style text]
  | .sequence anchor items => .sequence anchor items :: itemNodes items
  | .mapping anchor entries => .mapping anchor entries :: entryNodes entries
  | .alias anchor => [.alias anchor]

def itemNodes : List Yaml → List Yaml
  | [] => []
  | item :: rest => nodes item ++ itemNodes rest

def entryNodes : List (Yaml × Yaml) → List Yaml
  | [] => []
  | (key, value) :: rest => nodes key ++ (nodes value ++ entryNodes rest)

end

/-- The node of a document that a node stands for. -/
def target (root : Yaml) : Yaml → Yaml
  | .alias anchor =>
      (root.nodes.reverse.find? fun node => node.anchor? = some anchor).getD (.alias anchor)
  | other => other

/-- The tags of the kinds of scalar. -/
def standardTag (name : String) : List Char := ("tag:yaml.org,2002:" ++ name).toList

/-- The text of a scalar, however it is written. -/
def text? (root node : Yaml) : Option String :=
  match root.target node with
  | .scalar _ _ _ text => some text
  | _ => none

/-- The text of a scalar that may stand for a value of a kind: a plain scalar, or a literal block
with the tag of the kind. -/
def valueText? (root : Yaml) (kind : String) (node : Yaml) : Option String :=
  match root.target node with
  | .scalar _ tag style text =>
      if style = .plain ∨ (style = .literal ∧ tag = some (standardTag kind)) then some text else none
  | _ => none

def boolean? (root node : Yaml) : Option Bool :=
  (root.valueText? "bool" node).bind fun text =>
    if text = "true" ∨ text = "True" ∨ text = "TRUE" then some true
    else if text = "false" ∨ text = "False" ∨ text = "FALSE" then some false
    else none

/-- The words for nothing. -/
def isNull (text : String) : Bool := text = "~" || text = "null" || text = "Null" || text = "NULL"

/-- A text, or none where nothing or a plain word for nothing is written.  Under the tag for nothing
there has to be such a word, and under any other tag even such a word is a text. -/
def optionalText? (root node : Yaml) : Option (Option String) :=
  match root.target node with
  | .scalar _ tag style text =>
      if style ≠ .plain then some (some text)
      else
        match tag with
        | none => some (if text = "" ∨ isNull text then none else some text)
        | some tag =>
            if tag ≠ standardTag "null" then some (some text)
            else if isNull text then some none
            else none
  | _ => none

/-- Reads one digit or more in a base. -/
def digits? (base : Nat) (text : List Char) : Option Nat :=
  if text = [] then none
  else text.foldlM (fun total c => (digitValue? base c).map fun value => total * base + value) 0

/-- Reads digits in the base that their beginning announces.  Decimal digits do not begin with a
zero that more digits follow. -/
def magnitude? (text : List Char) : Option Nat :=
  match text with
  | '0' :: 'x' :: rest => digits? 16 rest
  | '0' :: 'o' :: rest => digits? 8 rest
  | '0' :: 'b' :: rest => digits? 2 rest
  | '0' :: _ :: _ => none
  | _ => digits? 10 text

/-- A whole number of at most 64 bits, with a plus sign or without a sign. -/
def natural? (root node : Yaml) : Option Nat :=
  (root.valueText? "int" node).bind fun text =>
    let digits := match text.toList with
      | '+' :: rest => rest
      | other => other
    (magnitude? digits).filter fun n => decide (Number.FitsUnsignedWord n)

/-- The entries of a mapping whose keys are all scalars.  Where nothing is written there are none. -/
def entries? (root node : Yaml) : Option (List (String × Yaml)) :=
  match root.target node with
  | .mapping _ entries => entries.mapM fun (key, value) => (root.text? key).map fun key => (key, value)
  | .scalar _ _ style text => if style = .plain ∧ text = "" then some [] else none
  | _ => none

/-- Reads the value of a key that may be missing but may not be given twice. -/
def entryOr? {α : Type} (missing : α) (read : Yaml → Option α) (key : String)
    (entries : List (String × Yaml)) : Option α :=
  match entries.filter fun entry => entry.1 = key with
  | [] => some missing
  | [(_, value)] => read value
  | _ => none

end Yaml

end LoopLesson
