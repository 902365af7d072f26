import LoopLesson.Text.Search

/-!
A working folder with files in it, and what is found where a path leads.

The parts of a path are followed one after the other, and each of them but the last has to lead to a
folder.  An empty part and a single point lead nowhere else, and two points lead to the folder
outside.  Of the folders outside the working folder nothing is known but that they are folders.
-/

namespace LoopLesson

/-- Why a file cannot be read. -/
inductive ReadFault where
  | notFound
  | isDirectory
  | notDirectory
  | nameTooLong
  | notText
  | other (message : String)
deriving DecidableEq, Repr

def ReadFault.message : ReadFault → String
  | .notFound => "No such file or directory (os error 2)"
  | .isDirectory => "Is a directory (os error 21)"
  | .notDirectory => "Not a directory (os error 20)"
  | .nameTooLong => "File name too long (os error 36)"
  | .notText => "stream did not contain valid UTF-8"
  | .other message => message

/-- The parts of a path between its slashes. -/
def pathParts (path : String) : List String :=
  let (first, others) := Text.pieces '/' path.toList
  (first :: others).map String.ofList

/-- A place that a path leads to. -/
structure Location where
  /-- Whether the working folder has been left. -/
  outside : Bool := false
  /-- The names of the folders on the way, and of the file. -/
  names : List String := []
deriving DecidableEq, Repr

/-- A working folder: the paths of its files, and what they hold. -/
structure Folder where
  files : List (String × ByteArray)

namespace Folder

/-- The greatest number of bytes of a name, and of a path. -/
def nameLimit : Nat := 255

def pathLimit : Nat := 4095

def file? (folder : Folder) (location : Location) : Option ByteArray :=
  if location.outside then none
  else (folder.files.find? fun file => pathParts file.1 = location.names).map Prod.snd

def isFolder (folder : Folder) (location : Location) : Bool :=
  location.names = [] ||
    (!location.outside && folder.files.any fun file => location.names.isPrefixOf (pathParts file.1))

/-- Follows one part of a path. -/
def enter (folder : Folder) (location : Location) (name : String) : Except ReadFault Location :=
  if (folder.file? location).isSome then .error .notDirectory
  else if !folder.isFolder location then .error .notFound
  else if name = "" ∨ name = "." then .ok location
  else if name = ".." then
    .ok (if location.names = [] then { outside := true } else { location with names := location.names.dropLast })
  else if nameLimit < name.utf8ByteSize then .error .nameTooLong
  else .ok { location with names := location.names ++ [name] }

/-- What the file at a path holds. -/
def read (folder : Folder) (path : String) : Except ReadFault ByteArray :=
  if path = "" then .error .notFound
  else if pathLimit < path.utf8ByteSize then .error .nameTooLong
  else
    match (pathParts path).foldlM folder.enter { outside := path.toList.head? = some '/' } with
    | .error fault => .error fault
    | .ok location =>
        match folder.file? location with
        | some content => .ok content
        | none => if folder.isFolder location then .error .isDirectory else .error .notFound

end Folder

end LoopLesson
