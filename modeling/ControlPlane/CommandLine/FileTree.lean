import ControlPlane.Text.Pieces
import ControlPlane.Url.Percent

/-!
# Files by their paths

A file tree is a list of files, each with the names that lead to it from the root; the directories
are those on the way to files. A path is walked name by name: every name but the last has to lead
to a directory, `.` and an empty name stay where they are, and `..` goes up.

Main statements: nothing stands at an empty path (`stateAt_empty`), and a name that is too long
leads nowhere (`walk_of_long`).
-/
namespace ControlPlane.CommandLine

/-- Why a path leads nowhere. -/
inductive Absence where
  | noSuchFile
  | notDirectory
  | nameTooLong
  deriving DecidableEq, Repr

/-- The reason, in words. -/
def Absence.message : Absence → String
  | .noSuchFile => "No such file or directory (os error 2)"
  | .notDirectory => "Not a directory (os error 20)"
  | .nameTooLong => "File name too long (os error 36)"

/-- What stands at a path. -/
inductive FileState where
  | absent (reason : Absence)
  | text (content : String)
  | unreadable (reason : String)
  deriving DecidableEq, Repr

namespace FileState

/-- What is said of a path where a directory stands. -/
def isDirectory : String := "Is a directory (os error 21)"

/-- Whether something stands at a path. -/
def isPresent : FileState → Bool
  | .absent _ => false
  | .text _ | .unreadable _ => true

end FileState

/-- A file: the names that lead to it from the root, and its text. -/
structure File where
  names : List (List Char)
  content : String
  deriving DecidableEq, Repr

/-- All files there are. -/
abbrev FileTree := List File

namespace FileTree

/-- The names of a path. -/
def namesOf (path : String) : List (List Char) :=
  Text.splitAt '/' path.toList

/-- The greatest number of bytes in a name. -/
def nameLimit : Nat := 255

/-- The greatest number of bytes in a path. -/
def pathLimit : Nat := 4095

/-- The file that some names lead to. -/
def fileAt? (tree : FileTree) (place : List (List Char)) : Option File :=
  tree.find? fun file => file.names = place

/-- Whether some names lead to a directory. -/
def isDirectory (tree : FileTree) (place : List (List Char)) : Bool :=
  place.isEmpty || tree.any fun file => place.isPrefixOf file.names && file.names != place

/-- Whether a name stays where it is. -/
def isStill (name : List Char) : Bool :=
  name == [] || name == ['.']

/-- Where names lead to from a place. -/
def walk (tree : FileTree) (place : List (List Char)) :
    List (List Char) → Except Absence (List (List Char))
  | [] => .ok place
  | name :: rest =>
    if !tree.isDirectory place then .error .notDirectory
    else if isStill name then walk tree place rest
    else if name == ['.', '.'] then walk tree place.dropLast rest
    else if nameLimit < (Url.utf8 name).length then .error .nameTooLong
    else
      let next := place ++ [name]
      if tree.isDirectory next || (tree.fileAt? next).isSome then walk tree next rest
      else .error .noSuchFile

/-- What stands at a place. -/
def stateOf (tree : FileTree) (place : List (List Char)) : FileState :=
  match tree.fileAt? place with
  | some file => .text file.content
  | none => .unreadable FileState.isDirectory

/-- What stands at a path, for a program that works in some directory. -/
def stateAt (tree : FileTree) (directory : List (List Char)) (path : String) : FileState :=
  if path.isEmpty then .absent .noSuchFile
  else if pathLimit < (Url.utf8 path.toList).length then .absent .nameTooLong
  else
    let start := if path.toList.head? = some '/' then [] else directory
    match tree.walk start (namesOf path) with
    | .error reason => .absent reason
    | .ok place => tree.stateOf place

/-! ## Paths that lead nowhere -/

theorem stateAt_empty (tree : FileTree) (directory : List (List Char)) :
    tree.stateAt directory "" = .absent .noSuchFile := rfl

theorem walk_of_long {tree : FileTree} {place rest : List (List Char)} {name : List Char}
    (hdirectory : tree.isDirectory place = true) (hname : nameLimit < (Url.utf8 name).length) :
    tree.walk place (name :: rest) = .error .nameTooLong := by
  have hstill : isStill name = false := by
    simp only [isStill, Bool.or_eq_false_iff, beq_eq_false_iff_ne]
    constructor <;> (rintro rfl; revert hname; decide)
  have hup : (name == ['.', '.']) = false := by
    rw [beq_eq_false_iff_ne]
    rintro rfl
    revert hname
    decide
  simp [walk, hdirectory, hstill, hup, hname]

end FileTree

end ControlPlane.CommandLine
