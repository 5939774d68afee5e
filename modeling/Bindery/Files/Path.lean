import Bindery.Text.Basic

/-!
# Paths

A path is kept as it was written, because messages and reports show it so.  It is cut at its
slashes only when a file is looked for.
-/

namespace Bindery

namespace Text

/-- The pieces between the occurrences of a separator; there is always at least one. -/
def piecesChars (sep : Char) : List Char → List (List Char)
  | [] => [[]]
  | c :: cs =>
    if c = sep then [] :: piecesChars sep cs
    else match piecesChars sep cs with
      | [] => [[c]]
      | piece :: pieces => (c :: piece) :: pieces

theorem piecesChars_ne_nil (sep : Char) (cs : List Char) : piecesChars sep cs ≠ [] := by
  cases cs with
  | nil => simp [piecesChars]
  | cons c cs =>
    rw [piecesChars]
    split
    · simp
    · split <;> simp

end Text

namespace Path

/-- The components of a path; one that is absolute begins with an empty component. -/
def components (path : String) : List String :=
  (Text.piecesChars '/' path.toList).map String.ofList

/-- Whether a path starts at the root of the file system. -/
def isAbsolute (path : String) : Bool :=
  Text.startsWith path "/"

/-- The path of a file as seen from a directory.  An absolute one stays as it is, and a directory
that ends in a slash gets no further one. -/
def join (directory file : String) : String :=
  if isAbsolute file || directory == "" then file
  else if directory.toList.getLast? == some '/' then directory ++ file
  else directory ++ "/" ++ file

/-- Whether a component stays where it is. -/
def isStay (component : String) : Bool :=
  component == "" || component == "."

/-- The components of a path that lead somewhere else. -/
def steps (path : String) : List String :=
  (components path).filter fun c => !isStay c

/-- Whether a path ends in a dot, slashes after it aside.  It names its directory from inside, so
the directory cannot be made by it. -/
def endsInDot (path : String) : Bool :=
  (components path).reverse.find? (· != "") == some "."

/-- The greatest length of a path, in bytes. -/
def maxBytes : Nat := 4095

/-- Whether a path holds a null character. -/
def holdsNull (path : String) : Bool :=
  path.toList.contains '\x00'

/-- Whether a path can be followed at all: it is short enough and holds no null character. -/
def isReachable (path : String) : Bool :=
  path.utf8ByteSize ≤ maxBytes && !holdsNull path

/-- Whether a component is short enough to be the name of a file or directory. -/
def isNameable (component : String) : Bool :=
  component.utf8ByteSize ≤ 255

end Path

end Bindery
