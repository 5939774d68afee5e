import Bindery.Files.Path

/-!
# File stores

The files and directories that a run can tell of: what a path reads as, which directories can be
made, and what a write leaves behind.

Outside the working directory there is nothing to begin with but the directories that lead to it
and the root.

A write shows at its own place and at no other (`lookup_replace_self`, `lookup_replace_of_ne`).
-/

namespace Bindery

/-- Where a path begins, or climbs to. -/
inductive Origin where
  | root
  /-- A number of levels above the working directory; with none, the working directory itself. -/
  | above (levels : Nat)
deriving DecidableEq, Repr

/-- What a path leads to: an origin and the names from there down. -/
structure Place where
  origin : Origin
  names : List String
deriving DecidableEq, Repr

namespace Place

/-- A place in or below the working directory. -/
def within (names : List String) : Place where
  origin := .above 0
  names := names

/-- Where a path begins. -/
def start (path : String) : Place where
  origin := if Path.isAbsolute path then .root else .above 0
  names := []

/-- The place with a name, one level down. -/
def child (p : Place) (name : String) : Place :=
  { p with names := p.names ++ [name] }

/-- The place one level up.  The root is its own parent. -/
def parent (p : Place) : Place :=
  match p.names, p.origin with
  | [], .root => p
  | [], .above levels => { origin := .above (levels + 1), names := [] }
  | names, origin => { origin, names := names.dropLast }

end Place

/-- The files and directories of a run.  An origin is always a directory. -/
structure FileStore where
  files : List (Place × String)
  directories : List Place
deriving Repr

namespace FileStore

/-- A working directory with nothing in it. -/
def empty : FileStore where
  files := []
  directories := []

instance : Inhabited FileStore := ⟨empty⟩

/-- Whether there is a directory. -/
def hasDirectory (s : FileStore) (p : Place) : Bool :=
  p.names.isEmpty || s.directories.contains p

/-- The place that a component leads to, if it is a directory. -/
def enter? (s : FileStore) (here : Place) (component : String) : Option Place :=
  if Path.isStay component then some here
  else if component == ".." then some here.parent
  else if Path.isNameable component && s.hasDirectory (here.child component) then
    some (here.child component)
  else none

/-- The place of the file of a path, in a directory that is there. -/
def locate? (s : FileStore) (path : String) : Option Place := do
  let components := Path.components path
  let name := components.getLastD ""
  if !Path.isReachable path || Path.isStay name || name == ".." || !Path.isNameable name then none
  else
    let directory ← components.dropLast.foldlM s.enter? (Place.start path)
    return directory.child name

/-- The content of the file of a path. -/
def read? (s : FileStore) (path : String) : Option String := do
  s.files.lookup (← s.locate? path)

/-- The store with a directory and a place to go on from, after one more component. -/
def makeStep? (state : FileStore × Place) (component : String) : Option (FileStore × Place) :=
  let (s, here) := state
  match s.enter? here component with
  | some place => some (s, place)
  | none =>
    let made := here.child component
    if !Path.isNameable component || (s.files.lookup made).isSome then none
    else some ({ s with directories := s.directories ++ [made] }, made)

/-- The store with a directory and all that lead to it.  A file in the way prevents it, and by a
path that ends in a dot only what leads to the directory is made: it has to be there itself. -/
def makeDirectory? (s : FileStore) (path : String) : Option FileStore := do
  let steps := Path.steps path
  if !Path.isReachable path then none
  else if Path.endsInDot path then
    let (s, here) ← steps.dropLast.foldlM makeStep? (s, Place.start path)
    let _ ← s.enter? here (steps.getLastD ".")
    return s
  else
    let (s, _) ← steps.foldlM makeStep? (s, Place.start path)
    return s

/-- Files with the content at one place replaced, or with a new file at the end. -/
def replace (target : Place) (content : String) : List (Place × String) → List (Place × String)
  | [] => [(target, content)]
  | (place, old) :: rest =>
    if place = target then (place, content) :: rest
    else (place, old) :: replace target content rest

theorem lookup_replace_self (target : Place) (content : String)
    (files : List (Place × String)) :
    (replace target content files).lookup target = some content := by
  induction files with
  | nil => simp [replace]
  | cons file files ih =>
    obtain ⟨place, old⟩ := file
    by_cases h : place = target
    · simp [replace, h]
    · have differ : (target == place) = false := beq_false_of_ne (Ne.symm h)
      simp [replace, h, List.lookup_cons, ih, differ]

theorem lookup_replace_of_ne {target other : Place} (h : other ≠ target) (content : String)
    (files : List (Place × String)) :
    (replace target content files).lookup other = files.lookup other := by
  have differ : (other == target) = false := beq_false_of_ne h
  induction files with
  | nil => simp [replace, List.lookup_cons, differ]
  | cons file files ih =>
    obtain ⟨place, old⟩ := file
    by_cases eq : place = target
    · subst eq
      simp [replace, List.lookup_cons, differ]
    · simp [replace, eq, List.lookup_cons, ih]

/-- The store after a file was written.  Its directory has to be there, and it must not be a
directory itself. -/
def write? (s : FileStore) (path content : String) : Option FileStore := do
  let target ← s.locate? path
  if s.hasDirectory target then none
  else return { s with files := replace target content s.files }

/-- The store with a file below the working directory and the directories that lead to it. -/
def put (s : FileStore) (path content : String) : FileStore :=
  let names := Path.steps path
  let leading := (List.range names.length).map fun n => Place.within (names.take n)
  { files := replace (.within names) content s.files
    directories := s.directories ++ leading.filter fun d => !s.hasDirectory d }

/-- The store of these files, given by path and content. -/
def ofFiles (files : List (String × String)) : FileStore :=
  files.foldl (fun s file => s.put file.1 file.2) empty

/-- The files of the working directory that are new or have another content than in `before`, by
path.  It compares two stores from outside: deliveries only write. -/
def changedSince (s before : FileStore) : List (String × String) :=
  (s.files.filter fun file =>
    file.1.origin = .above 0 && before.files.lookup file.1 != some file.2).map fun file =>
      ("/".intercalate file.1.names, file.2)

end FileStore

end Bindery
