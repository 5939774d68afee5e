import Bindery.Files.Store
import Bindery.Run.Delivery

/-!
# Deliveries into a file store

A delivery makes its directory and writes its files one by one.  The first step that fails ends
everything, and what was written before it stays.
-/

namespace Bindery

/-- What came of carrying out deliveries. -/
structure DeliveryReport where
  store : FileStore
  /-- The paths of the deliveries that are complete. -/
  paths : List String
  failure : Option RunError

namespace FileStore

/-- The store after files were written, and the error that ended it. -/
def writeFiles (s : FileStore) : List (String × String) → FileStore × Option RunError
  | [] => (s, none)
  | (path, content) :: rest =>
    match s.write? path content with
    | some s => s.writeFiles rest
    | none => (s, some (.fileNotWritten path))

/-- The store after one delivery, and the error that ended it. -/
def deliver (s : FileStore) (d : Delivery) : FileStore × Option RunError :=
  match s.makeDirectory? d.directory with
  | some s => s.writeFiles d.files
  | none => (s, some (.directoryNotMade d.directory))

/-- What comes of deliveries, in their order. -/
def deliverAll (s : FileStore) : List Delivery → DeliveryReport
  | [] => { store := s, paths := [], failure := none }
  | d :: rest =>
    match s.deliver d with
    | (s, none) =>
      let report := s.deliverAll rest
      { report with paths := d.paths ++ report.paths }
    | (s, some error) => { store := s, paths := [], failure := some error }

end FileStore

end Bindery
