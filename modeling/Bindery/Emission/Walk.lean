import Bindery.Emission.Ledger

/-!
# Walks over the methods of a class

An emitter walks over the methods of a class and of its bases, and each view it tries is either
written or skipped.  The outcomes are kept in the order of the attempts.

Two things are remembered on the way: the linkage symbols that are taken, so that no symbol is
emitted twice for a class, and the keys of the methods that need no further attempt.
-/

namespace Bindery

/-- What became of an attempt to emit a view. -/
inductive Outcome (α : Type) where
  | written (item : α)
  | skipped (view : View) (obstacle : Obstacle)
deriving Repr

namespace Outcome

/-- What was written. -/
def item? {α : Type} : Outcome α → Option α
  | written item => some item
  | skipped .. => none

/-- The ledger entry of what was not. -/
def skip? {α : Type} : Outcome α → Option Skipped
  | written _ => none
  | skipped v o => some (.ofView v o)

end Outcome

/-- The items that were written. -/
def writtenItems {α : Type} (outcomes : List (Outcome α)) : List α :=
  outcomes.filterMap Outcome.item?

/-- The ledger entries of what was skipped. -/
def skippedEntries {α : Type} (outcomes : List (Outcome α)) : List Skipped :=
  outcomes.filterMap Outcome.skip?

@[simp] theorem writtenItems_append {α : Type} (first second : List (Outcome α)) :
    writtenItems (first ++ second) = writtenItems first ++ writtenItems second :=
  List.filterMap_append ..

@[simp] theorem skippedEntries_append {α : Type} (first second : List (Outcome α)) :
    skippedEntries (first ++ second) = skippedEntries first ++ skippedEntries second :=
  List.filterMap_append ..

/-- The state of a walk. -/
structure Walk (α : Type) where
  /-- Linkage symbols that are taken. -/
  symbols : List String
  /-- Keys of methods that need no further attempt. -/
  keys : List (String × Option UInt32)
  outcomes : List (Outcome α)

namespace Walk

variable {α : Type}

/-- A walk that has not begun. -/
def start : Walk α where
  symbols := []
  keys := []
  outcomes := []

/-- The walk with a key settled. -/
def settle (w : Walk α) (key : String × Option UInt32) : Walk α :=
  { w with keys := key :: w.keys }

/-- Whether a key is settled. -/
def isSettled (w : Walk α) (key : String × Option UInt32) : Bool :=
  w.keys.contains key

/-- The walk after a view was skipped. -/
def skip (w : Walk α) (v : View) (obstacle : Obstacle) : Walk α :=
  { w with outcomes := w.outcomes ++ [.skipped v obstacle] }

/-- The walk after an item was written. -/
def write (w : Walk α) (item : α) : Walk α :=
  { w with outcomes := w.outcomes ++ [.written item] }

/-- The walk after an item was written under a symbol. -/
def claim (w : Walk α) (symbol : String) (item : α) : Walk α :=
  { w.write item with symbols := symbol :: w.symbols }

/-! What each step leaves as it was, and what it adds. -/

@[simp] theorem symbols_settle (w : Walk α) (key : String × Option UInt32) :
    (w.settle key).symbols = w.symbols := rfl

@[simp] theorem isSettled_settle (w : Walk α) (key other : String × Option UInt32) :
    (w.settle key).isSettled other = true ↔ other = key ∨ w.isSettled other = true := by
  simp [settle, isSettled]

@[simp] theorem outcomes_skip (w : Walk α) (v : View) (obstacle : Obstacle) :
    (w.skip v obstacle).outcomes = w.outcomes ++ [.skipped v obstacle] := rfl

@[simp] theorem symbols_claim (w : Walk α) (symbol : String) (item : α) :
    (w.claim symbol item).symbols = symbol :: w.symbols := rfl

@[simp] theorem outcomes_claim (w : Walk α) (symbol : String) (item : α) :
    (w.claim symbol item).outcomes = w.outcomes ++ [.written item] := rfl

end Walk

end Bindery
