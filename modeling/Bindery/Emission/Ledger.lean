import Bindery.View

/-!
# The ledger of skipped constructs

Whatever cannot be emitted is recorded once, in the order in which it was first met: a view of a
method by the class it was emitted for, its name, overload and direction, or a class as a whole.
That nothing is recorded twice is part of the type; that nothing is lost is said by `mem_record`
and the lemmas after it.
-/

namespace Bindery

/-- A construct that was left out, and why. -/
structure Skipped where
  /-- The class that the names would have belonged to. -/
  owner : String
  /-- Empty for a class as a whole. -/
  method : String
  overload : Option UInt32
  direction : Direction
  obstacle : Obstacle
deriving DecidableEq, Repr

namespace Skipped

/-- The entry of a view. -/
def ofView (v : View) (obstacle : Obstacle) : Skipped where
  owner := v.owner
  method := v.method.name
  overload := v.method.overload
  direction := v.direction
  obstacle := obstacle

/-- The entry of a class as a whole. -/
def ofClass (name : String) (obstacle : Obstacle) : Skipped where
  owner := name
  method := ""
  overload := none
  direction := .plain
  obstacle := obstacle

/-- An entry as a report shows it. -/
def text (s : Skipped) : String :=
  s.owner ++ "::" ++ s.method
    ++ s.overload.elim "" (fun n => "#" ++ toString n.toNat)
    ++ (if s.direction == .plain then "" else " [" ++ s.direction.word ++ "]")
    ++ ": " ++ s.obstacle.marker

end Skipped

/-- Skipped constructs, each once. -/
structure Ledger where
  entries : List Skipped
  distinct : entries.Nodup

namespace Ledger

/-- The ledger without entries. -/
def empty : Ledger where
  entries := []
  distinct := List.nodup_nil

instance : Inhabited Ledger := ⟨empty⟩

/-- The ledger with one more entry, unless it is there already. -/
def record (l : Ledger) (s : Skipped) : Ledger :=
  if h : s ∈ l.entries then l
  else
    { entries := l.entries ++ [s]
      distinct := by
        rw [List.nodup_append]
        refine ⟨l.distinct, by simp, ?_⟩
        intro a ha b hb
        simp only [List.mem_singleton] at hb
        exact fun hab => h (hb ▸ hab ▸ ha) }

/-- The ledger with further entries, in their order. -/
def recordAll (l : Ledger) (entries : List Skipped) : Ledger :=
  entries.foldl record l

/-- The ledger of these entries, each at its first place. -/
def ofList (entries : List Skipped) : Ledger :=
  empty.recordAll entries

/-- The ledger with the entries of another one after its own. -/
def merge (l other : Ledger) : Ledger :=
  l.recordAll other.entries

@[simp] theorem mem_record {l : Ledger} {s t : Skipped} :
    t ∈ (l.record s).entries ↔ t ∈ l.entries ∨ t = s := by
  unfold record
  split
  · rename_i h
    exact ⟨Or.inl, fun m => m.elim id fun eq => eq ▸ h⟩
  · simp

@[simp] theorem mem_recordAll {l : Ledger} {entries : List Skipped} {t : Skipped} :
    t ∈ (l.recordAll entries).entries ↔ t ∈ l.entries ∨ t ∈ entries := by
  induction entries generalizing l with
  | nil => simp [recordAll]
  | cons s entries ih =>
    rw [recordAll, List.foldl_cons]
    change t ∈ ((l.record s).recordAll entries).entries ↔ _
    simp [ih, or_assoc]

@[simp] theorem mem_ofList {entries : List Skipped} {t : Skipped} :
    t ∈ (ofList entries).entries ↔ t ∈ entries := by
  simp [ofList, empty]

@[simp] theorem mem_merge {l other : Ledger} {t : Skipped} :
    t ∈ (l.merge other).entries ↔ t ∈ l.entries ∨ t ∈ other.entries := by
  simp [merge]

/-- Number of entries. -/
def size (l : Ledger) : Nat :=
  l.entries.length

end Ledger

end Bindery
