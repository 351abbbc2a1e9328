/-!
# Guarded cells

Scopes, links and stores are cells that several callers share.  A caller may hold a `Guard` on a
cell: any number of callers may read it at the same time, or one caller may have it to itself.
What a guard stands in the way of fails, it does not wait.
-/

set_option autoImplicit false

namespace ScriptHost

/-- How a cell is held at the moment. -/
inductive Guard where
  /-- So many callers read the cell, perhaps none. -/
  | shared (readers : Nat)
  /-- One caller has the cell to itself. -/
  | exclusive
  deriving DecidableEq, Repr

namespace Guard

/-- Nobody holds the cell. -/
def free : Guard := .shared 0

/-- Whether the cell can be read. -/
def canRead : Guard → Bool
  | .shared _ => true
  | .exclusive => false

/-- Whether the cell can be changed. -/
def canWrite : Guard → Bool
  | .shared 0 => true
  | _ => false

theorem canRead_eq_false_iff {g : Guard} : g.canRead = false ↔ g = exclusive := by
  cases g <;> simp [canRead]

theorem canWrite_eq_false_iff {g : Guard} : g.canWrite = false ↔ g ≠ free := by
  rcases g with (_ | n) | _ <;> simp [canWrite, free]

/-- What is held, but not exclusively, is held by readers. -/
theorem exists_readers_iff {g : Guard} :
    (∃ readers, g = .shared (readers + 1)) ↔ g ≠ free ∧ g ≠ exclusive := by
  rcases g with (_ | n) | _ <;> simp [free]

/-- What a caller holds a cell for. -/
inductive Mode where
  | read
  | write
  deriving DecidableEq, Repr

/-- One more caller holds the cell, if that is possible. -/
def acquire? : Guard → Mode → Option Guard
  | .shared readers, .read => some (.shared (readers + 1))
  | .shared 0, .write => some .exclusive
  | _, _ => none

/-- One caller lets go of the cell. -/
def release : Guard → Guard
  | .shared readers => .shared (readers - 1)
  | .exclusive => free

theorem release_of_acquire? {g g' : Guard} {mode : Mode} (h : g.acquire? mode = some g') :
    g'.release = g := by
  cases mode <;> rcases g with (_ | n) | _ <;> simp_all [acquire?] <;> subst h <;> rfl

end Guard

/-- A shared cell. -/
structure Cell (α : Type) where
  content : α
  guard : Guard := .free

end ScriptHost
