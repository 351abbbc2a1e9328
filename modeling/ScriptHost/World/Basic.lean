import ScriptHost.Action
import ScriptHost.Value.Basic
import ScriptHost.World.Guard

/-!
# Scopes, links and stores

The variables that scripts and hosts share live on two levels.  A `Scope` has variables of its own,
its *locals*.  Below them lies a *store* of global variables, which belongs to the host and may
serve any number of scopes.  Between the two stands a *link*: all scopes of one execution context
share one link, and it leads to the context's current store, or to none.

A `World` has all of these in cells, and a reference names a cell.  New cells are numbered in order.
The functions here read or replace the content of one cell, or hold it and let it go; what
variables there are and what happens to them is built on these in `ScriptHost.World.Variables`.

**Guards are checked at each step.**  To read a cell it has to be free of an exclusive guard, to
change it, free of every guard.  `AccessError` says which cell was in the way.
-/

set_option autoImplicit false

namespace ScriptHost

/-! ## References and cells -/

/-- The name of a scope. -/
structure ScopeRef where
  index : Nat
  deriving DecidableEq, Repr

/-- The name of a link. -/
structure LinkRef where
  index : Nat
  deriving DecidableEq, Repr

/-- The name of a store. -/
structure StoreRef where
  index : Nat
  deriving DecidableEq, Repr

/-- A namespace: local variables, and a link to a store of global ones. -/
structure Scope where
  name : String
  locals : Table Value
  link : LinkRef
  /-- How many names have been removed from a store through this scope.  Whoever remembers where a
  name was found compares this number before trusting it. -/
  revision : Nat

/-- All scopes, links and stores. -/
structure World where
  scopes : ScopeRef → Cell Scope
  links : LinkRef → Cell (Option StoreRef)
  stores : StoreRef → Cell (Table Value)
  scopeCount : Nat
  linkCount : Nat
  storeCount : Nat
  /-- Where new values come from. -/
  supply : Supply

/-- The function `f` with another value at `i`. -/
def replaceAt {ι α : Type} [DecidableEq ι] (f : ι → α) (i : ι) (a : α) : ι → α :=
  fun j => if j = i then a else f j

@[simp] theorem replaceAt_self {ι α : Type} [DecidableEq ι] (f : ι → α) (i : ι) (a : α) :
    replaceAt f i a i = a := if_pos rfl

@[simp] theorem replaceAt_of_ne {ι α : Type} [DecidableEq ι] (f : ι → α) {i j : ι} (a : α)
    (h : j ≠ i) : replaceAt f i a j = f j := if_neg h

/-- Of two values at one place, the later one stays. -/
theorem replaceAt_replaceAt {ι α : Type} [DecidableEq ι] (f : ι → α) (i : ι) (a a' : α) :
    replaceAt (replaceAt f i a) i a' = replaceAt f i a' := by
  funext j
  by_cases h : j = i
  · rw [h, replaceAt_self, replaceAt_self]
  · rw [replaceAt_of_ne _ _ h, replaceAt_of_ne _ _ h, replaceAt_of_ne _ _ h]

/-- Replacing a value by itself changes nothing. -/
theorem replaceAt_eq_self {ι α : Type} [DecidableEq ι] (f : ι → α) (i : ι) :
    replaceAt f i (f i) = f := by
  funext j
  by_cases h : j = i
  · rw [h, replaceAt_self]
  · rw [replaceAt_of_ne _ _ h]

namespace World

/-- A world without scopes, links and stores. -/
def empty : World where
  scopes := fun _ => { content := ⟨"", .empty, ⟨0⟩, 0⟩ }
  links := fun _ => { content := none }
  stores := fun _ => { content := .empty }
  scopeCount := 0
  linkCount := 0
  storeCount := 0
  supply := {}

instance : Inhabited World := ⟨empty⟩

/-- The scope behind a reference. -/
def scope (w : World) (s : ScopeRef) : Scope := (w.scopes s).content

/-- The store that a link leads to. -/
def linked (w : World) (l : LinkRef) : Option StoreRef := (w.links l).content

/-- The entries of a store. -/
def entries (w : World) (g : StoreRef) : Table Value := (w.stores g).content

/-- The store below a scope. -/
def storeOf (w : World) (s : ScopeRef) : Option StoreRef := w.linked (w.scope s).link

/-- Replaces a scope and leaves its guard. -/
def setScope (w : World) (s : ScopeRef) (scope : Scope) : World :=
  { w with scopes := replaceAt w.scopes s { w.scopes s with content := scope } }

/-- Replaces what a link leads to and leaves its guard. -/
def setLink (w : World) (l : LinkRef) (store : Option StoreRef) : World :=
  { w with links := replaceAt w.links l { w.links l with content := store } }

/-- Replaces the entries of a store and leaves its guard. -/
def setEntries (w : World) (g : StoreRef) (entries : Table Value) : World :=
  { w with stores := replaceAt w.stores g { w.stores g with content := entries } }

section

variable (w : World) (s s' : ScopeRef) (scope : Scope) (g g' : StoreRef) (entries : Table Value)

@[simp] theorem scope_setScope_self : (w.setScope s scope).scope s = scope := by
  simp [setScope, World.scope]

@[simp] theorem scope_setScope_of_ne (h : s' ≠ s) : (w.setScope s scope).scope s' = w.scope s' := by
  simp [setScope, World.scope, h]

@[simp] theorem entries_setScope : (w.setScope s scope).entries g = w.entries g := rfl

@[simp] theorem linked_setScope (l : LinkRef) : (w.setScope s scope).linked l = w.linked l := rfl

@[simp] theorem entries_setEntries_self : (w.setEntries g entries).entries g = entries := by
  simp [setEntries, World.entries]

@[simp] theorem entries_setEntries_of_ne (h : g' ≠ g) :
    (w.setEntries g entries).entries g' = w.entries g' := by
  simp [setEntries, World.entries, h]

@[simp] theorem scope_setEntries : (w.setEntries g entries).scope s = w.scope s := rfl

@[simp] theorem linked_setEntries (l : LinkRef) :
    (w.setEntries g entries).linked l = w.linked l := rfl

@[simp] theorem guard_setScope : ((w.setScope s scope).scopes s').guard = (w.scopes s').guard := by
  by_cases h : s' = s
  · subst h; simp [setScope]
  · simp [setScope, h]

@[simp] theorem guard_setEntries :
    ((w.setEntries g entries).stores g').guard = (w.stores g').guard := by
  by_cases h : g' = g
  · subst h; simp [setEntries]
  · simp [setEntries, h]

@[simp] theorem scopes_setEntries : (w.setEntries g entries).scopes = w.scopes := rfl

theorem setScope_setScope (scope' : Scope) :
    (w.setScope s scope).setScope s scope' = w.setScope s scope' := by
  simp only [setScope, replaceAt_self, replaceAt_replaceAt]

theorem setScope_scope : w.setScope s (w.scope s) = w :=
  congrArg (fun scopes => { w with scopes }) (replaceAt_eq_self w.scopes s)

theorem setEntries_setEntries (entries' : Table Value) :
    (w.setEntries g entries).setEntries g entries' = w.setEntries g entries' := by
  simp only [setEntries, replaceAt_self, replaceAt_replaceAt]

theorem setEntries_entries : w.setEntries g (w.entries g) = w :=
  congrArg (fun stores => { w with stores }) (replaceAt_eq_self w.stores g)

end

end World

/-! ## Access -/

/-- What stands in the way of an operation on variables. -/
inductive AccessError where
  /-- The scope cannot be read: another caller has it to itself. -/
  | scopeModified
  /-- The scope cannot be changed: another caller holds it. -/
  | scopeInUse
  /-- The link cannot be followed: another caller has it to itself. -/
  | linkReplaced
  /-- The store cannot be read: another caller has it to itself. -/
  | storeModified
  /-- The store cannot be changed: another caller holds it. -/
  | storeInUse
  /-- The variable was found in a store, and there is no store any more. -/
  | storeDetached (name : String)
  deriving DecidableEq, Repr

namespace AccessError

/-- The text of the error. -/
def message : AccessError → String
  | .scopeModified => "engine scope is being modified by another caller"
  | .scopeInUse => "engine scope is in use by another caller"
  | .linkReplaced => "global store link is being replaced"
  | .storeModified => "global store is being modified by another caller"
  | .storeInUse => "global store is in use by another caller"
  | .storeDetached name => s!"global store for `{name}` was detached"

/-- The error as the interpreter sees it. -/
def toFailure (e : AccessError) : Failure := .internal e.message

end AccessError

/-- Reads a scope. -/
def readScope (s : ScopeRef) : Action AccessError World Scope where
  run w := ⟨if (w.scopes s).guard.canRead then .ok (w.scope s) else .error .scopeModified, w, []⟩

/-- Reads a scope in order to change it. -/
def claimScope (s : ScopeRef) : Action AccessError World Scope where
  run w := ⟨if (w.scopes s).guard.canWrite then .ok (w.scope s) else .error .scopeInUse, w, []⟩

/-- Follows a link. -/
def readLink (l : LinkRef) : Action AccessError World (Option StoreRef) where
  run w := ⟨if (w.links l).guard.canRead then .ok (w.linked l) else .error .linkReplaced, w, []⟩

/-- Reads a store. -/
def readStore (g : StoreRef) : Action AccessError World (Table Value) where
  run w := ⟨if (w.stores g).guard.canRead then .ok (w.entries g) else .error .storeModified, w, []⟩

/-- Reads a store in order to change it. -/
def claimStore (g : StoreRef) : Action AccessError World (Table Value) where
  run w := ⟨if (w.stores g).guard.canWrite then .ok (w.entries g) else .error .storeInUse, w, []⟩

/-- Replaces a scope that was claimed. -/
def putScope {ε : Type} (s : ScopeRef) (scope : Scope) : Action ε World Unit :=
  modify fun w => w.setScope s scope

/-- Replaces the entries of a store that was claimed. -/
def putEntries {ε : Type} (g : StoreRef) (entries : Table Value) : Action ε World Unit :=
  modify fun w => w.setEntries g entries

section

variable (w : World) (s : ScopeRef) (l : LinkRef) (g : StoreRef)

@[simp] theorem run_readScope : (readScope s).run w =
    ⟨if (w.scopes s).guard.canRead then .ok (w.scope s) else .error .scopeModified, w, []⟩ := rfl

@[simp] theorem run_claimScope : (claimScope s).run w =
    ⟨if (w.scopes s).guard.canWrite then .ok (w.scope s) else .error .scopeInUse, w, []⟩ := rfl

@[simp] theorem run_readLink : (readLink l).run w =
    ⟨if (w.links l).guard.canRead then .ok (w.linked l) else .error .linkReplaced, w, []⟩ := rfl

@[simp] theorem run_readStore : (readStore g).run w =
    ⟨if (w.stores g).guard.canRead then .ok (w.entries g) else .error .storeModified, w, []⟩ := rfl

@[simp] theorem run_claimStore : (claimStore g).run w =
    ⟨if (w.stores g).guard.canWrite then .ok (w.entries g) else .error .storeInUse, w, []⟩ := rfl

@[simp] theorem run_putScope {ε : Type} (scope : Scope) :
    (putScope s scope : Action ε World Unit).run w = ⟨.ok (), w.setScope s scope, []⟩ := rfl

@[simp] theorem run_putEntries {ε : Type} (entries : Table Value) :
    (putEntries g entries : Action ε World Unit).run w = ⟨.ok (), w.setEntries g entries, []⟩ := rfl

end

/-! ## New cells -/

/-- Makes a store with the given entries. -/
def newStore {ε : Type} (entries : Table Value) : Action ε World StoreRef where
  run w :=
    let g : StoreRef := ⟨w.storeCount⟩
    ⟨.ok g, { w with
      stores := replaceAt w.stores g { content := entries }
      storeCount := w.storeCount + 1 }, []⟩

/-- Makes a link that leads to a store, or to none. -/
def newLink {ε : Type} (store : Option StoreRef) : Action ε World LinkRef where
  run w :=
    let l : LinkRef := ⟨w.linkCount⟩
    ⟨.ok l, { w with
      links := replaceAt w.links l { content := store }
      linkCount := w.linkCount + 1 }, []⟩

/-- Makes a scope without variables on a link. -/
def newScope {ε : Type} (name : String) (link : LinkRef) : Action ε World ScopeRef where
  run w :=
    let s : ScopeRef := ⟨w.scopeCount⟩
    ⟨.ok s, { w with
      scopes := replaceAt w.scopes s { content := ⟨name, .empty, link, 0⟩ }
      scopeCount := w.scopeCount + 1 }, []⟩

/-- Takes a value from the world's supply. -/
def newValue {ε : Type} (make : Supply → Value × Supply) : Action ε World Value where
  run w :=
    let made := make w.supply
    ⟨.ok made.1, { w with supply := made.2 }, []⟩

/-! ## Holding cells -/

/-- A cell that can be held. -/
inductive Resource where
  | scope (s : ScopeRef)
  | link (l : LinkRef)
  | store (g : StoreRef)
  deriving DecidableEq, Repr

namespace World

/-- How a cell is held at the moment. -/
def guardOf (w : World) : Resource → Guard
  | .scope s => (w.scopes s).guard
  | .link l => (w.links l).guard
  | .store g => (w.stores g).guard

/-- Changes how a cell is held. -/
def setGuard (w : World) (guard : Guard) : Resource → World
  | .scope s => { w with scopes := replaceAt w.scopes s { w.scopes s with guard } }
  | .link l => { w with links := replaceAt w.links l { w.links l with guard } }
  | .store g => { w with stores := replaceAt w.stores g { w.stores g with guard } }

end World

/-- Holds a cell, if the callers that hold it already allow that; answers whether they did. -/
def hold {ε : Type} (r : Resource) (mode : Guard.Mode) : Action ε World Bool where
  run w :=
    match (w.guardOf r).acquire? mode with
    | some guard => ⟨.ok true, w.setGuard guard r, []⟩
    | none => ⟨.ok false, w, []⟩

/-- Lets go of a cell. -/
def letGo {ε : Type} (r : Resource) : Action ε World Unit :=
  modify fun w => w.setGuard (w.guardOf r).release r

end ScriptHost
