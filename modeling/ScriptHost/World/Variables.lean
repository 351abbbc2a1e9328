import ScriptHost.Value.Equality
import ScriptHost.World.Basic

/-!
# Variables on two levels

What a scope shows is its locals and, below them, the variables of the store that its link leads to;
a local hides a global of the same name.

* `ScopeRef.resolve` finds a variable and says on which level: its answer is a `Slot`.
* `ScopeRef.set` writes to the level on which the name is found, and makes a local of a name that is
  found nowhere.  So a scope never adds a name to a store.
* `ScopeRef.unset` removes the local if there is one, and otherwise the global; in that case the scope
  gets a new revision.
* `Slot.store` writes to the level of the slot, however much later.

Each operation fails as soon as it meets a cell that is held in its way, and none of them has
changed anything by then.
-/

set_option autoImplicit false

namespace ScriptHost

/-! ## Slots -/

/-- The level on which a variable lives. -/
inductive Level where
  /-- Among the locals of a scope. -/
  | own
  /-- In the store below the scope. -/
  | global
  deriving DecidableEq, Repr

/-- A variable that was found. -/
structure Slot where
  level : Level
  name : String
  /-- The value that the variable had when it was found. -/
  value : Value

namespace Slot

/-- Whether the variable was found among the locals. -/
def isLocal (slot : Slot) : Bool := slot.level = .own

/-- Slots are equal if they agree on level and name and their values are equal. -/
instance : BEq Slot where
  beq slot slot' := slot.level == slot'.level && slot.name == slot'.name && slot.value == slot'.value

/-- Gives the variable another value on the level where it was found, whether it is still there or
not.  For a global this is the store that scope `s` is linked to now. -/
def store (slot : Slot) (s : ScopeRef) (value : Value) : Action AccessError World Unit :=
  match slot.level with
  | .own => do
    let scope ← claimScope s
    putScope s { scope with locals := scope.locals.insert slot.name value }
  | .global => do
    let scope ← readScope s
    match ← readLink scope.link with
    | some g => do
      let entries ← claimStore g
      putEntries g (entries.insert slot.name value)
    | none => throw (.storeDetached slot.name)

end Slot

/-! ## The variables that a scope shows -/

namespace ScopeRef

/-- Finds a variable: among the locals, or else in the store. -/
def resolve (s : ScopeRef) (name : String) : Action AccessError World (Option Slot) := do
  let scope ← readScope s
  match scope.locals.find? name with
  | some value => return some ⟨.own, name, value⟩
  | none =>
    match ← readLink scope.link with
    | none => return none
    | some g => do
      let entries ← readStore g
      return (entries.find? name).map fun value => ⟨.global, name, value⟩

/-- The value of a variable. -/
def get (s : ScopeRef) (name : String) : Action AccessError World (Option Value) := do
  return (← s.resolve name).map Slot.value

/-- Declares a local, which hides any global of the same name.  Answers the local's former value. -/
def define (s : ScopeRef) (name : String) (value : Value) :
    Action AccessError World (Option Value) := do
  let scope ← claimScope s
  putScope s { scope with locals := scope.locals.insert name value }
  return scope.locals.find? name

/-- Gives a variable another value where it is found, or declares a local.  Answers the variable's
former value. -/
def set (s : ScopeRef) (name : String) (value : Value) :
    Action AccessError World (Option Value) := do
  match ← s.resolve name with
  | some slot => do
    slot.store s value
    return some slot.value
  | none => do
    let _ ← s.define name value
    return none

/-- Gives the scope a new revision, because a name is gone from its store. -/
def namespaceChanged (s : ScopeRef) : Action AccessError World Unit := do
  let scope ← claimScope s
  putScope s { scope with revision := scope.revision + 1 }
  Action.emit (.namespaceChanged scope.name (scope.revision + 1))

/-- Removes a variable: the local, or else the global.  Answers its former value. -/
def unset (s : ScopeRef) (name : String) : Action AccessError World (Option Value) := do
  let scope ← claimScope s
  match scope.locals.find? name with
  | some value => do
    putScope s { scope with locals := scope.locals.erase name }
    return some value
  | none =>
    match ← readLink scope.link with
    | none => return none
    | some g => do
      let entries ← claimStore g
      match entries.find? name with
      | none => return none
      | some value => do
        putEntries g (entries.erase name)
        s.namespaceChanged
        return some value

/-- The names of the variables: the locals, and then the globals that no local hides. -/
def names (s : ScopeRef) : Action AccessError World (List String) := do
  let scope ← readScope s
  match ← readLink scope.link with
  | none => return scope.locals.keys
  | some g => do
    let entries ← readStore g
    return scope.locals.keys ++ entries.keys.filter fun name => name ∉ scope.locals.keys

/-! ## The locals alone -/

/-- The value of a local. -/
def getLocal (s : ScopeRef) (name : String) : Action AccessError World (Option Value) := do
  return (← readScope s).locals.find? name

/-- Whether the name is a local. -/
def isLocal (s : ScopeRef) (name : String) : Action AccessError World Bool := do
  return (← readScope s).locals.contains name

/-- The names of the locals. -/
def localNames (s : ScopeRef) : Action AccessError World (List String) := do
  return (← readScope s).locals.keys

/-- Removes a local, and never a global.  Answers its former value. -/
def unsetLocal (s : ScopeRef) (name : String) : Action AccessError World (Option Value) := do
  let scope ← claimScope s
  putScope s { scope with locals := scope.locals.erase name }
  return scope.locals.find? name

end ScopeRef

/-! ## Stores by themselves -/

namespace StoreRef

/-- Gives a name a value in the store.  Answers its former value. -/
def insert (g : StoreRef) (name : String) (value : Value) :
    Action AccessError World (Option Value) := do
  let entries ← claimStore g
  putEntries g (entries.insert name value)
  return entries.find? name

/-- Removes a name from the store.  Answers its value. -/
def remove (g : StoreRef) (name : String) : Action AccessError World (Option Value) := do
  let entries ← claimStore g
  putEntries g (entries.erase name)
  return entries.find? name

end StoreRef

/-! ## Removing a name altogether

A name can be on both levels.  Removing it again and again takes it off one level each time, so the
number of levels that hold it, `World.levels`, bounds how often that can succeed. -/

namespace World

/-- How many levels hold the name, seen from a scope. -/
def levels (w : World) (s : ScopeRef) (name : String) : Nat :=
  (if (w.scope s).locals.contains name then 1 else 0) +
    match w.storeOf s with
    | some g => if (w.entries g).contains name then 1 else 0
    | none => 0

end World

/-- **A removal takes a level away.** -/
theorem ScopeRef.levels_unset_lt {s : ScopeRef} {name : String} {w : World} {value : Value}
    (h : ((s.unset name).run w).result = .ok (some value)) :
    ((s.unset name).run w).state.levels s name < w.levels s name := by
  by_cases hs : (w.scopes s).guard.canWrite
  · cases hl : (w.scope s).locals.find? name with
    | some v =>
      simp [unset, hs, hl, World.levels, World.storeOf, Table.contains]
      exact Nat.lt_add_of_pos_left Nat.one_pos
    | none =>
      by_cases hk : (w.links (w.scope s).link).guard.canRead
      · cases hg : w.linked (w.scope s).link with
        | none => simp [unset, hs, hl, hk, hg] at h
        | some g =>
          by_cases hw : (w.stores g).guard.canWrite
          · cases hv : (w.entries g).find? name with
            | none => simp [unset, hs, hl, hk, hg, hw, hv] at h
            | some v =>
              simp [unset, namespaceChanged, hs, hl, hk, hg, hw, hv, World.levels, World.storeOf,
                Table.contains]
          · simp [unset, hs, hl, hk, hg, hw] at h
      · simp [unset, hs, hl, hk] at h
  · simp [unset, hs] at h

/-- Removes a name until no level holds it any more. -/
def ScopeRef.unsetEverywhere (s : ScopeRef) (name : String) : Action AccessError World Unit where
  run w := go w
where
  /-- Goes on removing from a world in which `World.levels` bounds the number of removals. -/
  go (w : World) : Outcome AccessError World Unit :=
    match h : (s.unset name).run w with
    | ⟨.error e, w', events⟩ => ⟨.error e, w', events⟩
    | ⟨.ok none, w', events⟩ => ⟨.ok (), w', events⟩
    | ⟨.ok (some _), w', events⟩ =>
      have : w'.levels s name < w.levels s name := by
        have lt := levels_unset_lt (congrArg Outcome.result h)
        rwa [h] at lt
      let rest := go w'
      ⟨rest.result, rest.state, events ++ rest.events⟩
  termination_by w.levels s name

end ScriptHost
