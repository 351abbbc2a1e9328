import ScriptHost.World.View

/-!
# What is in the way, and what happens otherwise

An operation on variables goes from cell to cell, and which cells these are depends on where the
name is found.  Here each operation is summed up in one equation.  It has two parts:

* a *fault*, `World.readFault` and the like: the first cell in the way of the operation, if there is
  one.  Then the operation fails, with nothing done;
* what comes of the operation otherwise: its answer, the world afterwards, `World.assign` or
  `World.unassign` for the operations that change one, and its events.

The equations are `ScopeRef.run_get`, `run_names`, `run_define`, `run_set`, `run_unset` and those
for the locals alone.  None of what is proved about variables further on opens an operation again.

**Faults add up.**  `Outcome.barring` makes an outcome wait for a fault, and steps that wait for one
fault each make an operation that waits for the first of them (`Outcome.barring_barring`).
-/

set_option autoImplicit false

namespace ScriptHost

/-! ## Outcomes that wait for a fault -/

namespace Outcome

variable {α β : Type} {w : World}

/-- The outcome `done`, unless there is a fault; that leaves the world as it is. -/
def barring (fault : Option AccessError) (w : World) (done : Outcome AccessError World α) :
    Outcome AccessError World α :=
  match fault with
  | some e => ⟨.error e, w, []⟩
  | none => done

@[simp] theorem barring_none (done : Outcome AccessError World α) :
    barring none w done = done := rfl

@[simp] theorem barring_some (e : AccessError) (done : Outcome AccessError World α) :
    barring (some e) w done = ⟨.error e, w, []⟩ := rfl

/-- The first of two faults is the one that shows. -/
theorem barring_barring (fault fault' : Option AccessError)
    (done : Outcome AccessError World α) :
    barring fault w (barring fault' w done) = barring (fault.or fault') w done := by
  cases fault <;> rfl

/-- A step that needs one thing to be allowed. -/
theorem barring_ite (allowed : Bool) (e : AccessError) (a : α) :
    barring (if allowed then none else some e) w ⟨.ok a, w, []⟩ =
      ⟨if allowed then .ok a else .error e, w, []⟩ := by
  cases allowed <;> rfl

/-- Only what happens without a fault matters. -/
theorem barring_congr {fault : Option AccessError} {done done' : Outcome AccessError World α}
    (h : fault = none → done = done') : barring fault w done = barring fault w done' := by
  cases fault with
  | none => exact h rfl
  | some e => rfl

/-- Going on from a step that has changed nothing. -/
theorem run_bind_of_barring {x : Action AccessError World α} {fault : Option AccessError} {a : α}
    (h : x.run w = barring fault w ⟨.ok a, w, []⟩) (f : α → Action AccessError World β) :
    (x >>= f).run w = barring fault w ((f a).run w) := by
  rw [Action.run_bind, h]
  cases fault <;> rfl

end Outcome

open Outcome

/-! ## Faults -/

namespace World

variable (w : World) (s : ScopeRef) (name : String)

/-- What keeps a caller from reading a scope. -/
def scopeReadFault : Option AccessError :=
  if (w.scopes s).guard.canRead then none else some .scopeModified

/-- What keeps a caller from changing a scope. -/
def scopeWriteFault : Option AccessError :=
  if (w.scopes s).guard.canWrite then none else some .scopeInUse

/-- What keeps a caller from following the link of a scope. -/
def linkFault : Option AccessError :=
  if (w.links (w.scope s).link).guard.canRead then none else some .linkReplaced

/-- What keeps a caller from reading a store. -/
def storeReadFault (g : StoreRef) : Option AccessError :=
  if (w.stores g).guard.canRead then none else some .storeModified

/-- What keeps a caller from changing a store. -/
def storeWriteFault (g : StoreRef) : Option AccessError :=
  if (w.stores g).guard.canWrite then none else some .storeInUse

/-- What keeps a caller from reading the globals of a scope. -/
def globalsReadFault : Option AccessError :=
  (w.linkFault s).or ((w.storeOf s).bind w.storeReadFault)

/-- What keeps a caller from changing the globals of a scope. -/
def globalsWriteFault : Option AccessError :=
  (w.linkFault s).or ((w.storeOf s).bind w.storeWriteFault)

/-- Whether a name is a local of the scope. -/
def isLocal : Bool := (w.scope s).locals.contains name

/-- The store in which a scope finds a name, if it finds the name there and not among its locals. -/
def home? : Option StoreRef :=
  if w.isLocal s name then none else (w.storeOf s).filter fun g => (w.entries g).contains name

/-- The first cell in the way of reading a variable. -/
def readFault : Option AccessError :=
  (w.scopeReadFault s).or (if w.isLocal s name then none else w.globalsReadFault s)

/-- The first cell in the way of giving a variable a value: the variable is looked up, and then
written where it was found, or else to the scope. -/
def writeFault : Option AccessError :=
  (w.readFault s name).or
    (match w.home? s name with
    | some g => w.storeWriteFault g
    | none => w.scopeWriteFault s)

/-- The first cell in the way of removing a variable. -/
def removeFault : Option AccessError :=
  (w.scopeWriteFault s).or (if w.isLocal s name then none else w.globalsWriteFault s)

/-- The first cell in the way of listing the variables. -/
def listFault : Option AccessError := (w.scopeReadFault s).or (w.globalsReadFault s)

/-! ## Effects -/

/-- The variable that a scope shows under a name, with its level. -/
def slot? : Option Slot :=
  match (w.scope s).locals.find? name with
  | some value => some ⟨.own, name, value⟩
  | none => ((w.globals s).find? name).map fun value => ⟨.global, name, value⟩

/-- The world with another local variable, or another value for it. -/
def define (value : Value) : World :=
  w.setScope s { w.scope s with locals := (w.scope s).locals.insert name value }

/-- The world after a variable was given a value. -/
def assign (value : Value) : World :=
  match w.home? s name with
  | some g => w.setEntries g ((w.entries g).insert name value)
  | none => w.define s name value

/-- The world without a local variable. -/
def undefine : World :=
  w.setScope s { w.scope s with locals := (w.scope s).locals.erase name }

/-- The world after a variable was removed. -/
def unassign : World :=
  match w.home? s name with
  | some g =>
    (w.setEntries g ((w.entries g).erase name)).setScope s
      { w.scope s with revision := (w.scope s).revision + 1 }
  | none => if w.isLocal s name then w.undefine s name else w

/-- What is logged when a variable is removed. -/
def unassignEvents : List Event :=
  match w.home? s name with
  | some _ => [.namespaceChanged (w.scope s).name ((w.scope s).revision + 1)]
  | none => []

end World

/-! ### When no cell is held -/

namespace World

/-- No cell is held. -/
def Unguarded (w : World) : Prop := ∀ r : Resource, w.guardOf r = .free

namespace Unguarded

variable {w : World} {s : ScopeRef}

theorem scopeReadFault (h : w.Unguarded) : w.scopeReadFault s = none := by
  rw [World.scopeReadFault, show (w.scopes s).guard = .free from h (.scope s)]
  rfl

theorem scopeWriteFault (h : w.Unguarded) : w.scopeWriteFault s = none := by
  rw [World.scopeWriteFault, show (w.scopes s).guard = .free from h (.scope s)]
  rfl

theorem linkFault (h : w.Unguarded) : w.linkFault s = none := by
  rw [World.linkFault, show (w.links (w.scope s).link).guard = .free from h (.link _)]
  rfl

theorem storeReadFault (h : w.Unguarded) (g : StoreRef) : w.storeReadFault g = none := by
  rw [World.storeReadFault, show (w.stores g).guard = .free from h (.store g)]
  rfl

theorem storeWriteFault (h : w.Unguarded) (g : StoreRef) : w.storeWriteFault g = none := by
  rw [World.storeWriteFault, show (w.stores g).guard = .free from h (.store g)]
  rfl

theorem globalsReadFault (h : w.Unguarded) : w.globalsReadFault s = none := by
  rw [World.globalsReadFault, h.linkFault]
  cases w.storeOf s with
  | none => rfl
  | some g => exact h.storeReadFault g

theorem globalsWriteFault (h : w.Unguarded) : w.globalsWriteFault s = none := by
  rw [World.globalsWriteFault, h.linkFault]
  cases w.storeOf s with
  | none => rfl
  | some g => exact h.storeWriteFault g

theorem readFault (h : w.Unguarded) (name : String) : w.readFault s name = none := by
  rw [World.readFault, h.scopeReadFault, h.globalsReadFault, ite_self, Option.or_none]

theorem writeFault (h : w.Unguarded) (name : String) : w.writeFault s name = none := by
  rw [World.writeFault, h.readFault, Option.none_or]
  cases w.home? s name with
  | none => exact h.scopeWriteFault
  | some g => exact h.storeWriteFault g

theorem removeFault (h : w.Unguarded) (name : String) : w.removeFault s name = none := by
  rw [World.removeFault, h.scopeWriteFault, h.globalsWriteFault, ite_self, Option.or_none]

theorem listFault (h : w.Unguarded) : w.listFault s = none := by
  rw [World.listFault, h.scopeReadFault, h.globalsReadFault]
  rfl

/-- What has changed no guard leaves every cell as free as it was. -/
theorem of_guards {w' : World} (h : w.Unguarded) (hguards : ∀ r, w'.guardOf r = w.guardOf r) :
    w'.Unguarded :=
  fun r => (hguards r).trans (h r)

end Unguarded

end World

section

variable (w : World) (s : ScopeRef) (g : StoreRef)

theorem readScope_eq :
    (readScope s).run w = barring (w.scopeReadFault s) w ⟨.ok (w.scope s), w, []⟩ :=
  (barring_ite _ _ _).symm

theorem claimScope_eq :
    (claimScope s).run w = barring (w.scopeWriteFault s) w ⟨.ok (w.scope s), w, []⟩ :=
  (barring_ite _ _ _).symm

theorem readLink_eq : (readLink (w.scope s).link).run w =
    barring (w.linkFault s) w ⟨.ok (w.storeOf s), w, []⟩ :=
  (barring_ite _ _ _).symm

theorem readStore_eq :
    (readStore g).run w = barring (w.storeReadFault g) w ⟨.ok (w.entries g), w, []⟩ :=
  (barring_ite _ _ _).symm

theorem claimStore_eq :
    (claimStore g).run w = barring (w.storeWriteFault g) w ⟨.ok (w.entries g), w, []⟩ :=
  (barring_ite _ _ _).symm

end

/-! ## Where a name is found -/

namespace World

variable {w : World} {s : ScopeRef} {name : String} {g : StoreRef}

theorem isLocal_of_find? {value : Value} (h : (w.scope s).locals.find? name = some value) :
    w.isLocal s name = true := by
  rw [isLocal, Table.contains, h]
  rfl

theorem find?_eq_none (h : w.isLocal s name = false) : (w.scope s).locals.find? name = none := by
  rw [isLocal, Table.contains] at h
  exact Option.isNone_iff_eq_none.1 (Option.isSome_eq_false_iff.1 h)

theorem home?_eq_some_iff : w.home? s name = some g ↔
    w.isLocal s name = false ∧ w.storeOf s = some g ∧ (w.entries g).contains name = true := by
  rw [home?]
  split
  · next h => simp [h]
  · next h => simp [h, Option.filter_eq_some_iff]

theorem home?_of_isLocal (h : w.isLocal s name = true) : w.home? s name = none := if_pos h

/-- What is found is what is shown. -/
theorem map_value_slot? : (w.slot? s name).map Slot.value = w.shownValue s name := by
  rw [slot?, shownValue]
  cases (w.scope s).locals.find? name with
  | some value => rfl
  | none => cases (w.globals s).find? name <;> rfl

/-- The place where a scope finds a name, and what follows from it. -/
inductive Place (w : World) (s : ScopeRef) (name : String) : Prop
  /-- The name is a local. -/
  | own (value : Value) (hlocal : w.isLocal s name = true)
      (hfind : (w.scope s).locals.find? name = some value) (hhome : w.home? s name = none)
      (hslot : w.slot? s name = some ⟨.own, name, value⟩)
  /-- The name is no local, and the store has it. -/
  | global (g : StoreRef) (value : Value) (hlocal : w.isLocal s name = false)
      (hstore : w.storeOf s = some g) (hfind : (w.entries g).find? name = some value)
      (hhome : w.home? s name = some g) (hslot : w.slot? s name = some ⟨.global, name, value⟩)
  /-- The name is neither a local nor in the store, if there is a store at all. -/
  | nowhere (hlocal : w.isLocal s name = false) (hfind : (w.globals s).find? name = none)
      (hhome : w.home? s name = none) (hslot : w.slot? s name = none)

theorem place (w : World) (s : ScopeRef) (name : String) : w.Place s name := by
  cases hl : (w.scope s).locals.find? name with
  | some value =>
    have hlocal := isLocal_of_find? hl
    exact .own value hlocal hl (home?_of_isLocal hlocal) (by rw [slot?, hl])
  | none =>
    have hlocal : w.isLocal s name = false := by rw [isLocal, Table.contains, hl]; rfl
    have hslot : w.slot? s name =
        ((w.globals s).find? name).map fun value => ⟨.global, name, value⟩ := by
      rw [slot?, hl]
    cases hg : w.storeOf s with
    | none =>
      have hfind : (w.globals s).find? name = none := by rw [globals, hg]; rfl
      refine .nowhere hlocal hfind ?_ (by rw [hslot, hfind]; rfl)
      rw [home?, hg, hlocal]
      rfl
    | some g =>
      have hglobals : w.globals s = w.entries g := by rw [globals, hg]
      rw [hglobals] at hslot
      cases hv : (w.entries g).find? name with
      | none =>
        refine .nowhere hlocal (by rw [hglobals, hv]) ?_ (by rw [hslot, hv]; rfl)
        rw [home?, hg, hlocal, if_neg Bool.false_ne_true, Option.filter_some, Table.contains, hv]
        rfl
      | some value =>
        refine .global g value hlocal hg hv (home?_eq_some_iff.2 ⟨hlocal, hg, ?_⟩)
          (by rw [hslot, hv]; rfl)
        rw [Table.contains, hv]
        rfl

/-- A name that is not found in a store is a local or is not shown at all. -/
theorem home?_eq_none_iff : w.home? s name = none ↔
    w.isLocal s name ∨ w.shownValue s name = none := by
  rw [← map_value_slot?, Option.map_eq_none_iff]
  cases w.place s name with
  | own value hlocal _ hhome _ => exact iff_of_true hhome (.inl hlocal)
  | global g value hlocal _ _ hhome hslot => simp [hhome, hlocal, hslot]
  | nowhere _ _ hhome hslot => exact iff_of_true hhome (.inr hslot)

/-- A name that is not found in a store is no global that could have been found. -/
theorem not_contains_of_home? (hhome : w.home? s name = none) (hlocal : ¬ w.isLocal s name)
    (hstore : w.storeOf s = some g) : ¬ (w.entries g).contains name := fun hin => by
  rw [home?_eq_some_iff.2 ⟨eq_false_of_ne_true hlocal, hstore, hin⟩] at hhome
  exact Option.some_ne_none g hhome

end World

/-! ## The operations -/

section

variable (w : World) (s : ScopeRef) (name : String)

theorem ScopeRef.run_resolve : (s.resolve name).run w =
    barring (w.readFault s name) w ⟨.ok (w.slot? s name), w, []⟩ := by
  rw [resolve, run_bind_of_barring (readScope_eq w s), World.readFault, ← barring_barring]
  congr 1
  cases hf : (w.scope s).locals.find? name with
  | some value =>
    rw [if_pos (World.isLocal_of_find? hf), World.slot?, hf]
    rfl
  | none =>
    have hlocal : w.isLocal s name = false := by rw [World.isLocal, Table.contains, hf]; rfl
    simp only
    rw [hlocal, if_neg Bool.false_ne_true, World.globalsReadFault, ← barring_barring,
      run_bind_of_barring (readLink_eq w s), World.slot?, hf, World.globals]
    congr 1
    cases w.storeOf s with
    | none => rfl
    | some g => exact run_bind_of_barring (readStore_eq w g) _

theorem ScopeRef.run_get : (s.get name).run w =
    barring (w.readFault s name) w ⟨.ok (w.shownValue s name), w, []⟩ := by
  rw [get, run_bind_of_barring (run_resolve w s name), ← World.map_value_slot?]
  rfl

theorem ScopeRef.run_names : s.names.run w =
    barring (w.listFault s) w ⟨.ok ((w.shown s).map Prod.fst), w, []⟩ := by
  rw [names, run_bind_of_barring (readScope_eq w s), run_bind_of_barring (readLink_eq w s),
    World.listFault, World.globalsReadFault, ← barring_barring, ← barring_barring,
    World.keys_shown, World.globals]
  congr 2
  cases w.storeOf s with
  | none =>
    simp only [Table.keys_empty, List.filter_nil, List.append_nil]
    rfl
  | some g => exact run_bind_of_barring (readStore_eq w g) _

/-! ### Writing -/

theorem ScopeRef.run_define (value : Value) : (s.define name value).run w =
    barring (w.scopeWriteFault s) w
      ⟨.ok ((w.scope s).locals.find? name), w.define s name value, []⟩ := by
  rw [define, run_bind_of_barring (claimScope_eq w s)]
  rfl

theorem Slot.run_store_own {slot : Slot} (h : slot.level = .own) (value : Value) :
    (slot.store s value).run w =
      barring (w.scopeWriteFault s) w ⟨.ok (), w.define s slot.name value, []⟩ := by
  rw [store, h]
  simp only
  rw [run_bind_of_barring (claimScope_eq w s)]
  rfl

theorem Slot.run_store_global {slot : Slot} (h : slot.level = .global) {g : StoreRef}
    (hg : w.storeOf s = some g) (value : Value) :
    (slot.store s value).run w =
      barring ((w.scopeReadFault s).or ((w.linkFault s).or (w.storeWriteFault g))) w
        ⟨.ok (), w.setEntries g ((w.entries g).insert slot.name value), []⟩ := by
  rw [store, h]
  simp only
  rw [run_bind_of_barring (readScope_eq w s), run_bind_of_barring (readLink_eq w s), hg,
    ← barring_barring, ← barring_barring]
  congr 2
  exact run_bind_of_barring (claimStore_eq w g) _

/-- A variable is written where it was found; if nothing was in the way of finding it, only the cell
that is written can be in the way. -/
theorem ScopeRef.run_set (value : Value) : (s.set name value).run w =
    barring (w.writeFault s name) w
      ⟨.ok (w.shownValue s name), w.assign s name value, []⟩ := by
  rw [set, run_bind_of_barring (run_resolve w s name), World.writeFault, ← barring_barring,
    ← World.map_value_slot?, World.assign]
  refine barring_congr fun hread => ?_
  cases w.place s name with
  | own old hlocal hfind hhome hslot =>
    rw [hslot, hhome]
    simp only
    rw [Action.run_bind, Slot.run_store_own w s rfl]
    cases w.scopeWriteFault s <;> rfl
  | global g old hlocal hstore hfind hhome hslot =>
    rw [World.readFault, hlocal, if_neg Bool.false_ne_true, World.globalsReadFault,
      Option.or_eq_none_iff, Option.or_eq_none_iff] at hread
    rw [hslot, hhome]
    simp only
    rw [Action.run_bind, Slot.run_store_global w s rfl hstore, hread.1, hread.2.1]
    cases hw : w.storeWriteFault g <;> rfl
  | nowhere hlocal hfind hhome hslot =>
    rw [hslot, hhome]
    simp only
    rw [Action.run_bind, run_define]
    cases w.scopeWriteFault s <;> rfl

/-! ### Removing -/

theorem ScopeRef.run_namespaceChanged : s.namespaceChanged.run w =
    barring (w.scopeWriteFault s) w
      ⟨.ok (), w.setScope s { w.scope s with revision := (w.scope s).revision + 1 },
        [.namespaceChanged (w.scope s).name ((w.scope s).revision + 1)]⟩ := by
  rw [namespaceChanged, run_bind_of_barring (claimScope_eq w s)]
  rfl

theorem ScopeRef.run_unset : (s.unset name).run w =
    barring (w.removeFault s name) w
      ⟨.ok (w.shownValue s name), w.unassign s name, w.unassignEvents s name⟩ := by
  rw [unset, run_bind_of_barring (claimScope_eq w s), World.removeFault, ← barring_barring,
    ← World.map_value_slot?, World.unassign, World.unassignEvents]
  refine barring_congr fun hclaim => ?_
  cases w.place s name with
  | own old hlocal hfind hhome hslot =>
    rw [hfind, hhome, hslot, hlocal]
    rfl
  | global g old hlocal hstore hfind hhome hslot =>
    rw [World.find?_eq_none hlocal, hhome, hslot, hlocal, if_neg Bool.false_ne_true,
      World.globalsWriteFault, hstore, ← barring_barring]
    simp only
    rw [run_bind_of_barring (readLink_eq w s), hstore]
    congr 1
    simp only
    rw [run_bind_of_barring (claimStore_eq w g), hfind]
    -- the scope is claimed once more, and its guard is still the same
    have hagain : (w.setEntries g ((w.entries g).erase name)).scopeWriteFault s = none := hclaim
    congr 1
    simp only [Action.run_bind, run_putEntries, Action.andThen_ok, run_namespaceChanged, hagain,
      barring_none, Action.run_pure, World.scope_setEntries]
    rfl
  | nowhere hlocal hfind hhome hslot =>
    rw [World.find?_eq_none hlocal, hhome, hslot, hlocal, if_neg Bool.false_ne_true,
      World.globalsWriteFault, ← barring_barring]
    simp only
    rw [run_bind_of_barring (readLink_eq w s)]
    congr 1
    cases hstore : w.storeOf s with
    | none => rfl
    | some g =>
      rw [World.globals, hstore] at hfind
      simp only at hfind ⊢
      rw [run_bind_of_barring (claimStore_eq w g), hfind]
      rfl

/-! ### The locals alone -/

theorem ScopeRef.run_getLocal : (s.getLocal name).run w =
    barring (w.scopeReadFault s) w ⟨.ok ((w.scope s).locals.find? name), w, []⟩ := by
  rw [getLocal, run_bind_of_barring (readScope_eq w s)]
  rfl

theorem ScopeRef.run_isLocal : (s.isLocal name).run w =
    barring (w.scopeReadFault s) w ⟨.ok (w.isLocal s name), w, []⟩ := by
  rw [isLocal, run_bind_of_barring (readScope_eq w s)]
  rfl

theorem ScopeRef.run_localNames : s.localNames.run w =
    barring (w.scopeReadFault s) w ⟨.ok (w.scope s).locals.keys, w, []⟩ := by
  rw [localNames, run_bind_of_barring (readScope_eq w s)]
  rfl

theorem ScopeRef.run_unsetLocal : (s.unsetLocal name).run w =
    barring (w.scopeWriteFault s) w
      ⟨.ok ((w.scope s).locals.find? name), w.undefine s name, []⟩ := by
  rw [unsetLocal, run_bind_of_barring (claimScope_eq w s)]
  rfl

end

end ScriptHost
