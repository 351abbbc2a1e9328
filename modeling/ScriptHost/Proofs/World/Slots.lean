import ScriptHost.Proofs.Bindings.Put
import ScriptHost.Proofs.World.Moves

/-!
# Slots that are used late

A slot says where a variable was found.  It is a copy, and by the time that somebody stores a value
through it the variable may be removed or hidden, and the scope may be linked to another store or to
none.  The level is all that counts then: a slot from the locals writes to the locals, and a slot
from a store writes to the store that is below the scope now.

* `World.Declared`, `World.Written` — what a write on either level changes, and that it changes
  nothing else.  A name that is gone comes back as the last one.
* `Slot.store_law` — which of the two comes of storing through a slot, whatever has happened since
  the slot was found.
-/

set_option autoImplicit false

namespace ScriptHost

namespace World

variable {w w' : World} {s t : ScopeRef} {g : StoreRef} {name : String} {value : Value}

/-- The world `w'` is `w` after a local of scope `t` was given a value, or was declared. -/
structure Declared (w w' : World) (t : ScopeRef) (name : String) (value : Value) : Prop where
  locals : (w'.scope t).locals.entries =
    if w.isLocal t name then Entries.overwrite name value (w.scope t).locals.entries
    else (w.scope t).locals.entries ++ [(name, value)]
  /-- Of the scope nothing but its locals has changed. -/
  scope : w'.scope t = { w.scope t with locals := (w'.scope t).locals }
  elsewhere : ∀ s, s ≠ t → w'.scopes s = w.scopes s
  /-- Nothing but scopes has changed, in particular no store. -/
  rest : w' = { w with scopes := w'.scopes }
  guards : ∀ r, w'.guardOf r = w.guardOf r

theorem declared_define : w.Declared (w.define t name value) t name value where
  locals := by
    rw [scope_define]
    exact Table.entries_insert _ name value
  scope := by rw [scope_define]
  elsewhere _ hs := replaceAt_of_ne _ _ hs
  rest := rfl
  guards r := guardOf_setScope w t _ r

/-- The world `w'` is `w` after a name was given a value in a store, or was added to it. -/
structure Written (w w' : World) (g : StoreRef) (name : String) (value : Value) : Prop where
  entries : (w'.entries g).entries =
    if (w.entries g).contains name then Entries.overwrite name value (w.entries g).entries
    else (w.entries g).entries ++ [(name, value)]
  elsewhere : ∀ g', g' ≠ g → w'.stores g' = w.stores g'
  /-- Nothing but stores has changed, in particular no scope. -/
  rest : w' = { w with stores := w'.stores }
  guards : ∀ r, w'.guardOf r = w.guardOf r
  /-- A scope over the store shows the value, unless a local hides it. -/
  shown : ∀ s, w.storeOf s = some g → w.isLocal s name = false →
    w'.shownValue s name = some value
  /-- Another scope, and a scope with a local of the name, shows what it showed before. -/
  hidden : ∀ s, w.storeOf s ≠ some g ∨ w.isLocal s name = true →
    w'.shownValue s name = w.shownValue s name

theorem written_setEntries :
    w.Written (w.setEntries g ((w.entries g).insert name value)) g name value where
  entries := by
    rw [entries_setEntries_self]
    exact Table.entries_insert _ name value
  elsewhere _ hg := replaceAt_of_ne _ _ hg
  rest := rfl
  guards r := guardOf_setEntries w g _ r
  shown s hs hlocal := by rw [shownValue_setEntries_insert, if_pos ⟨hs, hlocal, rfl⟩]
  hidden s hs := by
    rw [shownValue_setEntries_insert, if_neg]
    rintro ⟨hstore, hlocal, -⟩
    rcases hs with hs | hs
    · exact hs hstore
    · rw [hs] at hlocal
      exact absurd hlocal.symm Bool.false_ne_true

end World

/-! ## What a slot says -/

/-- A slot that was found has the name that was looked for, and is local exactly if a local of that
name was there. -/
theorem ScopeRef.slot_of_resolve {w : World} {s : ScopeRef} {name : String} {slot : Slot}
    (h : ((s.resolve name).run w).result = .ok (some slot)) :
    slot.name = name ∧ slot.isLocal = w.isLocal s name := by
  have hslot : w.slot? s name = some slot := by
    rw [run_resolve] at h
    cases hfault : w.readFault s name with
    | some e =>
      rw [hfault] at h
      exact nomatch h
    | none =>
      rw [hfault] at h
      exact Except.ok.inj h
  cases w.place s name with
  | own value hlocal hfind hhome hown =>
    cases hown.symm.trans hslot
    exact ⟨rfl, hlocal.symm⟩
  | global g value hlocal hstore hfind hhome hglobal =>
    cases hglobal.symm.trans hslot
    exact ⟨rfl, hlocal.symm⟩
  | nowhere hlocal hfind hhome hnone => exact absurd (hnone.symm.trans hslot) nofun

namespace Slot

theorem level_of_isLocal {slot : Slot} {own : Bool} (h : slot.isLocal = own) :
    slot.level = if own then .own else .global := by
  subst h
  rw [isLocal]
  cases slot.level <;> rfl

/-! ## Storing when no cell is held -/

section

variable {slot : Slot} {w : World} {t : ScopeRef} {g : StoreRef} (hfree : w.Unguarded)

include hfree

theorem run_store_own_of_unguarded (h : slot.level = .own) (value : Value) :
    (slot.store t value).run w = ⟨.ok (), w.define t slot.name value, []⟩ := by
  rw [run_store_own w t h, hfree.scopeWriteFault]
  rfl

theorem run_store_global_of_unguarded (h : slot.level = .global) (hstore : w.storeOf t = some g)
    (value : Value) : (slot.store t value).run w =
      ⟨.ok (), w.setEntries g ((w.entries g).insert slot.name value), []⟩ := by
  rw [run_store_global w t h hstore, hfree.scopeReadFault, hfree.linkFault, hfree.storeWriteFault]
  rfl

theorem run_store_detached_of_unguarded (h : slot.level = .global) (hstore : w.storeOf t = none)
    (value : Value) : (slot.store t value).run w =
      ⟨.error (.storeDetached slot.name), w, []⟩ := by
  rw [run_store_detached w t h hstore, hfree.scopeReadFault, hfree.linkFault]
  rfl

end

/-- **A slot is bound to a level, not to a place.**  Whatever has happened since a slot was found, a
value that is stored through it lands on the slot's level.  A slot from the locals of any scope makes
a local of scope `t`, or gives it the value.  A slot from a store writes to the store that is below
scope `t` now, and fails with an internal failure, and does nothing, if there is none; the scopes
stay as they are, so `t` shows the value unless it has a local of the name. -/
theorem store_law {w : World} {s : ScopeRef} {name : String} {slot : Slot}
    (hfound : ((s.resolve name).run w).result = .ok (some slot)) (moves : List World.Move)
    (hfree : (w.afterMoves moves).Unguarded) (t : ScopeRef) (value : Value) :
    let now := w.afterMoves moves
    let done := (slot.store t value).run now
    let get := (Bindings.mk t).get (.name name)
    slot.isLocal = w.isLocal s name ∧
    (slot.isLocal = true →
      ∃ w', done = ⟨.ok (), w', []⟩ ∧ now.Declared w' t name value) ∧
    (slot.isLocal = false →
      (∀ g, now.storeOf t = some g → ∃ w', done = ⟨.ok (), w', []⟩ ∧ now.Written w' g name value ∧
        (now.isLocal t name = false → get.run w' = ⟨.ok (some value), w', []⟩) ∧
        (now.isLocal t name = true →
          ∃ old, get.run now = ⟨.ok old, now, []⟩ ∧ get.run w' = ⟨.ok old, w', []⟩)) ∧
      (now.storeOf t = none → done = ⟨.error (.storeDetached name), now, []⟩ ∧
        (AccessError.storeDetached name).toFailure.head.kind = .internal)) := by
  intro now done get
  obtain ⟨rfl, hlevel⟩ := ScopeRef.slot_of_resolve hfound
  refine ⟨hlevel, fun hown => ?_, fun hglobal => ⟨fun g hg => ?_, fun hnone => ?_⟩⟩
  · exact ⟨_, run_store_own_of_unguarded hfree (level_of_isLocal hown) value,
      World.declared_define⟩
  · have hwritten : now.Written _ g slot.name value := World.written_setEntries
    have hfree' := hfree.of_guards hwritten.guards
    refine ⟨_, run_store_global_of_unguarded hfree (level_of_isLocal hglobal) hg value, hwritten,
      fun hlocal => ?_, fun hlocal => ⟨now.shownValue t slot.name, ?_, ?_⟩⟩
    · rw [← hwritten.shown t hg hlocal]
      exact Bindings.run_get_of_unguarded ⟨t⟩ hfree' rfl
    · exact Bindings.run_get_of_unguarded ⟨t⟩ hfree rfl
    · rw [← hwritten.hidden t (.inr hlocal)]
      exact Bindings.run_get_of_unguarded ⟨t⟩ hfree' rfl
  · exact ⟨run_store_detached_of_unguarded hfree (level_of_isLocal hglobal) hnone value, rfl⟩

/-- A variable is found in a store.  Then its context goes over to another store, and the first store
loses the variable.  What is stored through the slot is added to the other store. -/
theorem store_law_swapped_store :
    let old : Value := ⟨⟨0⟩, .unit⟩
    let new : Value := ⟨⟨1⟩, .bool true⟩
    let c : Context String String :=
      { settings := {}, link := ⟨0⟩, scope := ⟨0⟩, stdout := .new "" .utf8, stderr := .new "" .utf8 }
    let w : World := { World.empty with
      scopeCount := 1
      links := fun _ => { content := some ⟨0⟩ }
      stores := fun g => { content := .ofList [(if g = ⟨0⟩ then "x" else "y", old)] } }
    let slot : Slot := ⟨.global, "x", old⟩
    let moves : List World.Move :=
      [.step (.setGlobalStore c (some ⟨1⟩)), .step (.remove ⟨0⟩ "x"), .access ⟨0⟩ (.get "y")]
    let done := (slot.store ⟨0⟩ new).run (w.afterMoves moves)
    ((ScopeRef.resolve ⟨0⟩ "x").run w).result = .ok (some slot) ∧
      (w.afterMoves moves).Unguarded ∧
      done.result = .ok () ∧ (done.state.entries ⟨1⟩).entries = [("y", old), ("x", new)] ∧
      done.state.stores ⟨0⟩ = (w.afterMoves moves).stores ⟨0⟩ := by
  intro old new c w slot moves done
  have hfound : ((ScopeRef.resolve ⟨0⟩ "x").run w).result = .ok (some slot) := rfl
  have hfree : (w.afterMoves moves).Unguarded := by
    rintro (s | l | g)
    · rfl
    · by_cases hl : l = ⟨0⟩
      · subst hl; rfl
      · exact congrArg Cell.guard (replaceAt_of_ne _ _ hl)
    · by_cases hg : g = ⟨0⟩
      · subst hg; rfl
      · exact congrArg Cell.guard (replaceAt_of_ne _ _ hg)
  obtain ⟨-, -, hglobal⟩ := store_law hfound moves hfree ⟨0⟩ new
  obtain ⟨w', hdone, hwritten, -⟩ := (hglobal rfl).1 ⟨1⟩ rfl
  have hafter : done.state = w' := congrArg Outcome.state hdone
  rw [hafter]
  exact ⟨hfound, hfree, congrArg Outcome.result hdone, hwritten.entries,
    hwritten.elsewhere ⟨0⟩ (by decide)⟩

end Slot

end ScriptHost
