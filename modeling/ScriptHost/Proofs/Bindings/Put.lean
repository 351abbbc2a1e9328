import ScriptHost.Proofs.Bindings.Answers
import ScriptHost.Proofs.World.Frame

/-!
# Putting a value

A put is seen by the scope that it is made through, and sometimes by others: a store is shared by
every scope that is linked to it.  `World.Assigned` says what a put does to all of them, in terms of
tables and views alone, and `Bindings.put_law` that this is what a put does when no cell is held.
-/

set_option autoImplicit false

namespace ScriptHost

open Outcome

namespace World

/-- A value that is given to a name through scope `s` lands in a store, and scope `t` shows it from
there. -/
def Reaches (w : World) (s t : ScopeRef) (name : String) : Prop :=
  ¬ w.isLocal s name ∧ ¬ w.isLocal t name ∧
    ∃ g, w.storeOf s = some g ∧ w.storeOf t = some g ∧ (w.entries g).contains name

/-- The world `w'` is `w` after scope `s` was used to give a name a value. -/
structure Assigned (w w' : World) (s : ScopeRef) (name : String) (value : Value) : Prop where
  /-- The scope shows the value. -/
  shown_self : w'.shownValue s name = some value
  /-- A name that was a local or was not shown at all is a local now, in its old place or at the
  end.  No store has changed. -/
  own : w.isLocal s name ∨ w.shownValue s name = none →
    (w'.scope s).locals.entries =
        (if w.isLocal s name then Entries.overwrite name value (w.scope s).locals.entries
        else (w.scope s).locals.entries ++ [(name, value)]) ∧
      ∀ g, w'.entries g = w.entries g
  /-- A name that only the store had has its new value there, in its old place.  No locals and no
  other store have changed. -/
  global : ∀ g, ¬ w.isLocal s name → w.storeOf s = some g → (w.entries g).contains name →
    (w'.entries g).entries = Entries.overwrite name value (w.entries g).entries ∧
      (w'.entries g).keys = (w.entries g).keys ∧
      (∀ g', g' ≠ g → w'.entries g' = w.entries g') ∧
      ∀ t, (w'.scope t).locals = (w.scope t).locals
  /-- Of a scope nothing but its locals has changed, in particular no revision. -/
  scopes : ∀ t, w'.scope t = { w.scope t with locals := (w'.scope t).locals }
  /-- Other scopes have not changed. -/
  elsewhere : ∀ t, t ≠ s → w'.scope t = w.scope t
  links : w'.links = w.links
  guards : ∀ r, w'.guardOf r = w.guardOf r
  /-- What any scope shows under other names has not changed. -/
  others : ∀ t, w'.shownBut t name = w.shownBut t name
  /-- Another scope shows the value if the write reaches it. -/
  reached : ∀ t, t ≠ s → w.Reaches s t name → w'.shownValue t name = some value
  /-- Otherwise it shows what it showed before. -/
  unreached : ∀ t, t ≠ s → ¬ w.Reaches s t name → w'.shownValue t name = w.shownValue t name

end World

namespace World

variable {w : World} {s : ScopeRef} {name : String} {value : Value}

/-- A write to the locals, when the name is one of them or is not shown at all. -/
theorem assigned_define (hhome : w.home? s name = none) :
    w.Assigned (w.define s name value) s name value := by
  have hstays : ∀ t, t ≠ s → (w.define s name value).scope t = w.scope t :=
    fun t ht => scope_setScope_of_ne w s t _ ht
  constructor
  case shown_self => rw [shownValue_define, if_pos ⟨rfl, rfl⟩]
  case own =>
    intro _
    rw [scope_define]
    exact ⟨Table.entries_insert _ name value, fun g => rfl⟩
  case global =>
    exact fun g hlocal hstore hin => absurd hin (not_contains_of_home? hhome hlocal hstore)
  case scopes =>
    intro t
    by_cases ht : t = s
    · rw [ht, scope_define]
    · rw [hstays t ht]
  case elsewhere => exact hstays
  case links => rfl
  case guards => exact fun r => guardOf_setScope w s _ r
  case others => exact fun t => shownBut_define value
  case reached =>
    rintro t - ⟨hlocal, -, g, hstore, -, hin⟩
    exact absurd hin (not_contains_of_home? hhome hlocal hstore)
  case unreached =>
    intro t ht _
    rw [shownValue_define, if_neg fun hc => ht hc.1]

/-- A write to a store, when the name is found there. -/
theorem assigned_setEntries {g : StoreRef} (hhome : w.home? s name = some g) :
    w.Assigned (w.setEntries g ((w.entries g).insert name value)) s name value := by
  obtain ⟨hlocal, hstore, hin⟩ := home?_eq_some_iff.1 hhome
  have hentries := entries_setEntries_self w g ((w.entries g).insert name value)
  constructor
  case shown_self => rw [shownValue_setEntries_insert, if_pos ⟨hstore, hlocal, rfl⟩]
  case own =>
    intro hown
    rw [home?_eq_none_iff.2 hown] at hhome
    exact absurd hhome.symm (Option.some_ne_none g)
  case global =>
    intro g' _ hstore' _
    obtain rfl : g = g' := Option.some_inj.1 (hstore.symm.trans hstore')
    rw [hentries]
    refine ⟨?_, ?_, fun g' hg' => entries_setEntries_of_ne w g g' _ hg', fun t => rfl⟩
    · rw [Table.entries_insert, if_pos hin]
    · rw [Table.keys_insert, if_pos ((Table.mem_keys_iff _ _).2 hin)]
  case scopes => exact fun t => rfl
  case elsewhere => exact fun t _ => rfl
  case links => rfl
  case guards => exact fun r => guardOf_setEntries w g _ r
  case others => exact fun t => shownBut_setEntries_insert g value
  case reached =>
    rintro t - ⟨-, htlocal, g', hs', ht', -⟩
    obtain rfl : g = g' := Option.some_inj.1 (hstore.symm.trans hs')
    rw [shownValue_setEntries_insert, if_pos ⟨ht', eq_false_of_ne_true htlocal, rfl⟩]
  case unreached =>
    intro t _ hreach
    rw [shownValue_setEntries_insert, if_neg]
    rintro ⟨ht, htlocal, -⟩
    exact hreach ⟨by simp [hlocal], by simp [htlocal], g, hstore, ht, hin⟩

theorem assigned_assign : w.Assigned (w.assign s name value) s name value := by
  rw [assign]
  cases hhome : w.home? s name with
  | none => exact assigned_define hhome
  | some g => exact assigned_setEntries hhome

theorem Unguarded.of_assigned {w' : World} (hfree : w.Unguarded)
    (h : w.Assigned w' s name value) : w'.Unguarded :=
  hfree.of_guards h.guards

end World

namespace Bindings

variable (b : Bindings) {w : World} {key : Key} {name : String}

/-- Reading a variable when no cell is held. -/
theorem run_get_of_unguarded (hfree : w.Unguarded) (hkey : key.name? = .ok name) :
    (b.get key).run w = ⟨.ok (w.shownValue b.scope name), w, []⟩ := by
  rw [run_get b w hkey, hfree.readFault]
  rfl

/-- Giving a variable a value when no cell is held. -/
theorem run_put_of_unguarded (hfree : w.Unguarded) (hkey : key.name? = .ok name) (value : Value) :
    (b.put key value).run w =
      ⟨.ok (w.shownValue b.scope name), w.assign b.scope name value, []⟩ := by
  rw [run_put b w hkey, hfree.writeFault]
  rfl

/-- **A put answers what a get would have answered, and a get now answers what was put.**  What else
it does, or does not, to any scope and any store is `World.Assigned`. -/
theorem put_law (hfree : w.Unguarded) (hkey : key.name? = .ok name) (value : Value) :
    ∃ (old : Option Value) (w' : World),
      (b.get key).run w = ⟨.ok old, w, []⟩ ∧
      (b.put key value).run w = ⟨.ok old, w', []⟩ ∧
      (b.get key).run w' = ⟨.ok (some value), w', []⟩ ∧
      w.Assigned w' b.scope name value := by
  have hassigned : w.Assigned (w.assign b.scope name value) b.scope name value :=
    World.assigned_assign
  refine ⟨w.shownValue b.scope name, w.assign b.scope name value,
    run_get_of_unguarded b hfree hkey, run_put_of_unguarded b hfree hkey value, ?_, hassigned⟩
  rw [run_get_of_unguarded b (hfree.of_assigned hassigned) hkey, hassigned.shown_self]

/-- Two scopes over one store: a put through the first one shows in the second one. -/
theorem put_law_shared_store :
    let value : Value := ⟨⟨1⟩, .bool true⟩
    let w : World := { World.empty with
      links := fun _ => { content := some ⟨0⟩ }
      stores := fun _ => { content := .ofList [("x", ⟨⟨0⟩, .unit⟩)] } }
    let w' := ((Bindings.put ⟨⟨0⟩⟩ (.name "x") value).run w).state
    w.Unguarded ∧ w'.shownValue ⟨1⟩ "x" = some value := by
  intro value w w'
  have hfree : w.Unguarded := fun r => by cases r <;> rfl
  obtain ⟨old, after, -, hput, -, hassigned⟩ :=
    @put_law ⟨⟨0⟩⟩ w (.name "x") "x" hfree rfl value
  have hafter : w' = after := congrArg Outcome.state hput
  rw [hafter]
  refine ⟨hfree, hassigned.reached ⟨1⟩ (by decide) ⟨by decide, by decide, ⟨0⟩, rfl, rfl, rfl⟩⟩

end Bindings

end ScriptHost
