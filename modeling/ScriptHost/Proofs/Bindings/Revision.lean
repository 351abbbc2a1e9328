import ScriptHost.Proofs.Bindings.Interruption
import ScriptHost.Proofs.World.Shrinking

/-!
# What operations do to a revision

A removal from a store bumps the revision of the scope in a step of its own, when the name is gone,
and clearing does so any number of times.  Here is what that comes to for a whole operation.

* `World.Balanced` — revision and number of globals have the same sum before and after.  This holds
  across each write through a scope, and so across everything that goes through bindings.
* `World.Bumped` — the revision has gone up by a number, and the events say each revision on the
  way.  What neither removes nor clears bumps the revision by nothing, and what fails does not
  either.

With the first the number is known: it is that of the globals that are gone.
-/

set_option autoImplicit false

namespace ScriptHost

open ScriptHost.Action Outcome

/-- The event says that a name is gone from a store. -/
def Event.isNamespaceChanged : Event → Bool
  | .namespaceChanged .. => true
  | _ => false

theorem Table.length_keys {α : Type} (t : Table α) : t.keys.length = t.size := List.length_map _

/-! ## Revision and number of globals -/

namespace World

variable {w w' : World} {s : ScopeRef} {g : StoreRef} {name : String}

/-- The revision of scope `s` and the number of its globals have the same sum in both worlds. -/
def Balanced (s : ScopeRef) (w w' : World) : Prop :=
  (w'.scope s).revision + (w'.globals s).size = (w.scope s).revision + (w.globals s).size

instance (s : ScopeRef) : IsPreorder World (Balanced s) where
  refl _ := rfl
  trans _ _ _ h h' := h'.trans h

theorem balanced_define (w : World) (s : ScopeRef) (name : String) (value : Value) :
    Balanced s w (w.define s name value) := by
  rw [Balanced, scope_define, globals_define]

theorem balanced_undefine (w : World) (s : ScopeRef) (name : String) :
    Balanced s w (w.undefine s name) := by
  rw [Balanced, scope_undefine, globals_undefine]

/-- A value that replaces another one in the store. -/
theorem balanced_insert_home (hhome : w.home? s name = some g) (value : Value) :
    Balanced s w (w.setEntries g ((w.entries g).insert name value)) := by
  obtain ⟨-, hstore, hin⟩ := home?_eq_some_iff.1 hhome
  rw [Balanced, globals_setEntries, if_pos hstore, globals, hstore, ← Table.length_keys,
    ← Table.length_keys, Table.keys_insert, if_pos ((Table.mem_keys_iff _ _).2 hin)]
  rfl

theorem scope_unassign_home (hhome : w.home? s name = some g) : (w.unassign s name).scope s =
    { w.scope s with revision := (w.scope s).revision + 1 } := by
  rw [unassign, hhome]
  exact scope_setScope_self _ s _

/-- The name is gone, and the revision is the next one. -/
theorem balanced_unassign_home (hhome : w.home? s name = some g) :
    Balanced s w (w.unassign s name) := by
  obtain ⟨-, hstore, hin⟩ := home?_eq_some_iff.1 hhome
  have hglobals : (w.unassign s name).globals s = (w.entries g).erase name := by
    rw [unassign, hhome]
    refine (globals_setScope (by rfl)).trans ?_
    rw [globals_setEntries, if_pos hstore]
  have hsize := Table.size_erase hin
  rw [Balanced, scope_unassign_home hhome, hglobals, globals, hstore, ← hsize]
  exact Nat.add_right_comm _ _ _

theorem acrossWrites_balanced (s : ScopeRef) : AcrossWrites (Balanced s) s where
  assign w name value := by
    rw [assign]
    cases hhome : w.home? s name with
    | some g => exact balanced_insert_home hhome value
    | none => exact balanced_define w s name value
  unassign w name := by
    cases hhome : w.home? s name with
    | some g => exact balanced_unassign_home hhome
    | none =>
      rw [unassign, hhome]
      simp only
      split
      · exact balanced_undefine w s name
      · exact refl w
  undefine w name := balanced_undefine w s name

/-- **Whatever is done through bindings, each global that goes makes a revision.** -/
theorem balanced_operate (b : Bindings) (op : Bindings.Operation) :
    Keeps (Balanced b.scope) (b.operate op) :=
  b.keeps_operate (acrossWrites_balanced b.scope) op
    fun name value _ w => balanced_define w b.scope name value

end World

/-! ## Revision and events -/

/-- The revision of scope `s` has gone up by `n`, and the events say each revision on the way. -/
structure World.Bumped (s : ScopeRef) (n : Nat) (w w' : World) (events : List Event) : Prop where
  scopeName : (w'.scope s).name = (w.scope s).name
  revision : (w'.scope s).revision = (w.scope s).revision + n
  events : events.filter Event.isNamespaceChanged =
    (List.range' ((w.scope s).revision + 1) n).map (.namespaceChanged (w.scope s).name)

namespace World.Bumped

variable {s : ScopeRef} {w w' w'' : World} {events events' : List Event} {n n' : Nat}

/-- Nothing of the scope but its variables has changed, and the events are about something else. -/
theorem zero (hscope : w'.scope s = { w.scope s with locals := (w'.scope s).locals })
    (hevents : events.filter Event.isNamespaceChanged = []) : Bumped s 0 w w' events where
  scopeName := by rw [hscope]
  revision := by rw [hscope, Nat.add_zero]
  events := hevents

theorem unchanged : Bumped s 0 w w [] := zero rfl rfl

theorem append (h : Bumped s n w w' events) (h' : Bumped s n' w' w'' events') :
    Bumped s (n + n') w w'' (events ++ events') where
  scopeName := h'.scopeName.trans h.scopeName
  revision := by rw [h'.revision, h.revision, Nat.add_assoc]
  events := by
    -- the later events go on where the earlier ones have stopped
    rw [List.filter_append, h.events, h'.events, h.scopeName, h.revision, ← List.map_append,
      Nat.add_right_comm, List.range'_append_1]

/-- What bumps the revision by nothing need not succeed for that. -/
theorem exists_of_zero {ok : Prop} (h : Bumped s 0 w w' events) :
    ∃ n, Bumped s n w w' events ∧ (n ≠ 0 → ok) :=
  ⟨0, h, fun hne => absurd rfl hne⟩

end World.Bumped

namespace Outcome

variable {ε α β : Type} {s : ScopeRef} {w : World} {n : Nat}

/-- What comes of an operation has bumped the revision of scope `s` so often. -/
abbrev Bumps (o : Outcome ε World α) (s : ScopeRef) (w : World) (n : Nat) : Prop :=
  World.Bumped s n w o.state o.events

/-- A fault keeps the revision, too. -/
theorem bumps_attempted {attempt : Attempt} {name : String} {fault : Option AccessError}
    {done : Outcome BindingError World α} (h : done.Bumps s w 0) :
    (attempted attempt name fault w done).Bumps s w 0 := by
  cases fault with
  | none => exact h
  | some e => exact .zero rfl rfl

theorem bumps_andThen {o : Outcome ε World α} {f : α → Action ε World β} (h : o.Bumps s w 0)
    (hnext : ∀ a, ((f a).run o.state).Bumps s o.state 0) : (o.andThen f).Bumps s w 0 := by
  obtain ⟨_ | a, w', events⟩ := o
  · exact h
  · exact h.append (hnext a)

/-- An operation on the variable that a key stands for. -/
theorem bumps_keyed {key : Key} {f : String → Action BindingError World α}
    (h : ∀ name, ((f name).run w).Bumps s w 0) :
    ((Action.ofExcept key.name? >>= f).run w).Bumps s w 0 :=
  bumps_andThen .unchanged h

end Outcome

/-! ### Operations -/

namespace Bindings

variable (b : Bindings) (w : World)

theorem bumps_put (key : Key) (value : Value) : ((b.put key value).run w).Bumps b.scope w 0 := by
  refine bumps_keyed fun name => ?_
  rw [run_attempting (ScopeRef.run_set w b.scope name value)]
  have hassigned : w.Assigned (w.assign b.scope name value) b.scope name value :=
    World.assigned_assign
  exact bumps_attempted (.zero (hassigned.scopes b.scope) rfl)

theorem bumps_putAll (entries : List (Key × Value)) :
    ((b.putAll entries).run w).Bumps b.scope w 0 := by
  induction entries generalizing w with
  | nil => exact .unchanged
  | cons entry rest ih => exact bumps_andThen (b.bumps_put w entry.1 entry.2) fun _ => ih _

/-- A request that is no removal, or the removal of a local, keeps the revision. -/
theorem bumps_perform {r : Request} (hr : ∀ key, r ≠ .remove key) :
    ((b.perform r).run w).Bumps b.scope w 0 := by
  cases r with
  | get key => exact bumps_keyed fun name => run_lookup b w name ▸ bumps_attempted .unchanged
  | put key value => exact b.bumps_put w key value
  | remove key => exact absurd rfl (hr key)
  | keys => exact run_keys b w ▸ bumps_attempted .unchanged
  | size => exact run_size b w ▸ bumps_attempted .unchanged
  | isEmpty => exact run_isEmpty b w ▸ bumps_attempted .unchanged
  | values => exact run_values b w ▸ bumps_attempted .unchanged
  | entries => exact run_entries b w ▸ bumps_attempted .unchanged
  | containsValue value => exact run_containsValue b w value ▸ bumps_attempted .unchanged
  | containsKey key =>
    rw [perform]
    cases hkey : key.name? with
    | ok name => exact run_containsKey b w hkey ▸ bumps_attempted .unchanged
    | error e =>
      rw [containsKey, hkey]
      exact .unchanged
  | localKeys => exact run_localKeys b w ▸ bumps_attempted .unchanged
  | getLocal name => exact run_getLocal b w name ▸ bumps_attempted .unchanged
  | isLocal name => exact run_isLocal b w name ▸ bumps_attempted .unchanged
  | removeLocal name =>
    exact run_removeLocal b w name ▸ bumps_attempted (.zero (by rw [World.scope_undefine]) rfl)

theorem bumps_define (name : String) (value : Value) :
    ((b.scope.define name value).run w).Bumps b.scope w 0 := by
  rw [ScopeRef.run_define]
  cases w.scopeWriteFault b.scope with
  | none =>
    rw [barring_none]
    exact .zero (by rw [World.scope_define]) rfl
  | some e => exact .unchanged

end Bindings

/-! ### Removing and clearing -/

namespace World

variable {w : World} {s : ScopeRef} {name : String}

/-- A removal bumps the revision once or not at all. -/
theorem exists_bumped_unassign (w : World) (s : ScopeRef) (name : String) :
    ∃ n, Bumped s n w (w.unassign s name) (w.unassignEvents s name) := by
  cases hhome : w.home? s name with
  | some g =>
    refine ⟨1, ?_⟩
    constructor
    case scopeName => rw [scope_unassign_home hhome]
    case revision => rw [scope_unassign_home hhome]
    case events =>
      rw [unassignEvents, hhome]
      rfl
  | none =>
    refine ⟨0, .zero ?_ (by rw [unassignEvents_of_home? hhome]; rfl)⟩
    rw [unassign, hhome]
    simp only
    split
    · rw [scope_undefine]
    · rfl

end World

namespace Bindings

variable (b : Bindings) (w : World)

theorem exists_bumps_remove (key : Key) : ∃ n, ((b.remove key).run w).Bumps b.scope w n ∧
    (n ≠ 0 → ((b.remove key).run w).result.isOk = true) := by
  cases hkey : key.name? with
  | error e =>
    rw [remove, hkey]
    exact World.Bumped.unchanged.exists_of_zero
  | ok name =>
    rw [run_remove b w hkey]
    cases w.removeFault b.scope name with
    | some e => exact World.Bumped.exists_of_zero (.zero rfl rfl)
    | none =>
      obtain ⟨n, hbumps⟩ := w.exists_bumped_unassign b.scope name
      exact ⟨n, hbumps, fun _ => rfl⟩

/-- Clearing bumps the revision once for each global, or it fails and does not bump it at all. -/
theorem exists_bumps_clear : ∃ n, (b.clear.run w).Bumps b.scope w n ∧
    (n ≠ 0 → (b.clear.run w).result.isOk = true) := by
  have hclearing := b.clearing w
  generalize b.clear.run w = o at hclearing
  cases hclearing with
  | unlisted e => exact World.Bumped.exists_of_zero (.zero rfl rfl)
  | nothing => exact World.Bumped.unchanged.exists_of_zero
  | refused first rest e => exact World.Bumped.exists_of_zero (.zero rfl rfl)
  | interrupted first rest e =>
    have hscope : (w.undefine b.scope first.1).scope b.scope = { w.scope b.scope with
        locals := ((w.undefine b.scope first.1).scope b.scope).locals } := by
      rw [World.scope_undefine]
    exact World.Bumped.exists_of_zero (.zero hscope rfl)
  | done w' events _ _ _ hpurged =>
    have hrevision := hpurged.revision
    have hsize := hpurged.size_le
    refine ⟨(w.globals b.scope).size - (w'.globals b.scope).size, ⟨hpurged.scopeName, ?_, ?_⟩,
      fun _ => rfl⟩
    · simp only
      omega
    · simp only [hpurged.events]
      exact List.filter_eq_self.2 (List.forall_mem_map.2 fun _ _ => rfl)

end Bindings

end ScriptHost
