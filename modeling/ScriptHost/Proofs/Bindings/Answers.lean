import Mathlib.Data.List.Basic
import ScriptHost.Bindings
import ScriptHost.Proofs.World.Access

/-!
# What bindings answer

`ScriptHost.Proofs.World.Access` sums up each operation on the variables of a scope in one equation:
a fault, and what comes of the operation without one.  Here are the equations for bindings.  A fault
is now an `illegalState` (`Outcome.attempted`), and what bindings answer is said of what the scope
shows.

**Listings need one fault check.**  Some operations list the names and then look each of them up.
If the names can be listed then each of them can be read (`World.readFault_of_listFault`), so no
look-up fails, and what they find is what the scope shows, in its order (`Bindings.run_lookupAll`).
-/

set_option autoImplicit false

namespace ScriptHost

open Outcome

/-! ## Attempts -/

namespace Outcome

variable {α β : Type} {w w' : World} {attempt : Attempt} {name : String}

/-- The outcome `done`, unless there is a fault; with one the attempt is an `illegalState`. -/
def attempted (attempt : Attempt) (name : String) (fault : Option AccessError) (w : World)
    (done : Outcome BindingError World α) : Outcome BindingError World α :=
  match fault with
  | some e => (illegalState attempt name e.toFailure).run w
  | none => done

theorem run_attempting {x : Action AccessError World α} {fault : Option AccessError} {a : α}
    {events : List Event} (h : x.run w = barring fault w ⟨.ok a, w', events⟩) :
    (attempting attempt name x).run w = attempted attempt name fault w ⟨.ok a, w', events⟩ := by
  rw [attempting, Action.run_bind, Action.run_attempt, h]
  cases fault with
  | some e => rfl
  | none =>
    simp only [barring_none, Action.andThen_ok, Action.run_pure, List.append_nil]
    rfl

/-- Going on from an attempt that has changed nothing. -/
theorem run_bind_of_attempted {x : Action BindingError World α} {fault : Option AccessError} {a : α}
    (h : x.run w = attempted attempt name fault w ⟨.ok a, w, []⟩)
    (f : α → Action BindingError World β) :
    (x >>= f).run w = attempted attempt name fault w ((f a).run w) := by
  rw [Action.run_bind, h]
  cases fault <;> rfl

/-- Only what happens without a fault matters. -/
theorem attempted_congr {fault : Option AccessError} {done done' : Outcome BindingError World α}
    (h : fault = none → done = done') :
    attempted attempt name fault w done = attempted attempt name fault w done' := by
  cases fault with
  | none => exact h rfl
  | some e => rfl

end Outcome

/-- What can be listed can be read. -/
theorem World.readFault_of_listFault {w : World} {s : ScopeRef} (h : w.listFault s = none)
    (name : String) : w.readFault s name = none := by
  rw [listFault, Option.or_eq_none_iff] at h
  rw [readFault, h.1, h.2, ite_self, Option.or_none]

namespace Bindings

variable (b : Bindings) (w : World)

/-! ## Reading -/

theorem run_lookup (name : String) : (b.lookup name).run w =
    attempted .access name (w.readFault b.scope name) w
      ⟨.ok (w.shownValue b.scope name), w, []⟩ :=
  run_attempting (ScopeRef.run_get w b.scope name)

theorem run_get {key : Key} {name : String} (hkey : key.name? = .ok name) : (b.get key).run w =
    attempted .access name (w.readFault b.scope name) w
      ⟨.ok (w.shownValue b.scope name), w, []⟩ := by
  rw [get, hkey, ← run_lookup]
  rfl

theorem run_keys : b.keys.run w =
    attempted .list "*" (w.listFault b.scope) w
      ⟨.ok ((w.shown b.scope).map Prod.fst), w, []⟩ :=
  run_attempting (ScopeRef.run_names w b.scope)

theorem run_size : b.size.run w =
    attempted .list "*" (w.listFault b.scope) w ⟨.ok (w.shown b.scope).length, w, []⟩ := by
  rw [size, run_bind_of_attempted (b.run_keys w), List.length_map]
  rfl

theorem run_isEmpty : b.isEmpty.run w =
    attempted .list "*" (w.listFault b.scope) w
      ⟨.ok (decide ((w.shown b.scope).length = 0)), w, []⟩ := by
  rw [isEmpty, run_bind_of_attempted (b.run_size w)]
  rfl

theorem run_containsKey {key : Key} {name : String} (hkey : key.name? = .ok name) :
    (b.containsKey key).run w =
      attempted .list "*" (w.listFault b.scope) w
        ⟨.ok (decide (name ∈ (w.shown b.scope).map Prod.fst)), w, []⟩ := by
  rw [containsKey, hkey]
  exact run_bind_of_attempted (b.run_keys w) _

/-! ### Reading one name after the other -/

variable {w}

theorem run_lookup_of_listFault (h : w.listFault b.scope = none) (name : String) :
    (b.lookup name).run w = ⟨.ok (w.shownValue b.scope name), w, []⟩ := by
  rw [run_lookup, World.readFault_of_listFault h]
  rfl

theorem run_lookupAll (h : w.listFault b.scope = none) (names : List String) :
    (b.lookupAll names).run w =
      ⟨.ok (names.filterMap fun name => (w.shownValue b.scope name).map fun value => (name, value)),
        w, []⟩ := by
  induction names with
  | nil => rfl
  | cons name rest ih =>
    rw [lookupAll, Action.run_bind, run_lookup_of_listFault b h, Action.andThen_ok,
      List.filterMap_cons]
    cases w.shownValue b.scope name with
    | none => rw [ih]; rfl
    | some value =>
      simp only [Option.map_some, Action.run_bind, ih, Action.andThen_ok, Action.run_pure]
      rfl

theorem run_anyEqual (h : w.listFault b.scope = none) (value : Value) (names : List String) :
    (b.anyEqual value names).run w =
      ⟨.ok (names.any fun name => (w.shownValue b.scope name).any (· == value)), w, []⟩ := by
  induction names with
  | nil => rfl
  | cons name rest ih =>
    rw [anyEqual, Action.run_bind, run_lookup_of_listFault b h, Action.andThen_ok, List.any_cons]
    cases w.shownValue b.scope name with
    | none => rw [ih]; rfl
    | some found =>
      simp only [Option.any_some]
      cases hv : found == value with
      | true => rfl
      | false =>
        rw [if_neg Bool.false_ne_true, ih]
        rfl

/-- Reading all of the names that are shown gives back what is shown. -/
theorem run_lookupAll_shown (h : w.listFault b.scope = none) :
    (b.lookupAll ((w.shown b.scope).map Prod.fst)).run w = ⟨.ok (w.shown b.scope), w, []⟩ := by
  have hread : ∀ entry ∈ w.shown b.scope,
      (w.shownValue b.scope entry.1).map (fun value => (entry.1, value)) = some entry := by
    intro entry hentry
    rw [World.shownValue_of_mem hentry]
    rfl
  rw [run_lookupAll b h, List.filterMap_map]
  congr 2
  exact (List.filterMap_congr hread).trans List.filterMap_some

/-! ### Values, snapshots and searches -/

variable (w)

theorem run_values : b.values.run w =
    attempted .list "*" (w.listFault b.scope) w
      ⟨.ok ((w.shown b.scope).map Prod.snd), w, []⟩ := by
  rw [values, run_bind_of_attempted (b.run_keys w)]
  refine attempted_congr fun h => ?_
  rw [Action.run_bind, run_lookupAll_shown b h]
  rfl

theorem run_entries : b.entries.run w =
    attempted .list "*" (w.listFault b.scope) w
      ⟨.ok ⟨Table.ofList (w.shown b.scope)⟩, w, []⟩ := by
  rw [entries, run_bind_of_attempted (b.run_keys w)]
  refine attempted_congr fun h => ?_
  rw [Action.run_bind, run_lookupAll_shown b h]
  rfl

theorem run_containsValue (value : Value) : (b.containsValue value).run w =
    attempted .list "*" (w.listFault b.scope) w
      ⟨.ok (((w.shown b.scope).map Prod.fst).any fun name =>
        (w.shownValue b.scope name).any (· == value)), w, []⟩ := by
  rw [containsValue, run_bind_of_attempted (b.run_keys w)]
  exact attempted_congr fun h => run_anyEqual b h value _

/-! ## Writing and removing -/

theorem run_put {key : Key} {name : String} (hkey : key.name? = .ok name) (value : Value) :
    (b.put key value).run w =
      attempted .assign name (w.writeFault b.scope name) w
        ⟨.ok (w.shownValue b.scope name), w.assign b.scope name value, []⟩ := by
  rw [put, hkey, ← run_attempting (ScopeRef.run_set w b.scope name value)]
  rfl

theorem run_remove {key : Key} {name : String} (hkey : key.name? = .ok name) :
    (b.remove key).run w =
      attempted .remove name (w.removeFault b.scope name) w
        ⟨.ok (w.shownValue b.scope name), w.unassign b.scope name,
          w.unassignEvents b.scope name⟩ := by
  rw [remove, hkey, ← run_attempting (ScopeRef.run_unset w b.scope name)]
  rfl

/-! ## The locals alone -/

theorem run_localKeys : b.localKeys.run w =
    attempted .list "*" (w.scopeReadFault b.scope) w
      ⟨.ok (w.scope b.scope).locals.keys, w, []⟩ :=
  run_attempting (ScopeRef.run_localNames w b.scope)

theorem run_getLocal (name : String) : (b.getLocal name).run w =
    attempted .access name (w.scopeReadFault b.scope) w
      ⟨.ok ((w.scope b.scope).locals.find? name), w, []⟩ :=
  run_attempting (ScopeRef.run_getLocal w b.scope name)

theorem run_isLocal (name : String) : (b.isLocal name).run w =
    attempted .access name (w.scopeReadFault b.scope) w
      ⟨.ok (w.isLocal b.scope name), w, []⟩ :=
  run_attempting (ScopeRef.run_isLocal w b.scope name)

theorem run_removeLocal (name : String) : (b.removeLocal name).run w =
    attempted .remove name (w.scopeWriteFault b.scope) w
      ⟨.ok ((w.scope b.scope).locals.find? name), w.undefine b.scope name, []⟩ :=
  run_attempting (ScopeRef.run_unsetLocal w b.scope name)

end Bindings

end ScriptHost
