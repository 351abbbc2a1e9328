import Mathlib.Logic.Basic
import ScriptHost.Proofs.World.Access

/-!
# What a write changes, and what not

A write reaches one table: the locals of a scope, or the entries of a store that any number of
scopes may show.  This file says what that does to what each scope shows.

* `World.shownBut` — the variables that a scope shows under other names than a given one.  They
  are determined by the other entries of its two tables (`World.shownBut_congr`).
* `World.shownValue_define`, `World.shownValue_setEntries_insert` — under the name itself, a write
  to locals shows in that one scope, and a write to a store shows in every scope that is linked to
  the store and has no local of that name.
* `World.shownValue_undefine`, `World.shownValue_setEntries_erase` — the same for removing the name.
-/

set_option autoImplicit false

namespace ScriptHost.World

variable {w w' : World} {s t : ScopeRef} {name other : String}

/-! ## The other names -/

/-- The variables that a scope shows under other names, in their order. -/
def shownBut (w : World) (t : ScopeRef) (name : String) : List (String × Value) :=
  Entries.erase name (w.shown t)

/-- Of both tables of a scope only the other entries matter. -/
theorem shownBut_eq (w : World) (t : ScopeRef) (name : String) : w.shownBut t name =
    Entries.erase name (w.scope t).locals.entries ++
      (Entries.erase name (w.globals t).entries).filter fun entry =>
        entry.1 ∉ (Entries.erase name (w.scope t).locals.entries).map Prod.fst := by
  rw [shownBut, shown, Entries.erase, Entries.erase, List.filter_append, List.filter_filter,
    Entries.erase, List.filter_filter]
  congr 1
  refine List.filter_congr fun entry _ => ?_
  have hmem : entry.1 ≠ name →
      (entry.1 ∈ ((w.scope t).locals.entries.filter fun e => e.1 ≠ name).map Prod.fst ↔
        entry.1 ∈ (w.scope t).locals.keys) := by
    intro hne
    rw [← Entries.erase, Entries.map_fst_erase, List.mem_filter, decide_eq_true_eq]
    exact and_iff_left hne
  by_cases hne : entry.1 = name
  · simp [hne]
  · simp only [hmem hne, ne_eq, hne, not_false_eq_true, decide_true, Bool.true_and, Bool.and_true]

theorem shownBut_congr
    (hlocals : Entries.erase name (w'.scope t).locals.entries =
      Entries.erase name (w.scope t).locals.entries)
    (hglobals : Entries.erase name (w'.globals t).entries =
      Entries.erase name (w.globals t).entries) :
    w'.shownBut t name = w.shownBut t name := by
  rw [shownBut_eq, shownBut_eq, hlocals, hglobals]

/-! ## Guards -/

@[simp] theorem guardOf_setScope (w : World) (s : ScopeRef) (scope : Scope) (r : Resource) :
    (w.setScope s scope).guardOf r = w.guardOf r := by
  cases r with
  | scope t => exact guard_setScope w s t scope
  | link l => rfl
  | store g => rfl

@[simp] theorem guardOf_setEntries (w : World) (g : StoreRef) (entries : Table Value)
    (r : Resource) : (w.setEntries g entries).guardOf r = w.guardOf r := by
  cases r with
  | scope t => rfl
  | link l => rfl
  | store g' => exact guard_setEntries w g g' entries

/-! ## Scopes -/

section

variable {scope : Scope}

theorem storeOf_setScope (hlink : scope.link = (w.scope s).link) :
    (w.setScope s scope).storeOf t = w.storeOf t := by
  by_cases h : t = s
  · subst h
    rw [storeOf, scope_setScope_self, linked_setScope, hlink]
    rfl
  · rw [storeOf, scope_setScope_of_ne _ _ _ _ h, linked_setScope]
    rfl

theorem globals_setScope (hlink : scope.link = (w.scope s).link) :
    (w.setScope s scope).globals t = w.globals t := by
  rw [globals, storeOf_setScope hlink]
  rfl

theorem isLocal_setScope : (w.setScope s scope).isLocal t other =
    if t = s then scope.locals.contains other else w.isLocal t other := by
  rw [isLocal, isLocal]
  by_cases h : t = s
  · rw [if_pos h, h, scope_setScope_self]
  · rw [if_neg h, scope_setScope_of_ne _ _ _ _ h]

theorem shownValue_setScope (hlink : scope.link = (w.scope s).link) :
    (w.setScope s scope).shownValue t other =
      if t = s then (scope.locals.find? other).or ((w.globals s).find? other)
      else w.shownValue t other := by
  rw [shownValue, globals_setScope hlink, shownValue]
  by_cases h : t = s
  · rw [if_pos h, h, scope_setScope_self]
  · rw [if_neg h, scope_setScope_of_ne _ _ _ _ h]

/-- As long as its locals and its link are the same, a scope shows the same. -/
theorem shownValue_setScope_of_locals (hlink : scope.link = (w.scope s).link)
    (hlocals : scope.locals = (w.scope s).locals) :
    (w.setScope s scope).shownValue t other = w.shownValue t other := by
  rw [shownValue_setScope hlink, hlocals]
  split
  · next h =>
    rw [h]
    rfl
  · rfl

theorem shownBut_setScope (hlink : scope.link = (w.scope s).link)
    (hlocals : Entries.erase name scope.locals.entries =
      Entries.erase name (w.scope s).locals.entries) :
    (w.setScope s scope).shownBut t name = w.shownBut t name := by
  refine shownBut_congr ?_ (by rw [globals_setScope hlink])
  by_cases h : t = s
  · rw [h, scope_setScope_self, hlocals]
  · rw [scope_setScope_of_ne _ _ _ _ h]

end

/-! ### Locals -/

theorem scope_define (value : Value) : (w.define s name value).scope s =
    { w.scope s with locals := (w.scope s).locals.insert name value } :=
  scope_setScope_self w s _

@[simp] theorem storeOf_define (value : Value) :
    (w.define s name value).storeOf t = w.storeOf t :=
  storeOf_setScope rfl

@[simp] theorem globals_define (value : Value) :
    (w.define s name value).globals t = w.globals t :=
  globals_setScope rfl

theorem isLocal_define (value : Value) : (w.define s name value).isLocal t other =
    if t = s ∧ other = name then true else w.isLocal t other := by
  rw [define, isLocal_setScope, Table.contains, Table.find?_insert, apply_ite Option.isSome, ite_and]
  exact ite_congr rfl (fun h => ite_congr rfl (fun _ => rfl) fun _ => by rw [h]; rfl) fun _ => rfl

theorem isLocal_define_self (value : Value) : (w.define s name value).isLocal s name = true := by
  rw [isLocal_define, if_pos ⟨rfl, rfl⟩]

theorem shownValue_define (value : Value) :
    (w.define s name value).shownValue t other =
      if t = s ∧ other = name then some value else w.shownValue t other := by
  rw [define, shownValue_setScope (by rfl), Table.find?_insert, apply_ite (Option.or · _), ite_and]
  exact ite_congr rfl (fun h => ite_congr rfl (fun _ => rfl) fun _ => by rw [h]; rfl) fun _ => rfl

theorem shownBut_define (value : Value) :
    (w.define s name value).shownBut t name = w.shownBut t name :=
  shownBut_setScope rfl (Entries.erase_insert name value _)

theorem scope_undefine : (w.undefine s name).scope s =
    { w.scope s with locals := (w.scope s).locals.erase name } :=
  scope_setScope_self w s _

@[simp] theorem storeOf_undefine : (w.undefine s name).storeOf t = w.storeOf t :=
  storeOf_setScope rfl

@[simp] theorem globals_undefine : (w.undefine s name).globals t = w.globals t :=
  globals_setScope rfl

theorem isLocal_undefine : (w.undefine s name).isLocal t other =
    if t = s ∧ other = name then false else w.isLocal t other := by
  rw [undefine, isLocal_setScope, Table.contains, Table.find?_erase, apply_ite Option.isSome, ite_and]
  exact ite_congr rfl (fun h => ite_congr rfl (fun _ => rfl) fun _ => by rw [h]; rfl) fun _ => rfl

theorem isLocal_undefine_self : (w.undefine s name).isLocal s name = false := by
  rw [isLocal_undefine, if_pos ⟨rfl, rfl⟩]

/-- A local that goes uncovers the global that it hid. -/
theorem shownValue_undefine :
    (w.undefine s name).shownValue t other =
      if t = s ∧ other = name then (w.globals s).find? name else w.shownValue t other := by
  rw [undefine, shownValue_setScope (by rfl), Table.find?_erase, apply_ite (Option.or · _), ite_and]
  exact ite_congr rfl (fun h => ite_congr rfl (fun ho => by rw [ho]; rfl) fun _ => by rw [h]; rfl)
    fun _ => rfl

theorem shownBut_undefine : (w.undefine s name).shownBut t name = w.shownBut t name :=
  shownBut_setScope rfl (Entries.erase_erase name _)

/-! ## Stores -/

section

variable {g : StoreRef} {entries : Table Value}

@[simp] theorem storeOf_setEntries : (w.setEntries g entries).storeOf t = w.storeOf t := rfl

theorem globals_setEntries :
    (w.setEntries g entries).globals t = if w.storeOf t = some g then entries else w.globals t := by
  rw [globals, storeOf_setEntries, globals]
  cases w.storeOf t with
  | none => rfl
  | some g' =>
    simp only [Option.some.injEq]
    by_cases h : g' = g
    · rw [if_pos h, h, entries_setEntries_self]
    · rw [if_neg h, entries_setEntries_of_ne _ _ _ _ h]

theorem shownBut_setEntries
    (h : Entries.erase name entries.entries = Entries.erase name (w.entries g).entries) :
    (w.setEntries g entries).shownBut t name = w.shownBut t name := by
  refine shownBut_congr rfl ?_
  rw [globals_setEntries]
  split
  · next hg => rw [globals, hg, h]
  · rfl

/-- One name has another value in a store, or has none there any more. -/
theorem shownValue_setEntries {value : Option Value}
    (h : ∀ other, entries.find? other =
      if other = name then value else (w.entries g).find? other) :
    (w.setEntries g entries).shownValue t other =
      if w.storeOf t = some g ∧ w.isLocal t name = false ∧ other = name then value
      else w.shownValue t other := by
  rw [shownValue, shownValue, globals_setEntries, scope_setEntries, isLocal, Table.contains]
  by_cases hg : w.storeOf t = some g
  · have hglobals : w.globals t = w.entries g := by rw [globals, hg]
    rw [if_pos hg, h, hglobals]
    by_cases ho : other = name
    · subst ho
      cases (w.scope t).locals.find? other with
      | none => simp [hg]
      | some old => simp
    · rw [if_neg ho, if_neg fun hc => ho hc.2.2]
  · rw [if_neg hg, if_neg fun hc => hg hc.1]

end

theorem shownValue_setEntries_insert (g : StoreRef) (value : Value) :
    (w.setEntries g ((w.entries g).insert name value)).shownValue t other =
      if w.storeOf t = some g ∧ w.isLocal t name = false ∧ other = name then some value
      else w.shownValue t other :=
  shownValue_setEntries fun _ => Table.find?_insert _ _ _ _

theorem shownBut_setEntries_insert (g : StoreRef) (value : Value) :
    (w.setEntries g ((w.entries g).insert name value)).shownBut t name = w.shownBut t name :=
  shownBut_setEntries (Entries.erase_insert name value _)

theorem shownValue_setEntries_erase (g : StoreRef) :
    (w.setEntries g ((w.entries g).erase name)).shownValue t other =
      if w.storeOf t = some g ∧ w.isLocal t name = false ∧ other = name then none
      else w.shownValue t other :=
  shownValue_setEntries fun _ => Table.find?_erase _ _ _

theorem shownBut_setEntries_erase (g : StoreRef) :
    (w.setEntries g ((w.entries g).erase name)).shownBut t name = w.shownBut t name :=
  shownBut_setEntries (Entries.erase_erase name _)

end ScriptHost.World
