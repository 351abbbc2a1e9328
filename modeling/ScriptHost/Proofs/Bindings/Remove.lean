import ScriptHost.Proofs.Bindings.Operations
import ScriptHost.Proofs.Bindings.Undo

/-!
# Removing a variable

A removal takes a name off one level.  A local that goes concerns its scope alone, and may uncover a
global of the same name.  A global that goes is lost to every scope that showed it, and the scope
that it was removed through gets a new revision.  `World.Removed` says all of this in terms of tables
and views, and `Bindings.remove_law` that this is what a removal does when no cell is held.

**There are only two levels.**  Each removal that finds the name leaves it on fewer levels than
before, so of any number of removals in a row the first two at most answer a value
(`Bindings.run_removeTimes`).
-/

set_option autoImplicit false

namespace ScriptHost

namespace World

/-- The world `w'` is `w` after scope `s` was used to remove a name. -/
structure Removed (w w' : World) (s : ScopeRef) (name : String) : Prop where
  /-- A local is gone, the other locals are in their old order, and the scope shows the global that
  the local hid, if there is one.  No revision and no store has changed. -/
  own : w.isLocal s name →
    (w'.scope s).locals.entries = (w.scope s).locals.entries.filter (fun entry => entry.1 ≠ name) ∧
      w'.scope s = { w.scope s with locals := (w'.scope s).locals } ∧
      (∀ g, w'.entries g = w.entries g) ∧
      w'.shownValue s name = (w.globals s).find? name
  /-- A name that only the store had is gone from there, and the other names are in their old order.
  The scope has the next revision and is otherwise the same, and so is every other store. -/
  global : ∀ g, ¬ w.isLocal s name → w.storeOf s = some g → (w.entries g).contains name →
    (w'.entries g).entries = (w.entries g).entries.filter (fun entry => entry.1 ≠ name) ∧
      w'.scope s = { w.scope s with revision := (w.scope s).revision + 1 } ∧
      (∀ g', g' ≠ g → w'.entries g' = w.entries g') ∧
      ∀ t, w.storeOf t = some g → ¬ w.isLocal t name → w'.shownValue t name = none
  /-- Where the name was not shown nothing has changed at all. -/
  nowhere : w.shownValue s name = none → w' = w
  /-- Other scopes have not changed. -/
  elsewhere : ∀ t, t ≠ s → w'.scope t = w.scope t
  /-- Nothing but scopes and stores has changed. -/
  rest : w' = { w with scopes := w'.scopes, stores := w'.stores }
  guards : ∀ r, w'.guardOf r = w.guardOf r
  /-- What any scope shows under other names has not changed. -/
  others : ∀ t, w'.shownBut t name = w.shownBut t name
  /-- Another scope that did not show the name from the same store shows what it showed before. -/
  unreached : ∀ t, t ≠ s → ¬ w.Reaches s t name → w'.shownValue t name = w.shownValue t name

variable {w : World} {s : ScopeRef} {name : String}

/-! ## One level -/

/-- What is not shown is no local. -/
theorem not_isLocal (hnone : w.shownValue s name = none) : ¬ w.isLocal s name := by
  rw [isLocal, Table.contains, (Option.or_eq_none_iff.1 hnone).1]
  exact Bool.false_ne_true

theorem removed_undefine (hlocal : w.isLocal s name) : w.Removed (w.undefine s name) s name where
  own _ := by
    rw [scope_undefine, shownValue_undefine, if_pos ⟨rfl, rfl⟩]
    exact ⟨rfl, rfl, fun _ => rfl, rfl⟩
  global _ hnot := absurd hlocal hnot
  nowhere hnone := absurd hlocal (not_isLocal hnone)
  elsewhere t ht := scope_setScope_of_ne w s t _ ht
  rest := rfl
  guards r := guardOf_setScope w s _ r
  others _ := shownBut_undefine
  unreached t ht _ := by rw [shownValue_undefine, if_neg fun hc => ht hc.1]

theorem removed_home {g : StoreRef} (hhome : w.home? s name = some g) :
    w.Removed ((w.setEntries g ((w.entries g).erase name)).setScope s
      { w.scope s with revision := (w.scope s).revision + 1 }) s name := by
  obtain ⟨hlocal, hstore, hin⟩ := home?_eq_some_iff.1 hhome
  -- the new revision shows in no view
  have hshown : ∀ t, ((w.setEntries g ((w.entries g).erase name)).setScope s
      { w.scope s with revision := (w.scope s).revision + 1 }).shownValue t name =
      if w.storeOf t = some g ∧ w.isLocal t name = false ∧ name = name then none
      else w.shownValue t name := fun t =>
    (shownValue_setScope_of_locals (by rfl) (by rfl)).trans (shownValue_setEntries_erase g)
  constructor
  case own => exact fun hown => absurd hown (by rw [hlocal]; exact Bool.false_ne_true)
  case global =>
    intro g' _ hstore' _
    obtain rfl : g = g' := Option.some_inj.1 (hstore.symm.trans hstore')
    rw [entries_setScope, entries_setEntries_self, scope_setScope_self]
    refine ⟨rfl, rfl, fun g' hg' => entries_setEntries_of_ne w g g' _ hg', fun t ht htlocal => ?_⟩
    rw [hshown, if_pos ⟨ht, eq_false_of_ne_true htlocal, rfl⟩]
  case nowhere =>
    intro hnone
    rw [home?_eq_none_iff.2 (.inr hnone)] at hhome
    exact absurd hhome.symm (Option.some_ne_none g)
  case elsewhere => exact fun t ht => scope_setScope_of_ne _ s t _ ht
  case rest => rfl
  case guards => exact fun r => (guardOf_setScope _ s _ r).trans (guardOf_setEntries w g _ r)
  case others =>
    exact fun t => (shownBut_setScope (by rfl) (by rfl)).trans (shownBut_setEntries_erase g)
  case unreached =>
    intro t _ hreach
    rw [hshown, if_neg]
    rintro ⟨ht, htlocal, -⟩
    exact hreach ⟨by simp [hlocal], by simp [htlocal], g, hstore, ht, hin⟩

theorem removed_nothing (hnone : w.shownValue s name = none) : w.Removed w s name where
  own hlocal := absurd hlocal (not_isLocal hnone)
  global _ hlocal hstore hin :=
    absurd hin (not_contains_of_home? (home?_eq_none_iff.2 (.inr hnone)) hlocal hstore)
  nowhere _ := rfl
  elsewhere _ _ := rfl
  rest := rfl
  guards _ := rfl
  others _ := rfl
  unreached _ _ _ := rfl

theorem removed_unassign : w.Removed (w.unassign s name) s name := by
  rw [unassign]
  cases hhome : w.home? s name with
  | some g => exact removed_home hhome
  | none =>
    simp only
    split
    · next hlocal => exact removed_undefine hlocal
    · next hlocal => exact removed_nothing ((home?_eq_none_iff.1 hhome).resolve_left hlocal)

/-- A name that was no local is gone. -/
theorem Removed.shownValue_eq_none {w' : World} (h : w.Removed w' s name)
    (hlocal : ¬ w.isLocal s name) : w'.shownValue s name = none := by
  cases hhome : w.home? s name with
  | some g =>
    obtain ⟨-, hstore, hin⟩ := home?_eq_some_iff.1 hhome
    exact (h.global g hlocal hstore hin).2.2.2 s hstore hlocal
  | none =>
    have hnone := (home?_eq_none_iff.1 hhome).resolve_left hlocal
    rw [h.nowhere hnone]
    exact hnone

/-- A name that is not shown is on no level. -/
theorem levels_eq_zero (h : w.shownValue s name = none) : w.levels s name = 0 := by
  obtain ⟨hlocal, hglobal⟩ := Option.or_eq_none_iff.1 h
  rw [levels, Table.contains, hlocal]
  cases hstore : w.storeOf s with
  | none => rfl
  | some g =>
    rw [globals, hstore] at hglobal
    simp only [Table.contains, hglobal]
    rfl

theorem levels_unassign_lt (hfree : w.Unguarded) {value : Value}
    (h : w.shownValue s name = some value) :
    (w.unassign s name).levels s name < w.levels s name := by
  have hunset : (s.unset name).run w =
      ⟨.ok (some value), w.unassign s name, w.unassignEvents s name⟩ := by
    rw [ScopeRef.run_unset, hfree.removeFault, h]
    rfl
  have hlt := ScopeRef.levels_unset_lt (congrArg Outcome.result hunset)
  rwa [hunset] at hlt

end World

/-! ## Removals in a row -/

namespace Bindings

variable (b : Bindings) {w : World} {key : Key} {name : String}

/-- Removes a variable `n` times in a row.  Answers what each removal has answered. -/
def removeTimes (key : Key) : Nat → Action BindingError World (List (Option Value))
  | 0 => return []
  | n + 1 => do
    let old ← b.remove key
    return old :: (← removeTimes key n)

/-- **Values first, and then none.**  Removals in a row answer a value as long as a level has the
name, and nothing from then on. -/
theorem run_removeTimes (hfree : w.Unguarded) (hkey : key.name? = .ok name) (n : Nat) :
    ∃ (values : List Value) (m : Nat),
      ((b.removeTimes key n).run w).result = .ok (values.map some ++ List.replicate m none) ∧
        values.length + m = n ∧ values.length ≤ w.levels b.scope name := by
  induction n generalizing w with
  | zero => exact ⟨[], 0, rfl, rfl, Nat.zero_le _⟩
  | succ n ih =>
    have hfree' : (w.unassign b.scope name).Unguarded :=
      hfree.of_guards World.removed_unassign.guards
    obtain ⟨values, m, hrest, hcount, hlevels⟩ := ih hfree'
    have hresult : ((b.removeTimes key (n + 1)).run w).result =
        .ok (w.shownValue b.scope name :: (values.map some ++ List.replicate m none)) := by
      rw [removeTimes, Action.run_bind, run_remove_of_unguarded b hfree hkey, Action.andThen_ok,
        Action.run_bind, Action.andThen_of_ok hrest]
      rfl
    cases hold : w.shownValue b.scope name with
    | some value =>
      have hlt := World.levels_unassign_lt hfree hold
      refine ⟨value :: values, m, by rw [hresult, hold]; rfl, ?_, ?_⟩
      · rw [List.length_cons, ← hcount, Nat.add_right_comm]
      · exact Nat.lt_of_le_of_lt hlevels hlt
    | none =>
      -- the world is as before, and no level has the name
      rw [World.removed_unassign.nowhere hold, World.levels_eq_zero hold, Nat.le_zero,
        List.length_eq_zero_iff] at hlevels
      subst hlevels
      refine ⟨[], m + 1, by rw [hresult, hold]; rfl, ?_, Nat.zero_le _⟩
      rw [← hcount, List.length_nil, Nat.zero_add, Nat.zero_add]

/-- **A removal answers what a get would have answered, and takes the name off one level.**  What else
it does, or does not, to any scope and any store is `World.Removed`.  A removal that has found nothing
leaves the name to the locals: a put that follows it declares a local.  And of removals in a row two
at most answer a value. -/
theorem remove_law (hfree : w.Unguarded) (hkey : key.name? = .ok name) :
    ∃ (old : Option Value) (w' : World),
      (b.get key).run w = ⟨.ok old, w, []⟩ ∧
      (b.remove key).run w = ⟨.ok old, w', w.unassignEvents b.scope name⟩ ∧
      w.Removed w' b.scope name ∧
      (∀ t, (Bindings.get ⟨t⟩ key).run w' = ⟨.ok (w'.shownValue t name), w', []⟩) ∧
      (old = none → ∀ value, ∃ w'',
        (b.put key value).run w' = ⟨.ok none, w'', []⟩ ∧
          (w''.scope b.scope).locals.entries =
            (w'.scope b.scope).locals.entries ++ [(name, value)] ∧
          ∀ g, w''.entries g = w'.entries g) ∧
      ∀ n, ∃ (values : List Value) (m : Nat),
        ((b.removeTimes key n).run w).result = .ok (values.map some ++ List.replicate m none) ∧
          values.length + m = n ∧ values.length ≤ 2 := by
  have hremoved : w.Removed (w.unassign b.scope name) b.scope name := World.removed_unassign
  have hfree' := hfree.of_guards hremoved.guards
  refine ⟨w.shownValue b.scope name, w.unassign b.scope name, run_get_of_unguarded b hfree hkey,
    run_remove_of_unguarded b hfree hkey, hremoved,
    fun t => run_get_of_unguarded ⟨t⟩ hfree' hkey, fun hnone value => ?_, fun n => ?_⟩
  · rw [hremoved.nowhere hnone]
    have hassigned : w.Assigned (w.assign b.scope name value) b.scope name value :=
      World.assigned_assign
    obtain ⟨hentries, hstores⟩ := hassigned.own (.inr hnone)
    rw [if_neg (World.not_isLocal hnone)] at hentries
    refine ⟨w.assign b.scope name value, ?_, hentries, hstores⟩
    rw [run_put_of_unguarded b hfree hkey, hnone]
  · obtain ⟨values, m, hresult, hcount, hlevels⟩ := run_removeTimes b hfree hkey n
    have htwo := Nat.le_of_lt_succ (w.levels_lt_three b.scope name)
    exact ⟨values, m, hresult, hcount, Nat.le_trans hlevels htwo⟩

/-- A local that hides a global: removing the name uncovers the global, which another scope shows all
the time. -/
theorem remove_law_shadowing :
    let old : Value := ⟨⟨0⟩, .unit⟩
    let new : Value := ⟨⟨1⟩, .bool true⟩
    let w : World := { World.empty with
      scopes := replaceAt World.empty.scopes ⟨0⟩ { content := ⟨"", .ofList [("x", new)], ⟨0⟩, 0⟩ }
      links := fun _ => { content := some ⟨0⟩ }
      stores := fun _ => { content := .ofList [("x", old)] } }
    let b : Bindings := ⟨⟨0⟩⟩
    let w' := ((b.remove (.name "x")).run w).state
    w.Unguarded ∧ (Key.name "x").name? = .ok "x" ∧
      (b.get (.name "x")).run w' = ⟨.ok (some old), w', []⟩ ∧
      (Bindings.get ⟨⟨1⟩⟩ (.name "x")).run w' = ⟨.ok (some old), w', []⟩ ∧
      ∃ (values : List Value) (m : Nat),
        ((b.removeTimes (.name "x") 5).run w).result =
            .ok (values.map some ++ List.replicate m none) ∧
          values.length + m = 5 ∧ values.length ≤ 2 := by
  intro old new w b w'
  have hfree : w.Unguarded := by
    rintro (s | l | g)
    · by_cases hs : s = ⟨0⟩
      · subst hs; rfl
      · simp only [w, World.guardOf, replaceAt_of_ne _ _ hs]; rfl
    · rfl
    · rfl
  obtain ⟨removed, after, -, hremove, hremoved, hget, -, htimes⟩ :=
    @remove_law b w (.name "x") "x" hfree rfl
  have hafter : w' = after := congrArg Outcome.state hremove
  subst hafter
  have hself : w'.shownValue ⟨0⟩ "x" = some old := (hremoved.own rfl).2.2.2
  have hother : w'.shownValue ⟨1⟩ "x" = some old :=
    hremoved.unreached ⟨1⟩ (by decide) fun hreach => hreach.1 rfl
  exact ⟨hfree, rfl, hself ▸ hget ⟨0⟩, hother ▸ hget ⟨1⟩, htimes 5⟩

end Bindings

end ScriptHost
