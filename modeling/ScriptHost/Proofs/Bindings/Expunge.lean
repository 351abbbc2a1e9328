import ScriptHost.Proofs.Bindings.Isolation
import ScriptHost.Proofs.Bindings.Remove

/-!
# Removing names altogether

`ScopeRef.unsetEverywhere` takes a name off both levels of a scope, one removal after the other.  It
is a loop that can be refused in the middle: the first removal may need the scope only, and the next
one needs the link and the store.

* `ScopeRef.run_unsetEverywhere` — the loop in one equation, with the two places where it can be
  refused, and what is already gone at the second one.
* `World.Purged` — what comes of removing any list of names altogether.  Two things are kept
  across each removal, and so across all of them: revision and number of globals have the same sum
  as before, and the events say each revision in between.
* `Bindings.purged_removeAll` — the loop over the names, when nothing is in the way.
-/

set_option autoImplicit false

namespace ScriptHost

open ScriptHost.Action Outcome

/-! ## One name -/

namespace World

variable {w w' : World} {s t : ScopeRef} {name : String}

/-- The world without a name on either level of a scope. -/
def expunge (w : World) (s : ScopeRef) (name : String) : World :=
  (w.undefine s name).unassign s name

/-- What is logged when a name is removed from both levels. -/
def expungeEvents (w : World) (s : ScopeRef) (name : String) : List Event :=
  (w.undefine s name).unassignEvents s name

theorem undefine_of_not_isLocal (h : w.isLocal s name = false) : w.undefine s name = w := by
  rw [undefine, Table.erase_of_find? (find?_eq_none h)]
  exact w.setScope_scope s

/-- What is not found in a store is removed without a new revision. -/
theorem unassignEvents_of_home? (h : w.home? s name = none) : w.unassignEvents s name = [] := by
  rw [unassignEvents, h]

/-! ### Faults stay the same -/

theorem scopeWriteFault_congr (hguards : ∀ r, w'.guardOf r = w.guardOf r) :
    w'.scopeWriteFault s = w.scopeWriteFault s := by
  rw [scopeWriteFault, scopeWriteFault,
    show (w'.scopes s).guard = (w.scopes s).guard from hguards (.scope s)]

theorem globalsWriteFault_congr (hthrough : Through s w w')
    (hguards : ∀ r, w'.guardOf r = w.guardOf r) :
    w'.globalsWriteFault s = w.globalsWriteFault s := by
  have hlink : w'.linkFault s = w.linkFault s := by
    rw [linkFault, linkFault, hthrough.link, hthrough.links]
  have hstore : ∀ g, w'.storeWriteFault g = w.storeWriteFault g := fun g => by
    rw [storeWriteFault, storeWriteFault,
      show (w'.stores g).guard = (w.stores g).guard from hguards (.store g)]
  rw [globalsWriteFault, globalsWriteFault, hlink, hthrough.storeOf]
  exact congrArg _ (Option.bind_congr fun g _ => hstore g)

theorem guardOf_undefine (r : Resource) : (w.undefine s name).guardOf r = w.guardOf r :=
  guardOf_setScope w s _ r

theorem through_undefine (w : World) (s : ScopeRef) (name : String) :
    Through s w (w.undefine s name) :=
  (acrossWrites_through s).undefine w name

theorem through_unassign (w : World) (s : ScopeRef) (name : String) :
    Through s w (w.unassign s name) :=
  (acrossWrites_through s).unassign w name

theorem removeFault_of_not_isLocal (h : w.isLocal s name = false) :
    w.removeFault s name = (w.scopeWriteFault s).or (w.globalsWriteFault s) := by
  rw [removeFault, h, if_neg Bool.false_ne_true]

end World

/-! ### The loop -/

namespace ScopeRef

variable {w : World} {s : ScopeRef} {name : String}

/-- No name is removed more than three times. -/
theorem unsetEverywhere_eq_of_le (s : ScopeRef) (name : String) {n : Nat} (h : 3 ≤ n) :
    s.unsetEverywhere name = s.unsetUpTo name n := by
  ext w
  exact go_eq (Nat.lt_of_lt_of_le (w.levels_lt_three s name) h)

/-- A name that is not shown takes one removal, which finds that out. -/
theorem run_unsetUpTo_of_not_shown (hshown : w.shownValue s name = none) (n : Nat) :
    (s.unsetUpTo name (n + 1)).run w = barring (w.removeFault s name) w ⟨.ok (), w, []⟩ := by
  have hevents := World.unassignEvents_of_home? (World.home?_eq_none_iff.2 (.inr hshown))
  rw [unsetUpTo, run_bind, run_unset, hshown, World.removed_unassign.nowhere hshown, hevents]
  cases w.removeFault s name <;> rfl

/-- A name that is no local takes one removal more. -/
theorem run_unsetUpTo_of_not_isLocal (hlocal : w.isLocal s name = false) (n : Nat) :
    (s.unsetUpTo name (n + 2)).run w =
      barring ((w.scopeWriteFault s).or (w.globalsWriteFault s)) w
        ⟨.ok (), w.unassign s name, w.unassignEvents s name⟩ := by
  have hremoved : w.Removed (w.unassign s name) s name := World.removed_unassign
  have hgone := hremoved.shownValue_eq_none (ne_true_of_eq_false hlocal)
  have hlocal' : (w.unassign s name).isLocal s name = false :=
    eq_false_of_ne_true (World.not_isLocal hgone)
  rw [unsetUpTo, run_bind, run_unset, World.removeFault_of_not_isLocal hlocal]
  cases hfault : (w.scopeWriteFault s).or (w.globalsWriteFault s) with
  | some e => rfl
  | none =>
    have hfault' : (w.unassign s name).removeFault s name = none := by
      rw [World.removeFault_of_not_isLocal hlocal', World.scopeWriteFault_congr hremoved.guards,
        World.globalsWriteFault_congr (w.through_unassign s name) hremoved.guards, hfault]
    rw [barring_none, andThen_ok, barring_none]
    cases hshown : w.shownValue s name with
    | none => simp only [run_pure, List.append_nil]
    | some value =>
      simp only [run_unsetUpTo_of_not_shown hgone, hfault', barring_none, List.append_nil]

/-- **Removing a name altogether.**  Everything that it takes is free, or the scope is held and
nothing is done, or the globals are held and the local is gone. -/
theorem run_unsetEverywhere (w : World) (s : ScopeRef) (name : String) :
    (s.unsetEverywhere name).run w =
      barring (w.scopeWriteFault s) w
        (barring (w.globalsWriteFault s) (w.undefine s name)
          ⟨.ok (), w.expunge s name, w.expungeEvents s name⟩) := by
  rw [unsetEverywhere_eq, World.expunge, World.expungeEvents]
  cases hlocal : w.isLocal s name with
  | false =>
    rw [run_unsetUpTo_of_not_isLocal hlocal, World.undefine_of_not_isLocal hlocal, barring_barring]
  | true =>
    have hundefine : w.unassign s name = w.undefine s name := by
      rw [World.unassign, World.home?_of_isLocal hlocal]
      exact if_pos hlocal
    have hevents := World.unassignEvents_of_home? (World.home?_of_isLocal hlocal)
    rw [unsetUpTo, run_bind, run_unset, World.removeFault, hlocal, if_pos rfl, Option.or_none,
      hundefine, hevents]
    cases hscope : w.scopeWriteFault s with
    | some e => rfl
    | none =>
      obtain ⟨value, hvalue⟩ : ∃ value, w.shownValue s name = some value :=
        Option.ne_none_iff_exists'.1 fun hnone => World.not_isLocal hnone hlocal
      rw [barring_none, barring_none, andThen_ok, hvalue]
      simp only [run_unsetUpTo_of_not_isLocal World.isLocal_undefine_self,
        World.scopeWriteFault_congr World.guardOf_undefine,
        World.globalsWriteFault_congr (w.through_undefine s name) World.guardOf_undefine, hscope]
      rfl

end ScopeRef

/-! ## Any number of names -/

namespace World

variable {w w' w'' : World} {s : ScopeRef} {name : String}

/-- The world `w'` is `w` after names were removed from both levels of scope `s`, which logged
`events`. -/
structure Purged (s : ScopeRef) (names : List String) (w w' : World) (events : List Event) :
    Prop where
  locals : (w'.scope s).locals.entries =
    (w.scope s).locals.entries.filter fun entry => entry.1 ∉ names
  globals : (w'.globals s).entries = (w.globals s).entries.filter fun entry => entry.1 ∉ names
  /-- Each global that is gone has made a revision. -/
  revision : (w'.scope s).revision + (w'.globals s).size =
    (w.scope s).revision + (w.globals s).size
  scopeName : (w'.scope s).name = (w.scope s).name
  /-- The events say the new revisions in their order. -/
  events : events = (List.range' ((w.scope s).revision + 1)
    ((w.globals s).size - (w'.globals s).size)).map (.namespaceChanged (w.scope s).name)
  through : Through s w w'
  guards : ∀ r, w'.guardOf r = w.guardOf r
  /-- Nothing but scopes and stores has changed. -/
  rest : w' = { w with scopes := w'.scopes, stores := w'.stores }

namespace Purged

variable {names names' : List String} {events events' : List Event}

theorem size_le (h : Purged s names w w' events) : (w'.globals s).size ≤ (w.globals s).size := by
  rw [Table.size, h.globals]
  exact List.length_filter_le _ _

theorem nil (s : ScopeRef) (w : World) : Purged s [] w w [] where
  locals := (List.filter_eq_self.2 fun _ _ => by simp).symm
  globals := (List.filter_eq_self.2 fun _ _ => by simp).symm
  revision := rfl
  scopeName := rfl
  events := by rw [Nat.sub_self]; rfl
  through := refl w
  guards _ := rfl
  rest := rfl

/-- Dropping some names, and then others. -/
theorem filter_notMem_append (l : List (String × Value)) :
    ((l.filter fun entry => entry.1 ∉ names).filter fun entry => entry.1 ∉ names') =
      l.filter fun entry => entry.1 ∉ names ++ names' := by
  rw [List.filter_filter]
  refine List.filter_congr fun entry _ => ?_
  rw [← Bool.decide_and]
  refine decide_eq_decide.2 ?_
  rw [List.mem_append, not_or, and_comm]

theorem append (h : Purged s names w w' events) (h' : Purged s names' w' w'' events') :
    Purged s (names ++ names') w w'' (events ++ events') where
  locals := by rw [h'.locals, h.locals, filter_notMem_append]
  globals := by rw [h'.globals, h.globals, filter_notMem_append]
  revision := h'.revision.trans h.revision
  scopeName := h'.scopeName.trans h.scopeName
  events := by
    have hsize := h.size_le
    have hsize' := h'.size_le
    have hrevision := h.revision
    -- the later events go on where the earlier ones have stopped
    have hstart : (w'.scope s).revision + 1 =
        (w.scope s).revision + 1 + ((w.globals s).size - (w'.globals s).size) := by omega
    have hcount : (w.globals s).size - (w'.globals s).size +
        ((w'.globals s).size - (w''.globals s).size) =
        (w.globals s).size - (w''.globals s).size := by omega
    rw [h.events, h'.events, h.scopeName, hstart, ← List.map_append, List.range'_append_1, hcount]
  through := IsTrans.trans _ _ _ h.through h'.through
  guards r := (h'.guards r).trans (h.guards r)
  rest := by
    have hrest' := h'.rest
    rw [h.rest] at hrest'
    exact hrest'

end Purged

/-- Removing a name altogether is removing the local, and then the global if there is one. -/
theorem expunge_cases (w : World) (s : ScopeRef) (name : String) :
    (∃ g, w.storeOf s = some g ∧ (w.globals s).contains name = true ∧
      w.expunge s name = ((w.undefine s name).setEntries g ((w.globals s).erase name)).setScope s
        { w.scope s with
          locals := (w.scope s).locals.erase name
          revision := (w.scope s).revision + 1 } ∧
      w.expungeEvents s name =
        [.namespaceChanged (w.scope s).name ((w.scope s).revision + 1)]) ∨
    (w.globals s).find? name = none ∧ w.expunge s name = w.undefine s name ∧
      w.expungeEvents s name = [] := by
  rw [expunge, expungeEvents, unassign, unassignEvents]
  cases hhome : (w.undefine s name).home? s name with
  | some g =>
    obtain ⟨-, hstore, hin⟩ := home?_eq_some_iff.1 hhome
    rw [storeOf_undefine] at hstore
    have hglobals : w.globals s = w.entries g := by rw [globals, hstore]
    rw [scope_undefine, hglobals]
    exact .inl ⟨g, hstore, hin, rfl, rfl⟩
  | none =>
    have hlocal : ¬ (w.undefine s name).isLocal s name := by simp [isLocal_undefine_self]
    have hnone := (home?_eq_none_iff.1 hhome).resolve_left hlocal
    rw [shownValue_undefine, if_pos ⟨rfl, rfl⟩] at hnone
    exact .inr ⟨hnone, if_neg hlocal, rfl⟩

/-- One name: each level that has it loses it. -/
theorem purged_expunge (w : World) (s : ScopeRef) (name : String) :
    Purged s [name] w (w.expunge s name) (w.expungeEvents s name) := by
  have hfilter : ∀ l : List (String × Value),
      Entries.erase name l = l.filter fun entry => entry.1 ∉ [name] := by
    simp [Entries.erase]
  have hremoved : (w.undefine s name).Removed (w.expunge s name) s name := removed_unassign
  have hthrough : Through s w (w.expunge s name) :=
    IsTrans.trans _ _ _ (w.through_undefine s name) (through_unassign _ s name)
  have hguards : ∀ r, (w.expunge s name).guardOf r = w.guardOf r := fun r =>
    (hremoved.guards r).trans (guardOf_undefine r)
  obtain ⟨g, hstore, hin, hworld, hevents⟩ | ⟨hout, hworld, hevents⟩ := w.expunge_cases s name
  · have hscope := congrArg (·.scope s) hworld
    rw [scope_setScope_self] at hscope
    have hglobals : (w.expunge s name).globals s = (w.globals s).erase name := by
      rw [hworld, globals_setScope (by rw [scope_setEntries, scope_undefine]), globals_setEntries,
        storeOf_undefine, if_pos hstore]
    have hsize := Table.size_erase hin
    constructor
    case locals => rw [hscope]; exact hfilter _
    case globals => rw [hglobals]; exact hfilter _
    case revision => rw [hscope, hglobals]; simp only; omega
    case scopeName => rw [hscope]
    case events =>
      rw [hevents, hglobals, ← hsize, Nat.add_sub_cancel_left]
      rfl
    case through => exact hthrough
    case guards => exact hguards
    case rest => exact hremoved.rest
  · have hglobals : (w.expunge s name).globals s = w.globals s := by
      rw [hworld, globals_undefine]
    have hsame : (w.globals s).erase name = w.globals s := Table.erase_of_find? hout
    constructor
    case locals => rw [hworld, scope_undefine]; exact hfilter _
    case globals => rw [hglobals, ← hfilter]; exact (congrArg Table.entries hsame).symm
    case revision => rw [hworld, scope_undefine, globals_undefine]
    case scopeName => rw [hworld, scope_undefine]
    case events => rw [hevents, hglobals, Nat.sub_self]; rfl
    case through => exact hthrough
    case guards => exact hguards
    case rest => exact hremoved.rest

end World

/-- **Without a guard in the way, the names are gone from both levels.** -/
theorem Bindings.purged_removeAll (b : Bindings) {w : World}
    (hscope : w.scopeWriteFault b.scope = none) (hglobals : w.globalsWriteFault b.scope = none)
    (names : List String) : ∃ (w' : World) (events : List Event),
      (b.removeAll names).run w = ⟨.ok (), w', events⟩ ∧
        World.Purged b.scope names w w' events := by
  induction names generalizing w with
  | nil => exact ⟨w, [], rfl, .nil b.scope w⟩
  | cons name rest ih =>
    have hfirst := w.purged_expunge b.scope name
    have hscope' := (World.scopeWriteFault_congr hfirst.guards).trans hscope
    have hglobals' := (World.globalsWriteFault_congr hfirst.through hfirst.guards).trans hglobals
    obtain ⟨w', events, hrest, hpurged⟩ := ih hscope' hglobals'
    have hloop : (b.scope.unsetEverywhere name).run w = barring none w
        ⟨.ok (), w.expunge b.scope name, w.expungeEvents b.scope name⟩ := by
      rw [ScopeRef.run_unsetEverywhere, hscope, hglobals]
      rfl
    refine ⟨w', w.expungeEvents b.scope name ++ events, ?_, hfirst.append hpurged⟩
    rw [removeAll, run_bind, run_attempting hloop]
    simp only [attempted, andThen_ok, hrest]

end ScriptHost
