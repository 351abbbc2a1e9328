import ScriptHost.Proofs.Bindings.Expunge

/-!
# Clearing

Clearing lists the names, and then removes each of them altogether.  The listing looks at the same
cells as every listing.  The removals need more: they change the scope, and the store below it if
there is one.  So clearing can be listed and still be refused, and it can be refused after something
is already gone.

* `Bindings.run_clear`, `Bindings.run_removeAll_cons` — where clearing can be refused: at the
  listing, and at the two steps of the first removal.  If the first name can be removed then so can
  all the others.
* `World.Cleared` — what clearing does to each scope and each store, and `Bindings.clear_law`, that
  this is what it does when no cell is held.
-/

set_option autoImplicit false

namespace ScriptHost

open ScriptHost.Action Outcome

/-! ## The loops -/

namespace Bindings

variable (b : Bindings)

/-- Removes each of the names `n` times at most. -/
def removeAllUpTo (n : Nat) : List String → Action BindingError World Unit
  | [] => return ()
  | name :: rest => do
    attempting .remove name (b.scope.unsetUpTo name n)
    removeAllUpTo n rest

/-- Clears the bindings with at most `n` removals of each name. -/
def clearUpTo (n : Nat) : Action BindingError World Unit := do
  b.removeAllUpTo n (← b.keys)

theorem removeAll_eq_removeAllUpTo {n : Nat} (h : 3 ≤ n) (names : List String) :
    b.removeAll names = b.removeAllUpTo n names := by
  induction names with
  | nil => rfl
  | cons name rest ih =>
    rw [removeAll, removeAllUpTo, ih, ScopeRef.unsetEverywhere_eq_of_le b.scope name h]

theorem clear_eq_clearUpTo {n : Nat} (h : 3 ≤ n) : b.clear = b.clearUpTo n := by
  rw [clear, clearUpTo]
  simp only [b.removeAll_eq_removeAllUpTo h]

variable (w : World)

theorem run_clear : b.clear.run w =
    attempted .list "*" (w.listFault b.scope) w
      ((b.removeAll ((w.shown b.scope).map Prod.fst)).run w) := by
  rw [clear, run_bind_of_attempted (b.run_keys w)]

/-- The removals are refused at the first name or not at all. -/
theorem run_removeAll_cons (name : String) (rest : List String) :
    (b.removeAll (name :: rest)).run w =
      attempted .remove name (w.scopeWriteFault b.scope) w
        (attempted .remove name (w.globalsWriteFault b.scope) (w.undefine b.scope name)
          ((b.removeAll (name :: rest)).run w)) := by
  have hloop := ScopeRef.run_unsetEverywhere w b.scope name
  cases hscope : w.scopeWriteFault b.scope with
  | some e =>
    rw [hscope] at hloop
    rw [removeAll, run_bind, attempting, run_bind, run_attempt, hloop]
    rfl
  | none =>
    cases hglobals : w.globalsWriteFault b.scope with
    | some e =>
      rw [hscope, hglobals] at hloop
      rw [removeAll, run_bind, attempting, run_bind, run_attempt, hloop]
      rfl
    | none => rfl

end Bindings

/-! ## Nothing is left -/

namespace World

variable {w w' : World} {s : ScopeRef} {events : List Event}

/-- The world `w'` is `w` after scope `s` was cleared. -/
structure Cleared (w w' : World) (s : ScopeRef) : Prop where
  /-- The scope has no locals any more, and a new revision for each of the globals that it had. -/
  scope : w'.scope s = { w.scope s with
    locals := .empty
    revision := (w.scope s).revision + (w.globals s).size }
  /-- The store below the scope is empty. -/
  store : ∀ g, w.storeOf s = some g → w'.entries g = .empty
  /-- Other scopes have not changed. -/
  elsewhere : ∀ t, t ≠ s → w'.scope t = w.scope t
  /-- Other stores have not changed. -/
  otherStores : ∀ g, w.storeOf s ≠ some g → w'.entries g = w.entries g
  /-- A scope over the same store shows its own locals, and nothing else. -/
  sharing : ∀ t g, t ≠ s → w.storeOf s = some g → w.storeOf t = some g →
    w'.shown t = (w.scope t).locals.entries
  guards : ∀ r, w'.guardOf r = w.guardOf r
  /-- Nothing but scopes and stores has changed. -/
  rest : w' = { w with scopes := w'.scopes, stores := w'.stores }

theorem shown_eq_nil (hlocals : (w.scope s).locals = .empty) (hglobals : w.globals s = .empty) :
    w.shown s = [] := by
  rw [shown, hlocals, hglobals]
  rfl

/-- A table of which only the names in a list are left out is empty if these are all its names. -/
theorem eq_empty_of_filter {t t' : Table Value} {names : List String}
    (h : t'.entries = t.entries.filter fun entry => entry.1 ∉ names)
    (hall : ∀ name, (t.find? name).isSome → name ∈ names) : t' = .empty := by
  refine Table.ext (h.trans (List.filter_eq_nil_iff.2 fun entry hentry hout => ?_))
  have hmem : entry.1 ∈ t.keys := List.mem_map_of_mem hentry
  exact of_decide_eq_true hout (hall entry.1 ((t.mem_keys_iff entry.1).1 hmem))

/-- **All names are gone.** -/
theorem Purged.cleared (h : Purged s ((w.shown s).map Prod.fst) w w' events) :
    w.Cleared w' s := by
  have hlocals : (w'.scope s).locals = .empty := by
    refine eq_empty_of_filter h.locals fun name hlocal => mem_keys_shown_iff.2 ?_
    rw [shownValue, Option.isSome_or, hlocal, Bool.true_or]
  have hglobals : w'.globals s = .empty := by
    refine eq_empty_of_filter h.globals fun name hglobal => mem_keys_shown_iff.2 ?_
    rw [shownValue, Option.isSome_or, hglobal, Bool.or_true]
  have hstore : ∀ g, w.storeOf s = some g → w'.entries g = .empty := by
    intro g hg
    rw [← hglobals, World.globals, h.through.storeOf, hg]
  constructor
  case scope =>
    have hrevision : (w'.scope s).revision = (w.scope s).revision + (w.globals s).size := by
      rw [← h.revision, hglobals]
      rfl
    calc w'.scope s
        = ⟨(w'.scope s).name, (w'.scope s).locals, (w'.scope s).link, (w'.scope s).revision⟩ := rfl
      _ = _ := by rw [h.scopeName, hlocals, h.through.link, hrevision]
  case store => exact hstore
  case elsewhere => exact fun t => h.through.scope_of_ne
  case otherStores => exact fun g => h.through.entries_of_ne
  case sharing =>
    intro t g ht hs htg
    have hglobals' : w'.globals t = .empty := by
      rw [World.globals, h.through.storeOf, htg]
      exact hstore g hs
    rw [shown, hglobals', h.through.scope_of_ne ht]
    exact List.append_nil _
  case guards => exact h.guards
  case rest => exact h.rest

theorem Cleared.globals (h : w.Cleared w' s) : w'.globals s = .empty := by
  have hstoreOf : w'.storeOf s = w.storeOf s := by
    rw [storeOf, storeOf, h.scope, h.rest]
    rfl
  rw [World.globals, hstoreOf]
  cases hstore : w.storeOf s with
  | none => rfl
  | some g => exact h.store g hstore

theorem Cleared.shown_eq_nil (h : w.Cleared w' s) : w'.shown s = [] :=
  World.shown_eq_nil (by rw [h.scope]) h.globals

end World

namespace Bindings

variable (b : Bindings) {w : World}

/-- What is listed is removed, if nothing is in the way of either. -/
theorem purged_clear (hlist : w.listFault b.scope = none)
    (hscope : w.scopeWriteFault b.scope = none) (hglobals : w.globalsWriteFault b.scope = none) :
    ∃ (w' : World) (events : List Event), b.clear.run w = ⟨.ok (), w', events⟩ ∧
      World.Purged b.scope ((w.shown b.scope).map Prod.fst) w w' events := by
  rw [run_clear, hlist]
  exact b.purged_removeAll hscope hglobals _

/-- Where nothing is shown there is nothing to clear. -/
theorem run_clear_of_shown_eq_nil (hlist : w.listFault b.scope = none)
    (hshown : w.shown b.scope = []) : b.clear.run w = ⟨.ok (), w, []⟩ := by
  rw [run_clear, hlist, hshown]
  rfl

/-- **Clearing leaves nothing.**  When no cell is held, clearing a scope succeeds, and leaves the scope
without locals and the store below it empty.  Each entry of the store makes a revision, and there is
an event for each of them.  What else it does, or does not, to any scope and any store is
`World.Cleared`.  The loops are short: no name is removed more than three times. -/
theorem clear_law (hfree : w.Unguarded) :
    ∃ w', b.clear.run w = ⟨.ok (), w',
        (List.range' ((w.scope b.scope).revision + 1) (w.globals b.scope).size).map
          (.namespaceChanged (w.scope b.scope).name)⟩ ∧
      w.Cleared w' b.scope ∧
      b.size.run w' = ⟨.ok 0, w', []⟩ ∧
      b.keys.run w' = ⟨.ok [], w', []⟩ ∧
      b.clear.run w' = ⟨.ok (), w', []⟩ ∧
      ∀ n, 3 ≤ n → b.clear = b.clearUpTo n := by
  obtain ⟨w', events, hclear, hpurged⟩ :=
    b.purged_clear hfree.listFault hfree.scopeWriteFault hfree.globalsWriteFault
  have hcleared : w.Cleared w' b.scope := hpurged.cleared
  have hevents := hpurged.events
  rw [hcleared.globals] at hevents
  have hfree' : w'.Unguarded := hfree.of_guards hcleared.guards
  have hshown := hcleared.shown_eq_nil
  refine ⟨w', hevents ▸ hclear, hcleared, ?_, ?_,
    run_clear_of_shown_eq_nil b hfree'.listFault hshown, fun n => b.clear_eq_clearUpTo⟩
  · rw [run_size, hfree'.listFault, hshown]
    rfl
  · rw [run_keys, hfree'.listFault, hshown]
    rfl

/-- Two scopes over one store.  The first one hides a variable of the store, and is cleared; the second
one has a local of its own, and keeps it. -/
theorem clear_law_shared_store :
    let old : Value := ⟨⟨0⟩, .unit⟩
    let new : Value := ⟨⟨1⟩, .bool true⟩
    let first : Scope := ⟨"main", .ofList [("z", new), ("x", new)], ⟨0⟩, 7⟩
    let second : Scope := ⟨"main", .ofList [("z", old)], ⟨0⟩, 0⟩
    let w : World := { World.empty with
      scopes := replaceAt (fun _ => { content := second }) ⟨0⟩ { content := first }
      links := fun _ => { content := some ⟨0⟩ }
      stores := fun _ => { content := .ofList [("x", old), ("y", old)] } }
    let done := Bindings.clear ⟨⟨0⟩⟩ |>.run w
    w.Unguarded ∧ done.state.shown ⟨0⟩ = [] ∧ done.state.shown ⟨1⟩ = [("z", old)] ∧
      (done.state.scope ⟨0⟩).revision = 9 ∧
      done.events = [.namespaceChanged "main" 8, .namespaceChanged "main" 9] := by
  intro old new first second w done
  have hfree : w.Unguarded := by
    rintro (s | l | g)
    · by_cases hs : s = ⟨0⟩
      · subst hs; rfl
      · simp only [w, World.guardOf, replaceAt_of_ne _ _ hs]
    · rfl
    · rfl
  obtain ⟨after, hclear, hcleared, -, -, -, -⟩ := clear_law ⟨⟨0⟩⟩ hfree
  have hafter : done.state = after := congrArg Outcome.state hclear
  subst hafter
  refine ⟨hfree, hcleared.shown_eq_nil, hcleared.sharing ⟨1⟩ ⟨0⟩ (by decide) rfl rfl, ?_, ?_⟩
  · rw [hcleared.scope]
    rfl
  · exact congrArg Outcome.events hclear

end Bindings

end ScriptHost
