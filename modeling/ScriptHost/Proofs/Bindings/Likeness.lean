import ScriptHost.Proofs.Bindings.Operations

/-!
# Scopes that look alike

A scope looks out on three cells: its own, its link, and the store behind the link.  If two scopes,
perhaps in two worlds and perhaps under two names, look out on equal cells, then nothing that is done
through them can tell one from the other: it meets the same guards, finds the same variables, and
changes the same things.

* `World.Alike` — the cells that the two scopes look out on are equal.
* `Bindings.parallel_operate` — if a relation between worlds makes two scopes alike, and lasts when
  both worlds are changed in the same way, then the same operation through the two scopes gives the
  same answer in related worlds, and the worlds are still related.
-/

set_option autoImplicit false

namespace ScriptHost

open ScriptHost.Action Outcome

namespace World

/-- Scope `s` in one world and scope `s'` in the other look out on equal cells. -/
structure Alike (w : World) (s : ScopeRef) (w' : World) (s' : ScopeRef) : Prop where
  cell : w.scopes s = w'.scopes s'
  link : w.links (w.scope s).link = w'.links (w'.scope s').link
  store : ∀ g, w.storeOf s = some g → w.stores g = w'.stores g

namespace Alike

variable {w w' : World} {s s' : ScopeRef}

/-! ### The same variables -/

theorem scope (h : w.Alike s w' s') : w.scope s = w'.scope s' := congrArg Cell.content h.cell

theorem storeOf (h : w.Alike s w' s') : w.storeOf s = w'.storeOf s' := congrArg Cell.content h.link

theorem entries (h : w.Alike s w' s') {g : StoreRef} (hg : w.storeOf s = some g) :
    w.entries g = w'.entries g :=
  congrArg Cell.content (h.store g hg)

theorem globals (h : w.Alike s w' s') : w.globals s = w'.globals s' := by
  rw [World.globals, World.globals, ← h.storeOf]
  cases hg : w.storeOf s with
  | none => rfl
  | some g => exact h.entries hg

theorem isLocal (h : w.Alike s w' s') (name : String) : w.isLocal s name = w'.isLocal s' name := by
  rw [World.isLocal, World.isLocal, h.scope]

theorem home? (h : w.Alike s w' s') (name : String) : w.home? s name = w'.home? s' name := by
  rw [World.home?, World.home?, h.isLocal, ← h.storeOf]
  split
  · rfl
  · cases hg : w.storeOf s with
    | none => rfl
    | some g => rw [Option.filter_some, Option.filter_some, h.entries hg]

theorem shownValue (h : w.Alike s w' s') (name : String) :
    w.shownValue s name = w'.shownValue s' name := by
  rw [World.shownValue, World.shownValue, h.scope, h.globals]

theorem shown (h : w.Alike s w' s') : w.shown s = w'.shown s' := by
  rw [World.shown, World.shown, h.scope, h.globals]

theorem unassignEvents (h : w.Alike s w' s') (name : String) :
    w.unassignEvents s name = w'.unassignEvents s' name := by
  rw [World.unassignEvents, World.unassignEvents, h.home?, h.scope]

/-! ### The same faults -/

theorem scopeReadFault (h : w.Alike s w' s') : w.scopeReadFault s = w'.scopeReadFault s' := by
  rw [World.scopeReadFault, World.scopeReadFault, h.cell]

theorem scopeWriteFault (h : w.Alike s w' s') : w.scopeWriteFault s = w'.scopeWriteFault s' := by
  rw [World.scopeWriteFault, World.scopeWriteFault, h.cell]

theorem linkFault (h : w.Alike s w' s') : w.linkFault s = w'.linkFault s' := by
  rw [World.linkFault, World.linkFault, h.link]

theorem storeReadFault (h : w.Alike s w' s') {g : StoreRef} (hg : w.storeOf s = some g) :
    w.storeReadFault g = w'.storeReadFault g := by
  rw [World.storeReadFault, World.storeReadFault, h.store g hg]

theorem storeWriteFault (h : w.Alike s w' s') {g : StoreRef} (hg : w.storeOf s = some g) :
    w.storeWriteFault g = w'.storeWriteFault g := by
  rw [World.storeWriteFault, World.storeWriteFault, h.store g hg]

theorem globalsReadFault (h : w.Alike s w' s') : w.globalsReadFault s = w'.globalsReadFault s' := by
  rw [World.globalsReadFault, World.globalsReadFault, h.linkFault, ← h.storeOf]
  cases hg : w.storeOf s with
  | none => rfl
  | some g => rw [Option.bind_some, Option.bind_some, h.storeReadFault hg]

theorem globalsWriteFault (h : w.Alike s w' s') :
    w.globalsWriteFault s = w'.globalsWriteFault s' := by
  rw [World.globalsWriteFault, World.globalsWriteFault, h.linkFault, ← h.storeOf]
  cases hg : w.storeOf s with
  | none => rfl
  | some g => rw [Option.bind_some, Option.bind_some, h.storeWriteFault hg]

theorem readFault (h : w.Alike s w' s') (name : String) :
    w.readFault s name = w'.readFault s' name := by
  rw [World.readFault, World.readFault, h.scopeReadFault, h.isLocal, h.globalsReadFault]

theorem writeFault (h : w.Alike s w' s') (name : String) :
    w.writeFault s name = w'.writeFault s' name := by
  rw [World.writeFault, World.writeFault, h.readFault, ← h.home?]
  cases hhome : w.home? s name with
  | none =>
    simp only
    rw [h.scopeWriteFault]
  | some g =>
    simp only
    rw [h.storeWriteFault (home?_eq_some_iff.1 hhome).2.1]

theorem removeFault (h : w.Alike s w' s') (name : String) :
    w.removeFault s name = w'.removeFault s' name := by
  rw [World.removeFault, World.removeFault, h.scopeWriteFault, h.isLocal, h.globalsWriteFault]

theorem listFault (h : w.Alike s w' s') : w.listFault s = w'.listFault s' := by
  rw [World.listFault, World.listFault, h.scopeReadFault, h.globalsReadFault]

end Alike

/-! ## Changing two worlds in the same way -/

/-- A relation between worlds that makes two scopes alike, and lasts when both scopes are given the
same content, or the store below them the same entries. -/
structure Likeness (R : World → World → Prop) (s s' : ScopeRef) : Prop where
  alike : ∀ {w w'}, R w w' → w.Alike s w' s'
  setScope : ∀ {w w'} {scope : Scope}, R w w' → scope.link = (w.scope s).link →
    R (w.setScope s scope) (w'.setScope s' scope)
  setEntries : ∀ {w w'} {g : StoreRef} (entries : Table Value), R w w' → w.storeOf s = some g →
    R (w.setEntries g entries) (w'.setEntries g entries)

namespace Likeness

variable {R : World → World → Prop} {s s' : ScopeRef} {w w' : World}

theorem define (hR : Likeness R s s') (h : R w w') (name : String) (value : Value) :
    R (w.define s name value) (w'.define s' name value) := by
  rw [World.define, World.define, ← (hR.alike h).scope]
  exact hR.setScope h rfl

theorem undefine (hR : Likeness R s s') (h : R w w') (name : String) :
    R (w.undefine s name) (w'.undefine s' name) := by
  rw [World.undefine, World.undefine, ← (hR.alike h).scope]
  exact hR.setScope h rfl

theorem assign (hR : Likeness R s s') (h : R w w') (name : String) (value : Value) :
    R (w.assign s name value) (w'.assign s' name value) := by
  rw [World.assign, World.assign, ← (hR.alike h).home?]
  cases hhome : w.home? s name with
  | none => exact hR.define h name value
  | some g =>
    have hg := (home?_eq_some_iff.1 hhome).2.1
    simp only
    rw [← (hR.alike h).entries hg]
    exact hR.setEntries _ h hg

theorem unassign (hR : Likeness R s s') (h : R w w') (name : String) :
    R (w.unassign s name) (w'.unassign s' name) := by
  rw [World.unassign, World.unassign, ← (hR.alike h).home?]
  cases hhome : w.home? s name with
  | none =>
    simp only
    rw [← (hR.alike h).isLocal]
    split
    · exact hR.undefine h name
    · exact h
  | some g =>
    have hg := (home?_eq_some_iff.1 hhome).2.1
    simp only
    rw [← (hR.alike h).entries hg, ← (hR.alike h).scope]
    exact hR.setScope (hR.setEntries _ h hg) rfl

end Likeness

end World

/-! ## Operations -/

/-- Accesses that meet the same faults and change two worlds in the same way. -/
theorem parallel_of_barring {α : Type} {R : World → World → Prop} {x y : Action AccessError World α}
    {fault fault' : World → Option AccessError} {a a' : World → α} {next next' : World → World}
    {events events' : World → List Event}
    (hx : ∀ w, x.run w = barring (fault w) w ⟨.ok (a w), next w, events w⟩)
    (hy : ∀ w, y.run w = barring (fault' w) w ⟨.ok (a' w), next' w, events' w⟩)
    (h : ∀ w w', R w w' → fault w = fault' w' ∧ a w = a' w' ∧ events w = events' w' ∧
      R (next w) (next' w')) : Parallel R x y := by
  intro w w' hR
  obtain ⟨hfault, ha, hevents, hnext⟩ := h w w' hR
  rw [hx, hy, hfault, ha, hevents]
  cases fault' w' with
  | none => exact ⟨rfl, rfl, hnext⟩
  | some e => exact ⟨rfl, rfl, hR⟩

section

variable {R : World → World → Prop} {s s' : ScopeRef}

theorem ScopeRef.parallel_define (hR : World.Likeness R s s') (name : String) (value : Value) :
    Parallel R (s.define name value) (s'.define name value) :=
  parallel_of_barring (run_define · s name value) (run_define · s' name value) fun w w' h =>
    ⟨(hR.alike h).scopeWriteFault, by rw [(hR.alike h).scope], rfl, hR.define h name value⟩

theorem ScopeRef.congruent_parallel (hR : World.Likeness R s s') :
    ScopeRef.Congruent (fun {_ _} x y => Parallel R x y) s s' where
  names := parallel_of_barring (run_names · s) (run_names · s') fun w w' h =>
    ⟨(hR.alike h).listFault, by rw [(hR.alike h).shown], rfl, h⟩
  get name := parallel_of_barring (run_get · s name) (run_get · s' name) fun w w' h =>
    ⟨(hR.alike h).readFault name, (hR.alike h).shownValue name, rfl, h⟩
  set name value :=
    parallel_of_barring (run_set · s name value) (run_set · s' name value) fun w w' h =>
      ⟨(hR.alike h).writeFault name, (hR.alike h).shownValue name, rfl, hR.assign h name value⟩
  unset name := parallel_of_barring (run_unset · s name) (run_unset · s' name) fun w w' h =>
    ⟨(hR.alike h).removeFault name, (hR.alike h).shownValue name,
      (hR.alike h).unassignEvents name, hR.unassign h name⟩
  localNames := parallel_of_barring (run_localNames · s) (run_localNames · s') fun w w' h =>
    ⟨(hR.alike h).scopeReadFault, by rw [(hR.alike h).scope], rfl, h⟩
  getLocal name :=
    parallel_of_barring (run_getLocal · s name) (run_getLocal · s' name) fun w w' h =>
      ⟨(hR.alike h).scopeReadFault, by rw [(hR.alike h).scope], rfl, h⟩
  isLocal name := parallel_of_barring (run_isLocal · s name) (run_isLocal · s' name) fun w w' h =>
    ⟨(hR.alike h).scopeReadFault, (hR.alike h).isLocal name, rfl, h⟩
  unsetLocal name :=
    parallel_of_barring (run_unsetLocal · s name) (run_unsetLocal · s' name) fun w w' h =>
      ⟨(hR.alike h).scopeWriteFault, by rw [(hR.alike h).scope], rfl, hR.undefine h name⟩

/-- **Scopes that look alike behave alike.** -/
theorem Bindings.parallel_operate {b b' : Bindings} (hR : World.Likeness R b.scope b'.scope)
    (op : Operation) : Parallel R (b.operate op) (b'.operate op) :=
  operate_congr (compositional_parallel R) (ScopeRef.congruent_parallel hR) op
    fun name value _ => ScopeRef.parallel_define hR name value

end

end ScriptHost
