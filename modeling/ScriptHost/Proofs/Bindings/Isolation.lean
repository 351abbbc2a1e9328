import ScriptHost.Proofs.Bindings.Operations
import ScriptHost.Proofs.World.Frame

/-!
# What an operation cannot reach

An operation goes through one scope.  `World.Through s w w'` says how far that reaches: the scope `s`
itself, but for its link, and the entries of the store that it is linked to.  Every other cell is the
same, content and guard.

* `Bindings.through_operate` — every operation stays within these bounds, whatever comes of it.
* `World.Through.shownValue_ne` — so another scope can only come to show something else for a name
  if it shows the name from a store that has changed under it.
-/

set_option autoImplicit false

namespace ScriptHost

open ScriptHost.Action

namespace World

variable {s t : ScopeRef} {w w' : World} {name : String}

/-- Of all cells at most the scope `s` and the store that it is linked to have changed. -/
structure Through (s : ScopeRef) (w w' : World) : Prop where
  scopes : ∀ t, t ≠ s → w'.scopes t = w.scopes t
  link : (w'.scope s).link = (w.scope s).link
  links : w'.links = w.links
  stores : ∀ g, w.storeOf s ≠ some g → w'.stores g = w.stores g
  scopeCount : w'.scopeCount = w.scopeCount

theorem Through.storeOf (h : Through s w w') (t : ScopeRef) : w'.storeOf t = w.storeOf t := by
  have hlink : (w'.scope t).link = (w.scope t).link := by
    by_cases ht : t = s
    · rw [ht, h.link]
    · rw [scope, scope, h.scopes t ht]
  rw [World.storeOf, World.storeOf, linked, linked, hlink, h.links]

theorem Through.scope_of_ne (h : Through s w w') (ht : t ≠ s) : w'.scope t = w.scope t :=
  congrArg Cell.content (h.scopes t ht)

theorem Through.entries_of_ne (h : Through s w w') {g : StoreRef} (hg : w.storeOf s ≠ some g) :
    w'.entries g = w.entries g :=
  congrArg Cell.content (h.stores g hg)

instance (s : ScopeRef) : IsPreorder World (Through s) where
  refl w := ⟨fun _ _ => rfl, rfl, rfl, fun _ _ => rfl, rfl⟩
  trans w₁ w₂ w₃ h h' := by
    refine ⟨fun t ht => (h'.scopes t ht).trans (h.scopes t ht), h'.link.trans h.link,
      h'.links.trans h.links, fun g hg => ?_, h'.scopeCount.trans h.scopeCount⟩
    exact (h'.stores g (by rwa [h.storeOf])).trans (h.stores g hg)

/-- A new content of the scope that leads to the same link. -/
theorem through_setScope (w : World) (s : ScopeRef) {scope : Scope}
    (hlink : scope.link = (w.scope s).link) : Through s w (w.setScope s scope) where
  scopes t ht := replaceAt_of_ne _ _ ht
  link := by rw [scope_setScope_self, hlink]
  links := rfl
  stores _ _ := rfl
  scopeCount := rfl

/-- New entries of the store below the scope. -/
theorem through_setEntries {g : StoreRef} (h : w.storeOf s = some g) (entries : Table Value) :
    Through s w (w.setEntries g entries) where
  scopes _ _ := rfl
  link := rfl
  links := rfl
  stores _ hg' := replaceAt_of_ne _ _ fun heq => hg' (heq ▸ h)
  scopeCount := rfl

theorem through_define (w : World) (s : ScopeRef) (name : String) (value : Value) :
    Through s w (w.define s name value) :=
  through_setScope w s rfl

theorem acrossWrites_through (s : ScopeRef) : AcrossWrites (Through s) s where
  assign w name value := by
    rw [assign]
    cases hhome : w.home? s name with
    | some g => exact through_setEntries (home?_eq_some_iff.1 hhome).2.1 _
    | none => exact through_define w s name value
  unassign w name := by
    rw [unassign]
    cases hhome : w.home? s name with
    | some g =>
      have herase := through_setEntries (home?_eq_some_iff.1 hhome).2.1 ((w.entries g).erase name)
      exact IsTrans.trans _ _ _ herase (through_setScope _ s rfl)
    | none =>
      simp only
      split
      · exact through_setScope w s rfl
      · exact refl w
  undefine w _ := through_setScope w s rfl

/-- What another scope shows for a name has changed only if it is no local there and the store has
changed under it. -/
theorem Through.shownValue_ne (h : Through s w w') (ht : t ≠ s)
    (hne : w'.shownValue t name ≠ w.shownValue t name) :
    w.isLocal t name = false ∧ ∃ g, w.storeOf t = some g ∧ w'.storeOf t = some g ∧
      (w'.entries g).find? name ≠ (w.entries g).find? name := by
  rw [shownValue, shownValue, h.scope_of_ne ht] at hne
  cases hfind : (w.scope t).locals.find? name with
  | some value =>
    rw [hfind] at hne
    exact absurd rfl hne
  | none =>
    rw [hfind, Option.none_or, Option.none_or, globals, globals, h.storeOf] at hne
    refine ⟨by rw [isLocal, Table.contains, hfind]; rfl, ?_⟩
    cases hstore : w.storeOf t with
    | none =>
      rw [hstore] at hne
      exact absurd rfl hne
    | some g =>
      rw [hstore] at hne
      exact ⟨g, rfl, by rw [h.storeOf, hstore], hne⟩

end World

/-- **An operation stays within its scope and the store below it.** -/
theorem Bindings.through_operate (b : Bindings) (op : Operation) :
    Keeps (World.Through b.scope) (b.operate op) :=
  b.keeps_operate (World.acrossWrites_through b.scope) op
    fun name value _ w => World.through_define w b.scope name value

end ScriptHost
