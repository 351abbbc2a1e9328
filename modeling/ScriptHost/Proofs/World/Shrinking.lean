import ScriptHost.Proofs.World.Runs

/-!
# Only the host adds names to a store

A write to a store replaces the value of a name or adds the name, and both are one insertion.  What
keeps operations from adding names is that they look a name up before they write it, and write it
where they have found it.

* `Bindings.shrinks_operate` — what an operation leaves of the names in a store is a sublist, so
  their order does not change either.
* `Bindings.staysGlobal_operate` — as long as a name stays in the store below a scope, only
  declaring the name makes a local of it.
* `World.keys_sublist_afterAll` — both for whole runs.

The two relations, `World.Shrinks` and `World.StaysGlobal`, hold across each write, and so across
however many writes an operation takes.
-/

set_option autoImplicit false

namespace ScriptHost

open ScriptHost.Action

namespace World

variable {w w' : World} {s t : ScopeRef} {name other : String} {g : StoreRef}

/-! ## Across a write no store grows -/

/-- No store has a new name, and the names that are left are in their old order. -/
def Shrinks (w w' : World) : Prop := ∀ g, (w'.entries g).keys.Sublist (w.entries g).keys

instance : IsPreorder World Shrinks where
  refl _ := fun _ => List.Sublist.refl _
  trans _ _ _ h h' := fun g => (h' g).trans (h g)

/-- Whatever happens to scopes and links. -/
theorem shrinks_of_entries_eq (h : ∀ g, w'.entries g = w.entries g) : Shrinks w w' :=
  fun g => by rw [h]

theorem shrinks_setEntries {entries : Table Value}
    (h : entries.keys.Sublist (w.entries g).keys) : Shrinks w (w.setEntries g entries) := by
  intro g'
  by_cases hg : g' = g
  · rw [hg, entries_setEntries_self]
    exact h
  · rw [entries_setEntries_of_ne _ _ _ _ hg]

theorem shrinks_erase (w : World) (g : StoreRef) (name : String) :
    Shrinks w (w.setEntries g ((w.entries g).erase name)) :=
  shrinks_setEntries (by rw [Table.keys_erase]; exact List.filter_sublist)

/-- Where a name is found, an insertion adds nothing. -/
theorem shrinks_insert_home (h : w.home? s name = some g) (value : Value) :
    Shrinks w (w.setEntries g ((w.entries g).insert name value)) := by
  have hmem : name ∈ (w.entries g).keys := (Table.mem_keys_iff _ _).2 (home?_eq_some_iff.1 h).2.2
  exact shrinks_setEntries (by rw [Table.keys_insert, if_pos hmem])

theorem acrossWrites_shrinks (s : ScopeRef) : AcrossWrites Shrinks s where
  assign w name value := by
    rw [assign]
    cases h : w.home? s name with
    | some g => exact shrinks_insert_home h value
    | none => exact shrinks_of_entries_eq fun _ => rfl
  unassign w name := by
    rw [unassign]
    cases h : w.home? s name with
    | some g =>
      have herase := shrinks_erase w g name
      exact IsTrans.trans _ _ _ herase (shrinks_of_entries_eq fun _ => rfl)
    | none =>
      simp only
      split <;> exact shrinks_of_entries_eq fun _ => rfl
  undefine _ _ := shrinks_of_entries_eq fun _ => rfl

/-! ## Across a write no global becomes a local -/

/-- As long as the name stays in the store below the scope, it is a local only if it was one. -/
structure StaysGlobal (s : ScopeRef) (name : String) (w w' : World) : Prop where
  storeOf : w'.storeOf s = w.storeOf s
  shrinks : Shrinks w w'
  isLocal : ∀ g, w.storeOf s = some g → name ∈ (w'.entries g).keys → w'.isLocal s name →
    w.isLocal s name

instance (s : ScopeRef) (name : String) : IsPreorder World (StaysGlobal s name) where
  refl w := ⟨rfl, refl w, fun _ _ _ h => h⟩
  trans w₁ w₂ w₃ h h' := by
    refine ⟨h'.storeOf.trans h.storeOf, IsTrans.trans _ _ _ h.shrinks h'.shrinks, ?_⟩
    intro g hg hmem hlocal
    have hlocal' := h'.isLocal g (h.storeOf.trans hg) hmem hlocal
    exact h.isLocal g hg ((h'.shrinks g).subset hmem) hlocal'

/-- A new local is the only name that becomes one. -/
theorem isLocal_of_isLocal_define {value : Value} (h : (w.define t other value).isLocal s name)
    (hne : ¬ (s = t ∧ name = other)) : w.isLocal s name := by
  rwa [isLocal_define, if_neg hne] at h

/-- A name that a write would declare is not in the store. -/
theorem staysGlobal_define (value : Value)
    (h : s = t → name = other → ∀ g, w.storeOf s = some g → name ∈ (w.entries g).keys →
      w.isLocal s name) :
    StaysGlobal s name w (w.define t other value) := by
  refine ⟨storeOf_define value, shrinks_of_entries_eq fun _ => rfl, fun g hg hmem hlocal => ?_⟩
  by_cases hsame : s = t ∧ name = other
  · exact h hsame.1 hsame.2 g hg hmem
  · exact isLocal_of_isLocal_define hlocal hsame

/-- Fewer locals are no new locals. -/
theorem isLocal_of_isLocal_undefine (h : (w.undefine t other).isLocal s name) :
    w.isLocal s name := by
  rw [isLocal_undefine] at h
  split at h
  · exact absurd h Bool.false_ne_true
  · exact h

theorem acrossWrites_staysGlobal (s t : ScopeRef) (name : String) :
    AcrossWrites (StaysGlobal s name) t where
  assign w other value := by
    have hshrinks := (acrossWrites_shrinks t).assign w other value
    rw [assign] at hshrinks ⊢
    cases h : w.home? t other with
    | some g =>
      rw [h] at hshrinks
      exact ⟨rfl, hshrinks, fun _ _ _ hlocal => hlocal⟩
    | none =>
      refine staysGlobal_define value fun hs hn g hg hmem => ?_
      subst hs hn
      by_contra hlocal
      -- the name would have been found in the store
      exact not_contains_of_home? h hlocal hg ((Table.mem_keys_iff _ _).1 hmem)
  unassign w other := by
    have hshrinks := (acrossWrites_shrinks t).unassign w other
    have hstoreOf := ((acrossWrites_through t).unassign w other).storeOf s
    refine ⟨hstoreOf, hshrinks, fun _ _ _ hlocal => ?_⟩
    rw [unassign] at hlocal
    cases h : w.home? t other with
    | some g =>
      rw [h] at hlocal
      simp only [isLocal_setScope] at hlocal
      split at hlocal
      · next hs => rwa [hs]
      · exact hlocal
    | none =>
      rw [h] at hlocal
      simp only at hlocal
      split at hlocal
      · exact isLocal_of_isLocal_undefine hlocal
      · exact hlocal
  undefine w other :=
    ⟨((acrossWrites_through t).undefine w other).storeOf s, shrinks_of_entries_eq fun _ => rfl,
      fun _ _ _ hlocal => isLocal_of_isLocal_undefine hlocal⟩

end World

/-! ## Across an operation -/

/-- **No operation adds a name to a store.** -/
theorem Bindings.shrinks_operate (b : Bindings) (op : Operation) :
    Keeps World.Shrinks (b.operate op) :=
  b.keeps_operate (World.acrossWrites_shrinks b.scope) op
    fun _ _ _ _ => World.shrinks_of_entries_eq fun _ => rfl

/-- **No operation but its declaration makes a local of a global.** -/
theorem Bindings.staysGlobal_operate (b : Bindings) (op : Operation) (s : ScopeRef) (name : String)
    (h : ∀ value, s = b.scope → op ≠ .define name value) :
    Keeps (World.StaysGlobal s name) (b.operate op) := by
  refine b.keeps_operate (World.acrossWrites_staysGlobal s b.scope name) op ?_
  rintro other value rfl w
  exact World.staysGlobal_define value fun hs hn => absurd (hn ▸ rfl) (h value hs)

/-! ## Whole runs -/

namespace World

variable {w : World} {s : ScopeRef} {name : String} {g : StoreRef}

/-- The names of one store. -/
def ShrinksAt (g : StoreRef) (w w' : World) : Prop :=
  (w'.entries g).keys.Sublist (w.entries g).keys

instance (g : StoreRef) : IsPreorder World (ShrinksAt g) where
  refl _ := List.Sublist.refl _
  trans _ _ _ h h' := h'.trans h

/-- Of all steps, only the host's own insertion adds a name to a store. -/
theorem shrinksAt_after (w : World) {step : Step} (h : ∀ name value, step ≠ .insert g name value) :
    ShrinksAt g w (w.after step) := by
  by_cases hop : ∃ s op, step = .operate s op
  · obtain ⟨s, op, rfl⟩ := hop
    exact Bindings.shrinks_operate ⟨s⟩ op w g
  by_cases hremove : ∃ name, step = .remove g name
  · obtain ⟨name, rfl⟩ := hremove
    rw [after_remove]
    split
    · exact shrinks_erase w g name g
    · exact refl w
  have hsame : (w.after step).entries g = w.entries g :=
    entries_after g (fun s op heq => hop ⟨s, op, heq⟩) h fun name heq => hremove ⟨name, heq⟩
  rw [ShrinksAt, hsame]

theorem shrinksAt_afterAll (w : World) {steps : List Step}
    (h : ∀ name value, .insert g name value ∉ steps) : ShrinksAt g w (w.afterAll steps) :=
  related_afterAll w steps fun w _ hstep =>
    shrinksAt_after w fun name value heq => h name value (heq ▸ hstep)

/-- While a name stays in the store below a scope, only its declaration makes a local of it. -/
theorem isLocal_of_isLocal_after {step : Step} (hexist : s.index < w.scopeCount)
    (hstep : ∀ value, step ≠ .operate s (.define name value)) (hstore : w.storeOf s = some g)
    (hmem : name ∈ ((w.after step).entries g).keys) (hlocal : (w.after step).isLocal s name) :
    w.isLocal s name := by
  by_cases hop : ∃ op, step = .operate s op
  · obtain ⟨op, rfl⟩ := hop
    have hkeeps := Bindings.staysGlobal_operate ⟨s⟩ op s name
      fun value _ heq => hstep value (heq ▸ rfl)
    exact (hkeeps w).isLocal g hstore hmem hlocal
  · rwa [isLocal, scope_after hexist fun op heq => hop ⟨op, heq⟩] at hlocal

theorem isLocal_of_isLocal_afterAll {steps : List Step} (hexist : s.index < w.scopeCount)
    (hsteps : ∀ value, .operate s (.define name value) ∉ steps)
    (hstays : ∀ before, before <+: steps → (w.afterAll before).storeOf s = some g ∧
      name ∈ ((w.afterAll before).entries g).keys)
    (hlocal : (w.afterAll steps).isLocal s name) : w.isLocal s name := by
  induction steps generalizing w with
  | nil => exact hlocal
  | cons step rest ih =>
    have hrest := ih (Nat.lt_of_lt_of_le hexist (w.scopeCount_le_after step))
      (fun value hmem => hsteps value (List.mem_cons_of_mem _ hmem))
      (fun before hbefore => hstays (step :: before) ((List.prefix_cons_inj step).2 hbefore)) hlocal
    refine isLocal_of_isLocal_after hexist ?_ (hstays [] List.nil_prefix).1
      (hstays [step] (List.prefix_cons_inj step |>.2 List.nil_prefix)).2 hrest
    exact fun value heq => hsteps value (heq ▸ List.mem_cons_self)

/-- **Only the host adds names to a store.**  Whatever happens in a world, if the host itself inserts
nothing into a store, then the names that the store has in the end are a sublist of those that it had
at first, and a name that was gone at any moment is not among them.  A name that is still there has
become a local of a scope over that store only if it was declared through that scope. -/
theorem keys_sublist_afterAll (w : World) (steps : List Step) (g : StoreRef)
    (hhost : ∀ name value, .insert g name value ∉ steps) :
    ((w.afterAll steps).entries g).keys.Sublist (w.entries g).keys ∧
      (∀ before rest name, steps = before ++ rest →
        name ∉ ((w.afterAll before).entries g).keys →
        name ∉ ((w.afterAll steps).entries g).keys) ∧
      ∀ s name, s.index < w.scopeCount →
        (∀ before, before <+: steps → (w.afterAll before).storeOf s = some g) →
        name ∈ ((w.afterAll steps).entries g).keys →
        w.isLocal s name = false → (w.afterAll steps).isLocal s name = true →
        ∃ value, .operate s (.define name value) ∈ steps := by
  have hgone : ∀ before rest name, steps = before ++ rest →
      name ∉ ((w.afterAll before).entries g).keys →
      name ∉ ((w.afterAll steps).entries g).keys := by
    rintro before rest name rfl hgone hmem
    rw [afterAll_append] at hmem
    refine hgone ((shrinksAt_afterAll _ fun name value hin => ?_).subset hmem)
    exact hhost name value (List.mem_append_right _ hin)
  refine ⟨shrinksAt_afterAll w hhost, hgone, fun s name hexist hstore hmem hnot hlocal => ?_⟩
  by_contra hnone
  have hbefore := isLocal_of_isLocal_afterAll (g := g) hexist (fun value hin => hnone ⟨value, hin⟩)
    (fun before hprefix => ⟨hstore before hprefix, ?_⟩) hlocal
  · rw [hnot] at hbefore
    exact Bool.false_ne_true hbefore
  · -- a name that is there in the end was there all the time
    obtain ⟨rest, hsplit⟩ := hprefix
    by_contra hout
    exact hgone before rest name hsplit.symm hout hmem

/-- Two scopes over one store: a name is removed through one of them, and does not come back when it
is put through the other one. -/
theorem keys_sublist_afterAll_shared_store :
    let value : Value := ⟨⟨0⟩, .unit⟩
    let w : World := { World.empty with
      scopeCount := 2
      links := fun _ => { content := some ⟨0⟩ }
      stores := fun _ => { content := .ofList [("x", value), ("y", value)] } }
    let steps : List Step := [.operate ⟨0⟩ (.request (.remove (.name "x"))), .hold (.store ⟨0⟩) .read,
      .operate ⟨1⟩ (.define "y" value), .operate ⟨1⟩ (.request (.put (.name "x") value))]
    (w.afterAll steps).isLocal ⟨1⟩ "y" = true ∧ "x" ∉ ((w.afterAll steps).entries ⟨0⟩).keys ∧
      ∃ value, .operate ⟨1⟩ (.define "y" value) ∈ steps := by
  intro value w steps
  have hsteps : ∀ name value, .insert ⟨0⟩ name value ∉ steps := by
    intro name value hmem
    simp [steps] at hmem
  have hlinked : ∀ before, before <+: steps → (w.afterAll before).storeOf ⟨1⟩ = some ⟨0⟩ := by
    intro before hbefore
    simp only [steps, List.prefix_cons_iff, List.prefix_nil] at hbefore
    rcases hbefore with
      rfl | ⟨_, rfl, rfl | ⟨_, rfl, rfl | ⟨_, rfl, rfl | ⟨_, rfl, rfl⟩⟩⟩⟩ <;> rfl
  obtain ⟨-, hgone, hlocal⟩ := keys_sublist_afterAll w steps ⟨0⟩ hsteps
  have hy : (w.afterAll steps).isLocal ⟨1⟩ "y" = true := by decide +kernel
  have hx : "x" ∉ ((w.afterAll (steps.take 1)).entries ⟨0⟩).keys := by decide +kernel
  have hstay : "y" ∈ ((w.afterAll steps).entries ⟨0⟩).keys := by decide +kernel
  exact ⟨hy, hgone (steps.take 1) (steps.drop 1) "x" rfl hx,
    hlocal ⟨1⟩ "y" (by decide) hlinked hstay (by decide) hy⟩

end World

end ScriptHost
