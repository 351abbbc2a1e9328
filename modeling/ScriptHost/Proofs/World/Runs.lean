import ScriptHost.Engine
import ScriptHost.Proofs.Bindings.Isolation

/-!
# Runs of a world

Many parties share a world: contexts come into being, scripts and hosts operate through scopes,
contexts exchange their stores, callers hold cells and let them go, and a host may write to a store
directly.  A `World.Step` is one of these, and a run is a list of steps, one after the other,
whether they fail or not: `World.afterAll`.

Most steps leave most cells alone.  `World.scope_after` and `World.entries_after` say which steps
change the content of a scope, and the entries of a store.
-/

set_option autoImplicit false

namespace ScriptHost.World

/-! ## Steps -/

/-- Something that happens in a world. -/
inductive Step : Type 1 where
  /-- An operation through a scope. -/
  | operate (s : ScopeRef) (op : Bindings.Operation)
  | newContext {σ τ : Type} (settings : Settings) (out : σ) (err : τ)
  /-- A new scope in a context. -/
  | newScope {σ τ : Type} (c : Context σ τ)
  /-- A context is linked to another store, or to none. -/
  | setGlobalStore {σ τ : Type} (c : Context σ τ) (store : Option StoreRef)
  /-- Somebody wants to hold a cell. -/
  | hold (r : Resource) (mode : Guard.Mode)
  | letGo (r : Resource)
  /-- The host gives a name a value in a store. -/
  | insert (g : StoreRef) (name : String) (value : Value)
  /-- The host removes a name from a store. -/
  | remove (g : StoreRef) (name : String)

/-- The world after a step, whether the step failed or not. -/
def after (w : World) : Step → World
  | .operate s op => (((⟨s⟩ : Bindings).operate op).run w).state
  | .newContext settings out err =>
    ((Context.new settings out err : Action Empty World _).run w).state
  | .newScope c => ((c.newScope : Action Empty World ScopeRef).run w).state
  | .setGlobalStore c store => ((c.setGlobalStore store).run w).state
  | .hold r mode => ((ScriptHost.hold r mode : Action Empty World Bool).run w).state
  | .letGo r => ((ScriptHost.letGo r : Action Empty World Unit).run w).state
  | .insert g name value => ((g.insert name value).run w).state
  | .remove g name => ((g.remove name).run w).state

/-- The world after a run. -/
def afterAll (w : World) (steps : List Step) : World := steps.foldl after w

theorem afterAll_append (w : World) (before rest : List Step) :
    w.afterAll (before ++ rest) = (w.afterAll before).afterAll rest :=
  List.foldl_append

/-- **A preorder that holds across each step holds across the run.** -/
theorem related_afterAll {R : World → World → Prop} [IsPreorder World R] (w : World)
    (steps : List Step) (h : ∀ w, ∀ step ∈ steps, R w (w.after step)) : R w (w.afterAll steps) := by
  induction steps generalizing w with
  | nil => exact refl w
  | cons step rest ih =>
    refine IsTrans.trans _ _ _ (h w step List.mem_cons_self) (ih (w.after step) ?_)
    exact fun w step hstep => h w step (List.mem_cons_of_mem _ hstep)

/-! ## Holding cells -/

section

variable (w : World) (guard : Guard) (r : Resource)

@[simp] theorem scope_setGuard (s : ScopeRef) : (w.setGuard guard r).scope s = w.scope s := by
  cases r with
  | scope t =>
    by_cases h : s = t
    · simp only [setGuard, scope, h, replaceAt_self]
    · simp only [setGuard, scope, replaceAt_of_ne _ _ h]
  | link l => rfl
  | store g => rfl

@[simp] theorem entries_setGuard (g : StoreRef) :
    (w.setGuard guard r).entries g = w.entries g := by
  cases r with
  | scope t => rfl
  | link l => rfl
  | store g' =>
    by_cases h : g = g'
    · simp only [setGuard, entries, h, replaceAt_self]
    · simp only [setGuard, entries, replaceAt_of_ne _ _ h]

@[simp] theorem scopeCount_setGuard : (w.setGuard guard r).scopeCount = w.scopeCount := by
  cases r <;> rfl

end

/-- What a caller who wants to hold a cell changes is at most how the cell is held. -/
theorem after_hold (w : World) (r : Resource) (mode : Guard.Mode) :
    w.after (.hold r mode) = w ∨ ∃ guard, w.after (.hold r mode) = w.setGuard guard r := by
  simp only [after, ScriptHost.hold]
  split
  · exact .inr ⟨_, rfl⟩
  · exact .inl rfl

/-! ## Stores by themselves -/

theorem after_insert (w : World) (g : StoreRef) (name : String) (value : Value) :
    w.after (.insert g name value) =
      if (w.stores g).guard.canWrite then w.setEntries g ((w.entries g).insert name value) else w := by
  simp only [after, StoreRef.insert, Action.run_bind, run_claimStore]
  split <;> rfl

theorem after_remove (w : World) (g : StoreRef) (name : String) :
    w.after (.remove g name) =
      if (w.stores g).guard.canWrite then w.setEntries g ((w.entries g).erase name) else w := by
  simp only [after, StoreRef.remove, Action.run_bind, run_claimStore]
  split <;> rfl

/-! ## What a step leaves alone -/

/-- No scope goes away. -/
theorem scopeCount_le_after (w : World) (step : Step) : w.scopeCount ≤ (w.after step).scopeCount := by
  cases step with
  | operate s op => exact Nat.le_of_eq (Bindings.through_operate ⟨s⟩ op w).scopeCount.symm
  | newContext settings out err => exact Nat.le_succ _
  | newScope c => exact Nat.le_succ _
  | setGlobalStore c store =>
    simp only [after, Context.setGlobalStore]
    split <;> exact Nat.le_refl _
  | hold r mode =>
    rcases w.after_hold r mode with h | ⟨guard, h⟩
    · exact Nat.le_of_eq (congrArg scopeCount h).symm
    · exact Nat.le_of_eq ((congrArg scopeCount h).trans (scopeCount_setGuard _ _ _)).symm
  | letGo r => exact Nat.le_of_eq (scopeCount_setGuard _ _ _).symm
  | insert g name value =>
    rw [after_insert]
    split <;> exact Nat.le_refl _
  | remove g name =>
    rw [after_remove]
    split <;> exact Nat.le_refl _

/-- **Only an operation through a scope changes what the scope contains.** -/
theorem scope_after {w : World} {s : ScopeRef} (hexist : s.index < w.scopeCount) {step : Step}
    (hstep : ∀ op, step ≠ .operate s op) : (w.after step).scope s = w.scope s := by
  -- a scope that exists is not the one that a step makes
  have hnew : s ≠ ⟨w.scopeCount⟩ := fun heq => Nat.ne_of_lt hexist (congrArg ScopeRef.index heq)
  cases step with
  | operate t op =>
    have hne : s ≠ t := fun heq => hstep op (heq ▸ rfl)
    exact (Bindings.through_operate ⟨t⟩ op w).scope_of_ne hne
  | newContext settings out err => exact congrArg Cell.content (replaceAt_of_ne _ _ hnew)
  | newScope c => exact congrArg Cell.content (replaceAt_of_ne _ _ hnew)
  | setGlobalStore c store =>
    simp only [after, Context.setGlobalStore]
    split <;> rfl
  | hold r mode =>
    rcases w.after_hold r mode with h | ⟨guard, h⟩
    · rw [h]
    · rw [h, scope_setGuard]
  | letGo r => exact scope_setGuard _ _ _ _
  | insert g name value =>
    rw [after_insert]
    split <;> rfl
  | remove g name =>
    rw [after_remove]
    split <;> rfl

/-- **Only operations and the host change what a store contains.** -/
theorem entries_after {w : World} (g : StoreRef) {step : Step} (hop : ∀ s op, step ≠ .operate s op)
    (hinsert : ∀ name value, step ≠ .insert g name value)
    (hremove : ∀ name, step ≠ .remove g name) : (w.after step).entries g = w.entries g := by
  cases step with
  | operate s op => exact absurd rfl (hop s op)
  | newContext settings out err => rfl
  | newScope c => rfl
  | setGlobalStore c store =>
    simp only [after, Context.setGlobalStore]
    split <;> rfl
  | hold r mode =>
    rcases w.after_hold r mode with h | ⟨guard, h⟩
    · rw [h]
    · rw [h, entries_setGuard]
  | letGo r => exact entries_setGuard _ _ _ _
  | insert g' name value =>
    have hne : g ≠ g' := fun heq => hinsert name value (heq ▸ rfl)
    rw [after_insert]
    split
    · exact entries_setEntries_of_ne _ _ _ _ hne
    · rfl
  | remove g' name =>
    have hne : g ≠ g' := fun heq => hremove name (heq ▸ rfl)
    rw [after_remove]
    split
    · exact entries_setEntries_of_ne _ _ _ _ hne
    · rfl

end ScriptHost.World
