import Mathlib.Order.Defs.Unbundled
import ScriptHost.Action

/-!
# Relations that actions respect

Most of what is said about an operation says how states are related: the state before and the state
after, or the states of two runs.  Such a statement is proved for the few accesses that operations
are made of, and this file carries it over to the operations.

* `Action.Keeps R x` — whatever comes of `x`, the state before and the state after are related.  For
  this to survive sequencing, `R` has to be a preorder.
* `Action.Parallel R x y` — from related states `x` and `y` give the same answer or the same error,
  log the same, and leave related states.
* `Action.Compositional P` — what the two have in common: `P` relates actions, and goes on to relate
  what is put together from related actions.  A statement about everything that is put together from
  given pieces asks for no more than this, and is proved once for both.

An action whose errors are of the empty type cannot fail, and `Outcome.answer` is what it answers.
-/

set_option autoImplicit false

namespace ScriptHost

/-- The answer of an action that cannot fail. -/
def Outcome.answer {σ α : Type} (o : Outcome Empty σ α) : α :=
  match o.result with
  | .ok a => a
  | .error e => nomatch e

theorem Outcome.result_eq_answer {σ α : Type} (o : Outcome Empty σ α) : o.result = .ok o.answer := by
  obtain ⟨_ | a, s, events⟩ := o
  · contradiction
  · rfl

/-- Two outcomes that differ in their states only, and their states are related. -/
structure Outcome.Agree {ε σ τ α : Type} (R : σ → τ → Prop) (o : Outcome ε σ α)
    (o' : Outcome ε τ α) : Prop where
  result : o.result = o'.result
  events : o.events = o'.events
  state : R o.state o'.state

namespace Action

variable {ε ε' σ τ σ' τ' α β : Type}

/-! ## One run -/

/-- Whatever comes of the action, the states before and after it are related. -/
def Keeps (R : σ → σ → Prop) (x : Action ε σ α) : Prop := ∀ s, R s (x.run s).state

section

variable {R : σ → σ → Prop} [IsPreorder σ R]

theorem keeps_pure (a : α) : Keeps R (pure a : Action ε σ α) := fun s => refl s

theorem keeps_throw (e : ε) : Keeps R (throw e : Action ε σ α) := fun s => refl s

theorem Keeps.bind {x : Action ε σ α} {f : α → Action ε σ β} (hx : Keeps R x)
    (hf : ∀ a, Keeps R (f a)) : Keeps R (x >>= f) := by
  intro s
  have hs := hx s
  rw [run_bind]
  generalize x.run s = o at hs ⊢
  obtain ⟨_ | a, s', events⟩ := o
  · exact hs
  · exact IsTrans.trans _ _ _ hs (hf a s')

end

theorem Keeps.attempt {R : σ → σ → Prop} {x : Action ε σ α} (hx : Keeps R x) :
    Keeps R (x.attempt : Action ε' σ _) := hx

/-! ## Two runs -/

/-- From related states the actions answer the same, log the same, and leave related states. -/
def Parallel (R : σ → τ → Prop) (x : Action ε σ α) (y : Action ε τ α) : Prop :=
  ∀ s t, R s t → (x.run s).Agree R (y.run t)

section

variable {R : σ → τ → Prop}

theorem parallel_pure (a : α) : Parallel R (pure a : Action ε σ α) (pure a) :=
  fun _ _ h => ⟨rfl, rfl, h⟩

theorem parallel_throw (e : ε) : Parallel R (throw e : Action ε σ α) (throw e) :=
  fun _ _ h => ⟨rfl, rfl, h⟩

theorem parallel_emit (event : Event) : Parallel R (emit event : Action ε σ Unit) (emit event) :=
  fun _ _ h => ⟨rfl, rfl, h⟩

theorem Parallel.bind {x : Action ε σ α} {y : Action ε τ α} {f : α → Action ε σ β}
    {g : α → Action ε τ β} (hx : Parallel R x y) (hf : ∀ a, Parallel R (f a) (g a)) :
    Parallel R (x >>= f) (y >>= g) := by
  intro s t h
  obtain ⟨hresult, hevents, hstate⟩ := hx s t h
  rw [run_bind, run_bind]
  generalize x.run s = o at hresult hevents hstate ⊢
  generalize y.run t = o' at hresult hevents hstate ⊢
  obtain ⟨_ | a, s', events⟩ := o
  · obtain ⟨_, t', events'⟩ := o'
    subst hresult
    exact ⟨rfl, hevents, hstate⟩
  · obtain ⟨_, t', events'⟩ := o'
    subst hresult
    obtain ⟨hresult', hevents', hstate'⟩ := hf a s' t' hstate
    exact ⟨hresult', congr (congrArg _ hevents) hevents', hstate'⟩

theorem Parallel.attempt {x : Action ε σ α} {y : Action ε τ α} (hx : Parallel R x y) :
    Parallel R (x.attempt : Action ε' σ _) y.attempt := by
  intro s t h
  obtain ⟨hresult, hevents, hstate⟩ := hx s t h
  exact ⟨congrArg Except.ok hresult, hevents, hstate⟩

/-- Actions that run in parallel on parts do so on the whole. -/
theorem Parallel.zoom {R' : σ' → τ' → Prop} {part : σ → σ'} {replace : σ' → σ → σ}
    {part' : τ → τ'} {replace' : τ' → τ → τ} {x : Action ε σ' α} {y : Action ε τ' α}
    (hx : Parallel R' x y) (hpart : ∀ s t, R s t → R' (part s) (part' t))
    (hreplace : ∀ s t s' t', R s t → R' s' t' → R (replace s' s) (replace' t' t)) :
    Parallel R (x.zoom part replace) (y.zoom part' replace') := by
  intro s t h
  obtain ⟨hresult, hevents, hstate⟩ := hx _ _ (hpart s t h)
  exact ⟨hresult, hevents, hreplace s t _ _ h hstate⟩

end

/-! ## What is put together -/

/-- A relation between actions that goes on to hold when they are put together. -/
structure Compositional (P : ∀ {ε α : Type}, Action ε σ α → Action ε τ α → Prop) : Prop where
  pure : ∀ {ε α : Type} (a : α), P (pure a : Action ε σ α) (pure a)
  throw : ∀ {ε α : Type} (e : ε), P (throw e : Action ε σ α) (throw e)
  emit : ∀ {ε : Type} (event : Event), P (emit event : Action ε σ Unit) (emit event)
  bind : ∀ {ε α β : Type} {x : Action ε σ α} {y : Action ε τ α} {f : α → Action ε σ β}
    {g : α → Action ε τ β}, P x y → (∀ a, P (f a) (g a)) → P (x >>= f) (y >>= g)
  attempt : ∀ {ε ε' α : Type} {x : Action ε σ α} {y : Action ε τ α}, P x y →
    P (x.attempt : Action ε' σ _) y.attempt

theorem Compositional.ofExcept {P : ∀ {ε α : Type}, Action ε σ α → Action ε τ α → Prop}
    (hP : Compositional P) (r : Except ε α) : P (ofExcept r : Action ε σ α) (ofExcept r) := by
  cases r with
  | ok a => exact hP.pure a
  | error e => exact hP.throw e

theorem compositional_keeps (R : σ → σ → Prop) [IsPreorder σ R] :
    Compositional fun {_ _} x (_ : Action _ σ _) => Keeps R x where
  pure := keeps_pure
  throw := keeps_throw
  emit _ := fun s => refl s
  bind := Keeps.bind
  attempt := Keeps.attempt

theorem compositional_parallel (R : σ → τ → Prop) :
    Compositional fun {_ _} x y => Parallel R x y where
  pure := parallel_pure
  throw := parallel_throw
  emit := parallel_emit
  bind := Parallel.bind
  attempt := Parallel.attempt

end Action

end ScriptHost
