import ScriptHost.Event

/-!
# Actions

An operation of this library is an `Action ε σ α`: it runs on a state `σ` and has an `Outcome`, that
is the new state, either an answer `α` or an error `ε`, and the events that it added to the log.

* **Errors keep the state.**  What an operation did before it failed stays done, so an outcome has
  a state whether the operation failed or not, and a statement that a failed operation changed
  nothing is an equation between two states.
* **Events are those of the operation.**  `Outcome.events` holds only what this operation
  logged, oldest first.  Sequencing appends.

Actions form a monad, so operations are written with `do`.  `attempt` turns an error into an answer,
`mapError` changes what an error says, and `zoom` runs an action on a part of a larger state.

Wherever a failure of the interpreter leaves the library, it does so as a script error, and the log
says so: `report` is the action for it.
-/

set_option autoImplicit false

namespace ScriptHost

/-- What comes of an operation. -/
structure Outcome (ε σ α : Type) where
  /-- The answer, or why there is none. -/
  result : Except ε α
  /-- The state afterwards. -/
  state : σ
  /-- What the operation logged, oldest first. -/
  events : List Event

/-- An operation on a state. -/
@[ext] structure Action (ε σ α : Type) where
  /-- What comes of the operation on a given state. -/
  run : σ → Outcome ε σ α

/-- Unless the outcome is an error, what comes of going on from its state with its answer. -/
def Outcome.andThen {ε σ α β : Type} (o : Outcome ε σ α) (f : α → Action ε σ β) :
    Outcome ε σ β :=
  match o with
  | ⟨.error e, s, events⟩ => ⟨.error e, s, events⟩
  | ⟨.ok a, s, events⟩ =>
    let next := (f a).run s
    ⟨next.result, next.state, events ++ next.events⟩

/-- If the outcome is an error, what comes of going on from its state with the error. -/
def Outcome.orElse {ε σ α : Type} (o : Outcome ε σ α) (f : ε → Action ε σ α) : Outcome ε σ α :=
  match o with
  | ⟨.error e, s, events⟩ =>
    let next := (f e).run s
    ⟨next.result, next.state, events ++ next.events⟩
  | done => done

namespace Action

variable {ε ε' σ τ α β : Type}

instance : Monad (Action ε σ) where
  pure a := ⟨fun s => ⟨.ok a, s, []⟩⟩
  bind x f := ⟨fun s => (x.run s).andThen f⟩

instance : MonadStateOf σ (Action ε σ) where
  get := ⟨fun s => ⟨.ok s, s, []⟩⟩
  set s' := ⟨fun _ => ⟨.ok (), s', []⟩⟩
  modifyGet f := ⟨fun s => ⟨.ok (f s).1, (f s).2, []⟩⟩

instance : MonadExceptOf ε (Action ε σ) where
  throw e := ⟨fun s => ⟨.error e, s, []⟩⟩
  tryCatch x handle := ⟨fun s => (x.run s).orElse handle⟩

/-- Adds an event to the log. -/
def emit (event : Event) : Action ε σ Unit where
  run s := ⟨.ok (), s, [event]⟩

/-- Goes on with an answer or an error that is already there. -/
def ofExcept (r : Except ε α) : Action ε σ α where
  run s := ⟨r, s, []⟩

/-- Runs the action and answers how it went; never fails. -/
def attempt (x : Action ε σ α) : Action ε' σ (Except ε α) where
  run s := ⟨.ok (x.run s).result, (x.run s).state, (x.run s).events⟩

/-- Says an error in other words. -/
def mapError (f : ε → ε') (x : Action ε σ α) : Action ε' σ α where
  run s := ⟨(x.run s).result.mapError f, (x.run s).state, (x.run s).events⟩

/-- Runs an action on a part of the state. -/
def zoom (part : σ → τ) (replace : τ → σ → σ) (x : Action ε τ α) : Action ε σ α where
  run s :=
    let done := x.run (part s)
    ⟨done.result, replace done.state s, done.events⟩

/-! ## What comes of each of them -/

@[simp] theorem andThen_ok (a : α) (s : σ) (events : List Event) (f : α → Action ε σ β) :
    (⟨.ok a, s, events⟩ : Outcome ε σ α).andThen f =
      ⟨((f a).run s).result, ((f a).run s).state, events ++ ((f a).run s).events⟩ := rfl

@[simp] theorem andThen_error (e : ε) (s : σ) (events : List Event) (f : α → Action ε σ β) :
    (⟨.error e, s, events⟩ : Outcome ε σ α).andThen f = ⟨.error e, s, events⟩ := rfl

theorem andThen_of_ok {o : Outcome ε σ α} {a : α} (h : o.result = .ok a) (f : α → Action ε σ β) :
    o.andThen f =
      ⟨((f a).run o.state).result, ((f a).run o.state).state,
        o.events ++ ((f a).run o.state).events⟩ := by
  obtain ⟨_, s, events⟩ := o
  subst h
  rfl

theorem andThen_of_error {o : Outcome ε σ α} {e : ε} (h : o.result = .error e)
    (f : α → Action ε σ β) : o.andThen f = ⟨.error e, o.state, o.events⟩ := by
  obtain ⟨_, s, events⟩ := o
  subst h
  rfl

@[simp] theorem orElse_ok (a : α) (s : σ) (events : List Event) (f : ε → Action ε σ α) :
    (⟨.ok a, s, events⟩ : Outcome ε σ α).orElse f = ⟨.ok a, s, events⟩ := rfl

@[simp] theorem orElse_error (e : ε) (s : σ) (events : List Event) (f : ε → Action ε σ α) :
    (⟨.error e, s, events⟩ : Outcome ε σ α).orElse f =
      ⟨((f e).run s).result, ((f e).run s).state, events ++ ((f e).run s).events⟩ := rfl

@[simp] theorem run_pure (a : α) (s : σ) : (pure a : Action ε σ α).run s = ⟨.ok a, s, []⟩ := rfl

@[simp] theorem run_bind (x : Action ε σ α) (f : α → Action ε σ β) (s : σ) :
    (x >>= f).run s = (x.run s).andThen f := rfl

@[simp] theorem run_map (f : α → β) (x : Action ε σ α) (s : σ) :
    (f <$> x).run s = (x.run s).andThen fun a => pure (f a) := rfl

@[simp] theorem run_throw (e : ε) (s : σ) :
    (throw e : Action ε σ α).run s = ⟨.error e, s, []⟩ := rfl

@[simp] theorem run_tryCatch (x : Action ε σ α) (handle : ε → Action ε σ α) (s : σ) :
    (tryCatch x handle).run s = (x.run s).orElse handle := rfl

@[simp] theorem run_get (s : σ) : (get : Action ε σ σ).run s = ⟨.ok s, s, []⟩ := rfl

@[simp] theorem run_set (s s' : σ) : (set s' : Action ε σ PUnit).run s = ⟨.ok (), s', []⟩ := rfl

@[simp] theorem run_modify (f : σ → σ) (s : σ) :
    (modify f : Action ε σ PUnit).run s = ⟨.ok (), f s, []⟩ := rfl

@[simp] theorem run_emit (event : Event) (s : σ) :
    (emit event : Action ε σ Unit).run s = ⟨.ok (), s, [event]⟩ := rfl

@[simp] theorem run_ofExcept (r : Except ε α) (s : σ) :
    (ofExcept r : Action ε σ α).run s = ⟨r, s, []⟩ := rfl

@[simp] theorem run_attempt (x : Action ε σ α) (s : σ) :
    (attempt x : Action ε' σ (Except ε α)).run s =
      ⟨.ok (x.run s).result, (x.run s).state, (x.run s).events⟩ := rfl

@[simp] theorem run_mapError (f : ε → ε') (x : Action ε σ α) (s : σ) :
    (mapError f x).run s =
      ⟨(x.run s).result.mapError f, (x.run s).state, (x.run s).events⟩ := rfl

@[simp] theorem run_zoom (part : σ → τ) (replace : τ → σ → σ) (x : Action ε τ α) (s : σ) :
    (zoom part replace x).run s =
      ⟨(x.run (part s)).result, replace (x.run (part s)).state s, (x.run (part s)).events⟩ := rfl

/-! ## The monad laws -/

private theorem id_map_action (x : Action ε σ α) : id <$> x = x := by
  ext s
  rw [run_map]
  rcases x.run s with ⟨_ | _, s', events⟩ <;> simp

private theorem pure_bind_action (a : α) (f : α → Action ε σ β) : pure a >>= f = f a := by
  ext s
  simp

private theorem bind_assoc_action {γ : Type} (x : Action ε σ α) (f : α → Action ε σ β)
    (g : β → Action ε σ γ) : x >>= f >>= g = x >>= fun a => f a >>= g := by
  ext s
  rw [run_bind, run_bind, run_bind]
  rcases x.run s with ⟨_ | a, s', events⟩
  · rfl
  · rw [andThen_ok, andThen_ok, run_bind]
    rcases (f a).run s' with ⟨_ | _, s'', events'⟩ <;> simp

instance : LawfulMonad (Action ε σ) :=
  LawfulMonad.mk' _ id_map_action pure_bind_action bind_assoc_action

end Action

/-! ## Reporting failures -/

/-- Makes a failure a script error, and logs its category and the length of its chain. -/
def report {ε σ : Type} (f : Failure) : Action ε σ ScriptError := do
  let e := ScriptError.ofFailure f
  Action.emit (.reported e.kind f.chain.length)
  return e

end ScriptHost
