import ScriptHost.Proofs.Bindings.Answers

/-!
# When bindings fail

A host that holds a cell of a scope may find that bindings fail in the meantime.  When exactly they
do depends on the request and on where the name is found, and is said here in terms of the three
guards that matter: that of the scope, that of the link, and that of the store which the link leads
to.

* `Bindings.Request` — what may be asked of bindings, but for operations on several variables at
  once.
* `Bindings.Request.Blocked` — the condition under which a request fails.
* `Bindings.Request.obstacle?` — the error that it fails with.

**All or nothing.**  `Bindings.perform_error_iff`: a request fails exactly if it is blocked, and
then the world is as before.  This holds in every world, also for a request that reads a cell, is
done with it, and only then meets another one that is held.
-/

set_option autoImplicit false

namespace ScriptHost

open Outcome

namespace Bindings

/-! ## Requests -/

/-- Something that may be asked of bindings. -/
inductive Request where
  | get (key : Key)
  | put (key : Key) (value : Value)
  | remove (key : Key)
  | keys
  | size
  | isEmpty
  | values
  | entries
  | containsValue (value : Value)
  | containsKey (key : Key)
  | localKeys
  | getLocal (name : String)
  | isLocal (name : String)
  | removeLocal (name : String)

/-- What a request is answered with. -/
abbrev Request.Answer : Request → Type
  | .get _ | .put _ _ | .remove _ | .getLocal _ | .removeLocal _ => Option Value
  | .keys | .localKeys => List String
  | .size => Nat
  | .values => List Value
  | .entries => Snapshot
  | .isEmpty | .containsValue _ | .containsKey _ | .isLocal _ => Bool

/-- Makes a request. -/
def perform (b : Bindings) : (r : Request) → Action BindingError World r.Answer
  | .get key => b.get key
  | .put key value => b.put key value
  | .remove key => b.remove key
  | .keys => b.keys
  | .size => b.size
  | .isEmpty => b.isEmpty
  | .values => b.values
  | .entries => b.entries
  | .containsValue value => b.containsValue value
  | .containsKey key => b.containsKey key
  | .localKeys => b.localKeys
  | .getLocal name => b.getLocal name
  | .isLocal name => b.isLocal name
  | .removeLocal name => b.removeLocal name

end Bindings

/-! ## The condition -/

/-- The globals of a scope cannot be read: the link or the store behind it is held exclusively. -/
def World.GlobalsShut (w : World) (s : ScopeRef) : Prop :=
  (w.links (w.scope s).link).guard = .exclusive ∨
    ∃ g ∈ w.storeOf s, (w.stores g).guard = .exclusive

namespace Bindings.Request

/-- A request on a scope meets a cell that is held in its way, or its key is not a name.  What is
not a name is never contained, and that is no failure. -/
def Blocked (w : World) (s : ScopeRef) : Request → Prop
  | .get key => ∀ name, key.name? = .ok name →
    (w.scopes s).guard = .exclusive ∨ ¬ w.isLocal s name ∧ w.GlobalsShut s
  | .put key _ => ∀ name, key.name? = .ok name →
    (w.scopes s).guard = .exclusive ∨
      w.isLocal s name ∧ (w.scopes s).guard ≠ .free ∨
      ¬ w.isLocal s name ∧
        (w.GlobalsShut s ∨
          (∃ g ∈ w.storeOf s, (w.entries g).contains name ∧ (w.stores g).guard ≠ .free) ∨
          w.shownValue s name = none ∧ (w.scopes s).guard ≠ .free)
  | .remove key => ∀ name, key.name? = .ok name →
    (w.scopes s).guard ≠ .free ∨
      ¬ w.isLocal s name ∧
        ((w.links (w.scope s).link).guard = .exclusive ∨
          ∃ g ∈ w.storeOf s, (w.stores g).guard ≠ .free)
  | .keys | .size | .isEmpty | .values | .entries | .containsValue _ =>
    (w.scopes s).guard = .exclusive ∨ w.GlobalsShut s
  | .containsKey key => (∃ name, key.name? = .ok name) ∧
    ((w.scopes s).guard = .exclusive ∨ w.GlobalsShut s)
  | .localKeys | .getLocal _ | .isLocal _ => (w.scopes s).guard = .exclusive
  | .removeLocal _ => (w.scopes s).guard ≠ .free

end Bindings.Request

/-! ## Faults and guards -/

namespace World

variable {w : World} {s : ScopeRef} {name : String}

/-- A fault that there is unless something is allowed. -/
theorem isSome_ite {allowed : Bool} {e : AccessError} :
    (if allowed then none else some e).isSome ↔ allowed = false := by
  cases allowed <;> simp

theorem isSome_scopeReadFault :
    (w.scopeReadFault s).isSome ↔ (w.scopes s).guard = .exclusive :=
  isSome_ite.trans Guard.canRead_eq_false_iff

theorem isSome_scopeWriteFault :
    (w.scopeWriteFault s).isSome ↔ (w.scopes s).guard ≠ .free :=
  isSome_ite.trans Guard.canWrite_eq_false_iff

theorem scopeWriteFault_eq_none_iff : w.scopeWriteFault s = none ↔
    (w.scopes s).guard = .free := by
  rw [← Option.not_isSome_iff_eq_none, isSome_scopeWriteFault, not_not]

theorem isSome_linkFault :
    (w.linkFault s).isSome ↔ (w.links (w.scope s).link).guard = .exclusive :=
  isSome_ite.trans Guard.canRead_eq_false_iff

theorem isSome_storeReadFault {g : StoreRef} :
    (w.storeReadFault g).isSome ↔ (w.stores g).guard = .exclusive :=
  isSome_ite.trans Guard.canRead_eq_false_iff

theorem isSome_storeWriteFault {g : StoreRef} :
    (w.storeWriteFault g).isSome ↔ (w.stores g).guard ≠ .free :=
  isSome_ite.trans Guard.canWrite_eq_false_iff

/-- A fault of the store behind a link, if there is a store. -/
theorem isSome_bind_iff {α β : Type} {o : Option α} {f : α → Option β} :
    (o.bind f).isSome ↔ ∃ a ∈ o, (f a).isSome := by
  cases o <;> simp

theorem isSome_globalsReadFault : (w.globalsReadFault s).isSome ↔ w.GlobalsShut s := by
  rw [globalsReadFault, Option.isSome_or, Bool.or_eq_true, isSome_linkFault, isSome_bind_iff,
    GlobalsShut]
  simp only [isSome_storeReadFault]

theorem isSome_globalsWriteFault : (w.globalsWriteFault s).isSome ↔
    (w.links (w.scope s).link).guard = .exclusive ∨
      ∃ g ∈ w.storeOf s, (w.stores g).guard ≠ .free := by
  rw [globalsWriteFault, Option.isSome_or, Bool.or_eq_true, isSome_linkFault, isSome_bind_iff]
  simp only [isSome_storeWriteFault]

theorem isSome_listFault : (w.listFault s).isSome ↔
    (w.scopes s).guard = .exclusive ∨ w.GlobalsShut s := by
  rw [listFault, Option.isSome_or, Bool.or_eq_true, isSome_scopeReadFault, isSome_globalsReadFault]

theorem listFault_eq_none_iff : w.listFault s = none ↔
    (w.scopes s).guard ≠ .exclusive ∧ ¬ w.GlobalsShut s := by
  rw [← Option.not_isSome_iff_eq_none, isSome_listFault, not_or]

/-- A fault that only matters for a name that is no local. -/
theorem isSome_unless_local {fault : Option AccessError} :
    (if w.isLocal s name then none else fault).isSome ↔ ¬ w.isLocal s name ∧ fault.isSome := by
  cases w.isLocal s name <;> simp

theorem isSome_readFault : (w.readFault s name).isSome ↔
    (w.scopes s).guard = .exclusive ∨ ¬ w.isLocal s name ∧ w.GlobalsShut s := by
  rw [readFault, Option.isSome_or, Bool.or_eq_true, isSome_scopeReadFault, isSome_unless_local,
    isSome_globalsReadFault]

theorem isSome_removeFault : (w.removeFault s name).isSome ↔
    (w.scopes s).guard ≠ .free ∨
      ¬ w.isLocal s name ∧
        ((w.links (w.scope s).link).guard = .exclusive ∨
          ∃ g ∈ w.storeOf s, (w.stores g).guard ≠ .free) := by
  rw [removeFault, Option.isSome_or, Bool.or_eq_true, isSome_scopeWriteFault, isSome_unless_local,
    isSome_globalsWriteFault]

/-- A write meets a guard on the way to the name, or else on the cell in which the name is found;
for a name that is found nowhere this is the scope. -/
theorem isSome_writeFault : (w.writeFault s name).isSome ↔
    (w.scopes s).guard = .exclusive ∨
      w.isLocal s name ∧ (w.scopes s).guard ≠ .free ∨
      ¬ w.isLocal s name ∧
        (w.GlobalsShut s ∨
          (∃ g ∈ w.storeOf s, (w.entries g).contains name ∧ (w.stores g).guard ≠ .free) ∨
          w.shownValue s name = none ∧ (w.scopes s).guard ≠ .free) := by
  rw [writeFault, Option.isSome_or, Bool.or_eq_true, isSome_readFault, or_assoc]
  refine or_congr_right ?_
  cases w.place s name with
  | own value hlocal hfind hhome hslot =>
    simp only [hhome, hlocal, isSome_scopeWriteFault, not_true_eq_false, true_and, false_and,
      false_or, or_false]
  | global g value hlocal hstore hfind hhome hslot =>
    have hshown : w.shownValue s name ≠ none := by
      rw [← map_value_slot?, hslot]
      exact Option.some_ne_none _
    have hin : (w.entries g).contains name = true := by
      rw [Table.contains, hfind]
      rfl
    simp only [hhome, hlocal, hstore, hin, hshown, isSome_storeWriteFault, Bool.false_eq_true,
      not_false_eq_true, true_and, false_and, false_or, or_false, Option.mem_some, exists_eq_left']
  | nowhere hlocal hfind hhome hslot =>
    have hshown : w.shownValue s name = none := by
      rw [← map_value_slot?, hslot]
      rfl
    have hstore : ¬ ∃ g ∈ w.storeOf s,
        (w.entries g).contains name ∧ (w.stores g).guard ≠ .free := by
      rintro ⟨g, hg, hin, -⟩
      rw [globals, Option.mem_def.1 hg] at hfind
      rw [Table.contains, hfind] at hin
      exact Bool.false_ne_true hin
    simp only [hhome, hlocal, hshown, hstore, isSome_scopeWriteFault, Bool.false_eq_true,
      not_false_eq_true, true_and, false_and, false_or]

end World

/-! ## Every request -/

namespace Bindings

/-- The error of an attempt that has a fault. -/
def refusal (attempt : Attempt) (name : String) (fault : Option AccessError) :
    Option BindingError :=
  fault.map fun e => .illegalState attempt name (.ofFailure e.toFailure)

/-- The error of an attempt on the variable that a key stands for. -/
def refusalAt (attempt : Attempt) (key : Key) (fault : String → Option AccessError) :
    Option BindingError :=
  match key.name? with
  | .ok name => refusal attempt name (fault name)
  | .error e => some e

/-- The error that a request on a scope fails with, if it fails. -/
def Request.obstacle? (w : World) (s : ScopeRef) : Request → Option BindingError
  | .get key => refusalAt .access key fun name => w.readFault s name
  | .put key _ => refusalAt .assign key fun name => w.writeFault s name
  | .remove key => refusalAt .remove key fun name => w.removeFault s name
  | .keys | .size | .isEmpty | .values | .entries | .containsValue _ =>
    refusal .list "*" (w.listFault s)
  | .containsKey key =>
    match key.name? with
    | .ok _ => refusal .list "*" (w.listFault s)
    | .error _ => none
  | .localKeys => refusal .list "*" (w.scopeReadFault s)
  | .getLocal name | .isLocal name => refusal .access name (w.scopeReadFault s)
  | .removeLocal name => refusal .remove name (w.scopeWriteFault s)

theorem isSome_refusal {attempt : Attempt} {name : String} {fault : Option AccessError} :
    (refusal attempt name fault).isSome ↔ fault.isSome := by
  rw [refusal, Option.isSome_map]

theorem isSome_refusalAt {attempt : Attempt} {key : Key} {fault : String → Option AccessError} :
    (refusalAt attempt key fault).isSome ↔ ∀ name, key.name? = .ok name → (fault name).isSome := by
  rw [refusalAt]
  cases key.name? with
  | ok name =>
    simp only [isSome_refusal, Except.ok.injEq]
    exact ⟨fun h _ hname => hname ▸ h, fun h => h name rfl⟩
  | error e => simp

/-- **There is an obstacle exactly if the request is blocked.** -/
theorem Request.isSome_obstacle? (w : World) (s : ScopeRef) (r : Request) :
    (r.obstacle? w s).isSome ↔ r.Blocked w s := by
  cases r with
  | get key =>
    rw [obstacle?, isSome_refusalAt]
    exact forall_congr' fun name => imp_congr_right fun _ => World.isSome_readFault
  | put key value =>
    rw [obstacle?, isSome_refusalAt]
    exact forall_congr' fun name => imp_congr_right fun _ => World.isSome_writeFault
  | remove key =>
    rw [obstacle?, isSome_refusalAt]
    exact forall_congr' fun name => imp_congr_right fun _ => World.isSome_removeFault
  | keys | size | isEmpty | values | entries | containsValue =>
    exact isSome_refusal.trans World.isSome_listFault
  | containsKey key =>
    rw [obstacle?, Blocked]
    cases key.name? with
    | ok name =>
      refine (isSome_refusal.trans World.isSome_listFault).trans ?_
      exact (and_iff_right ⟨name, rfl⟩).symm
    | error e => simp
  | localKeys | getLocal | isLocal => exact isSome_refusal.trans World.isSome_scopeReadFault
  | removeLocal => exact isSome_refusal.trans World.isSome_scopeWriteFault

/-- How an operation ends that has this obstacle, or none. -/
def EndsWith {α : Type} (obstacle : Option BindingError) (w : World)
    (o : Outcome BindingError World α) : Prop :=
  match obstacle with
  | some e => o.result = .error e ∧ o.state = w
  | none => ∃ a, o.result = .ok a

theorem endsWith_attempted {α : Type} {attempt : Attempt} {name : String}
    {fault : Option AccessError} {w w' : World} {a : α} {events : List Event} :
    EndsWith (refusal attempt name fault) w
      (attempted attempt name fault w ⟨.ok a, w', events⟩) := by
  cases fault with
  | none => exact ⟨a, rfl⟩
  | some e => exact ⟨rfl, rfl⟩

/-- An operation on the variable that a key stands for. -/
theorem endsWith_keyed {α : Type} {attempt : Attempt} {key : Key}
    {fault : String → Option AccessError} {w : World} {f : String → Action BindingError World α}
    (h : ∀ name, EndsWith (refusal attempt name (fault name)) w ((f name).run w)) :
    EndsWith (refusalAt attempt key fault) w ((Action.ofExcept key.name? >>= f).run w) := by
  rw [refusalAt]
  cases key.name? with
  | ok name => exact h name
  | error e => exact ⟨rfl, rfl⟩

/-- A request has the obstacle that is said, or it is answered. -/
theorem endsWith_perform (b : Bindings) (w : World) (r : Request) :
    EndsWith (r.obstacle? w b.scope) w ((b.perform r).run w) := by
  cases r with
  | get key => exact endsWith_keyed fun name => run_lookup b w name ▸ endsWith_attempted
  | put key value =>
    refine endsWith_keyed fun name => ?_
    rw [run_attempting (ScopeRef.run_set w b.scope name value)]
    exact endsWith_attempted
  | remove key =>
    refine endsWith_keyed fun name => ?_
    rw [run_attempting (ScopeRef.run_unset w b.scope name)]
    exact endsWith_attempted
  | keys => exact run_keys b w ▸ endsWith_attempted
  | size => exact run_size b w ▸ endsWith_attempted
  | isEmpty => exact run_isEmpty b w ▸ endsWith_attempted
  | values => exact run_values b w ▸ endsWith_attempted
  | entries => exact run_entries b w ▸ endsWith_attempted
  | containsValue value => exact run_containsValue b w value ▸ endsWith_attempted
  | containsKey key =>
    rw [perform, Request.obstacle?]
    cases hkey : key.name? with
    | ok name => exact run_containsKey b w hkey ▸ endsWith_attempted
    | error e =>
      rw [containsKey, hkey]
      exact ⟨false, rfl⟩
  | localKeys => exact run_localKeys b w ▸ endsWith_attempted
  | getLocal name => exact run_getLocal b w name ▸ endsWith_attempted
  | isLocal name => exact run_isLocal b w name ▸ endsWith_attempted
  | removeLocal name => exact run_removeLocal b w name ▸ endsWith_attempted

/-- **All or nothing.**  In every world a request fails exactly if it is blocked.  It then leaves
the world as it is, and its error is the obstacle: what is wrong with the key, or else which attempt
on which variable has failed and which cell was in the way. -/
theorem perform_error_iff (b : Bindings) (w : World) (r : Request) :
    ((∃ e, ((b.perform r).run w).result = .error e) ↔ r.Blocked w b.scope) ∧
      ∀ e, ((b.perform r).run w).result = .error e →
        ((b.perform r).run w).state = w ∧ r.obstacle? w b.scope = some e := by
  have hends := endsWith_perform b w r
  rw [← r.isSome_obstacle?]
  cases ho : r.obstacle? w b.scope with
  | some e =>
    rw [ho] at hends
    obtain ⟨hresult, hstate⟩ := hends
    refine ⟨⟨fun _ => rfl, fun _ => ⟨e, hresult⟩⟩, fun e' he' => ⟨hstate, ?_⟩⟩
    rw [hresult, Except.error.injEq] at he'
    rw [he']
  | none =>
    rw [ho] at hends
    obtain ⟨a, hresult⟩ := hends
    have hno : ∀ e, ((b.perform r).run w).result ≠ .error e := by
      rw [hresult]
      exact fun e he => nomatch he
    exact ⟨⟨fun ⟨e, he⟩ => absurd he (hno e), fun h => absurd h Bool.false_ne_true⟩,
      fun e he => absurd he (hno e)⟩

/-- A store that is being read keeps a write to one of its variables from happening, but only after
the variable has been found in it. -/
theorem perform_error_iff_shared_store :
    let w : World := { World.empty with
      links := fun _ => { content := some ⟨0⟩ }
      stores := fun _ => { content := .ofList [("x", ⟨⟨0⟩, .unit⟩)], guard := .shared 1 } }
    let r : Request := .put (.name "x") ⟨⟨1⟩, .bool true⟩
    (∃ e, ((Bindings.perform ⟨⟨0⟩⟩ r).run w).result = .error e) ∧
      ((Bindings.perform ⟨⟨0⟩⟩ r).run w).state = w := by
  intro w r
  obtain ⟨hiff, hsame⟩ := perform_error_iff ⟨⟨0⟩⟩ w r
  have hblocked : r.Blocked w ⟨0⟩ := by
    intro name hname
    cases hname
    exact .inr (.inr ⟨by decide, .inr (.inl ⟨⟨0⟩, rfl, rfl, by decide⟩)⟩)
  obtain ⟨e, he⟩ := hiff.2 hblocked
  exact ⟨⟨e, he⟩, (hsame e he).1⟩

end Bindings

end ScriptHost
