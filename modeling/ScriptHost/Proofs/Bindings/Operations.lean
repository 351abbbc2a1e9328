import ScriptHost.Proofs.Action.Relations
import ScriptHost.Proofs.Bindings.Conflicts

/-!
# Everything that is done through a scope

A `Bindings.Operation` is a request, or one of the operations on several variables at once, or the
declaration of a local.  However long it goes on, an operation is put together from eight accesses
of its scope, and what holds of these holds of the operation: `Bindings.operate_congr`.

Removing a name from both levels is a loop, but a short one: no name is on more than two levels, so
three removals, the last of which finds nothing, are always enough
(`ScopeRef.unsetEverywhere_eq`).

* `Bindings.keeps_operate` — a relation between worlds that holds across each write through a scope
  holds across each operation through it.
* `Bindings.parallel_operate` — operations through two scopes run in parallel if the accesses do.
-/

set_option autoImplicit false

namespace ScriptHost

open ScriptHost.Action Outcome

/-! ## Removing a name altogether -/

/-- No name is on more than two levels. -/
theorem World.levels_lt_three (w : World) (s : ScopeRef) (name : String) :
    w.levels s name < 3 := by
  have hle : ∀ c : Prop, ∀ [Decidable c], (if c then 1 else 0) ≤ 1 := by
    intro c _
    split <;> decide
  rw [levels]
  cases w.storeOf s with
  | some g => exact Nat.lt_succ_of_le (Nat.add_le_add (hle _) (hle _))
  | none => exact Nat.lt_succ_of_le (Nat.add_le_add (hle _) (Nat.zero_le 1))

namespace ScopeRef

/-- Removes a name again and again, `n` times at most. -/
def unsetUpTo (s : ScopeRef) (name : String) : Nat → Action AccessError World Unit
  | 0 => pure ()
  | n + 1 => do
    match ← s.unset name with
    | some _ => s.unsetUpTo name n
    | none => pure ()

theorem go_eq {s : ScopeRef} {name : String} {n : Nat} {w : World} (h : w.levels s name < n) :
    unsetEverywhere.go s name w = (s.unsetUpTo name n).run w := by
  induction n generalizing w with
  | zero => exact absurd h (Nat.not_lt_zero _)
  | succ n ih =>
    rw [unsetEverywhere.go, unsetUpTo, run_bind]
    split
    · next h' => rw [h', andThen_error]
    · next h' =>
      rw [h', andThen_ok]
      simp only [run_pure, List.append_nil]
    · next value w' events h' =>
      have hlt := levels_unset_lt (congrArg Outcome.result h')
      rw [h'] at hlt
      have hrest := ih (Nat.lt_of_lt_of_le hlt (Nat.le_of_lt_succ h))
      simp only [h', andThen_ok, hrest]

theorem unsetEverywhere_eq (s : ScopeRef) (name : String) :
    s.unsetEverywhere name = s.unsetUpTo name 3 := by
  ext w
  exact go_eq (w.levels_lt_three s name)

end ScopeRef

/-! ## Operations -/

namespace Bindings

/-- Something that may be done to the variables of a scope. -/
inductive Operation where
  | request (r : Request)
  | putAll (entries : List (Key × Value))
  | clear
  /-- Declares a local, past the bindings. -/
  | define (name : String) (value : Value)

/-- What an operation is answered with. -/
abbrev Operation.Answer : Operation → Type
  | .request r => r.Answer
  | .putAll _ | .clear => Unit
  | .define _ _ => Option Value

/-- What an operation fails with. -/
abbrev Operation.Error : Operation → Type
  | .define _ _ => AccessError
  | _ => BindingError

/-- Carries out an operation. -/
def operate (b : Bindings) : (op : Operation) → Action op.Error World op.Answer
  | .request r => b.perform r
  | .putAll entries => b.putAll entries
  | .clear => b.clear
  | .define name value => b.scope.define name value

end Bindings

/-! ## What operations are made of -/

/-- The accesses of two scopes that operations are made of are related, each to its like. -/
structure ScopeRef.Congruent (P : ∀ {ε α : Type}, Action ε World α → Action ε World α → Prop)
    (s s' : ScopeRef) : Prop where
  names : P s.names s'.names
  get : ∀ name, P (s.get name) (s'.get name)
  set : ∀ name value, P (s.set name value) (s'.set name value)
  unset : ∀ name, P (s.unset name) (s'.unset name)
  localNames : P s.localNames s'.localNames
  getLocal : ∀ name, P (s.getLocal name) (s'.getLocal name)
  isLocal : ∀ name, P (s.isLocal name) (s'.isLocal name)
  unsetLocal : ∀ name, P (s.unsetLocal name) (s'.unsetLocal name)

section

variable {P : ∀ {ε α : Type}, Action ε World α → Action ε World α → Prop} {s s' : ScopeRef}
  {b b' : Bindings}

theorem attempting_congr (hP : Compositional P) {α : Type} {x y : Action AccessError World α}
    (h : P x y) (attempt : Attempt) (name : String) :
    P (attempting attempt name x) (attempting attempt name y) := by
  refine hP.bind (hP.attempt h) fun r => ?_
  cases r with
  | ok a => exact hP.pure a
  | error e =>
    refine hP.bind (hP.emit _) fun _ => hP.bind ?_ fun source => hP.throw _
    exact hP.bind (hP.emit _) fun _ => hP.pure _

theorem ScopeRef.unsetUpTo_congr (hP : Compositional P) {name : String}
    (h : P (s.unset name) (s'.unset name)) (n : Nat) :
    P (s.unsetUpTo name n) (s'.unsetUpTo name n) := by
  induction n with
  | zero => exact hP.pure ()
  | succ n ih =>
    refine hP.bind h fun removed => ?_
    cases removed with
    | some value => exact ih
    | none => exact hP.pure ()

namespace Bindings

variable (hP : Compositional P) (h : ScopeRef.Congruent P b.scope b'.scope)

include hP h

theorem keys_congr : P b.keys b'.keys := attempting_congr hP h.names _ _

theorem lookup_congr (name : String) : P (b.lookup name) (b'.lookup name) :=
  attempting_congr hP (h.get name) _ _

theorem size_congr : P b.size b'.size := hP.bind (keys_congr hP h) fun _ => hP.pure _

theorem lookupAll_congr (names : List String) : P (b.lookupAll names) (b'.lookupAll names) := by
  induction names with
  | nil => exact hP.pure []
  | cons name rest ih =>
    refine hP.bind (lookup_congr hP h name) fun found => ?_
    cases found with
    | some value => exact hP.bind ih fun _ => hP.pure _
    | none => exact ih

theorem anyEqual_congr (value : Value) (names : List String) :
    P (b.anyEqual value names) (b'.anyEqual value names) := by
  induction names with
  | nil => exact hP.pure false
  | cons name rest ih =>
    refine hP.bind (lookup_congr hP h name) fun found => ?_
    cases found with
    | some other =>
      simp only
      split
      · exact hP.pure true
      · exact ih
    | none => exact ih

theorem put_congr (key : Key) (value : Value) : P (b.put key value) (b'.put key value) :=
  hP.bind (hP.ofExcept _) fun name => attempting_congr hP (h.set name value) _ _

theorem putAll_congr (entries : List (Key × Value)) : P (b.putAll entries) (b'.putAll entries) := by
  induction entries with
  | nil => exact hP.pure ()
  | cons entry rest ih => exact hP.bind (put_congr hP h entry.1 entry.2) fun _ => ih

theorem removeAll_congr (names : List String) : P (b.removeAll names) (b'.removeAll names) := by
  induction names with
  | nil => exact hP.pure ()
  | cons name rest ih =>
    refine hP.bind (attempting_congr hP ?_ _ _) fun _ => ih
    rw [ScopeRef.unsetEverywhere_eq, ScopeRef.unsetEverywhere_eq]
    exact ScopeRef.unsetUpTo_congr hP (h.unset name) 3

theorem perform_congr (r : Request) : P (b.perform r) (b'.perform r) := by
  cases r with
  | get key => exact hP.bind (hP.ofExcept _) fun name => lookup_congr hP h name
  | put key value => exact put_congr hP h key value
  | remove key =>
    exact hP.bind (hP.ofExcept _) fun name => attempting_congr hP (h.unset name) _ _
  | keys => exact keys_congr hP h
  | size => exact size_congr hP h
  | isEmpty => exact hP.bind (size_congr hP h) fun _ => hP.pure _
  | values =>
    exact hP.bind (keys_congr hP h) fun names =>
      hP.bind (lookupAll_congr hP h names) fun _ => hP.pure _
  | entries =>
    exact hP.bind (keys_congr hP h) fun names =>
      hP.bind (lookupAll_congr hP h names) fun _ => hP.pure _
  | containsValue value =>
    exact hP.bind (keys_congr hP h) fun names => anyEqual_congr hP h value names
  | containsKey key =>
    simp only [perform, containsKey]
    cases key.name? with
    | ok name => exact hP.bind (keys_congr hP h) fun _ => hP.pure _
    | error e => exact hP.pure false
  | localKeys => exact attempting_congr hP h.localNames _ _
  | getLocal name => exact attempting_congr hP (h.getLocal name) _ _
  | isLocal name => exact attempting_congr hP (h.isLocal name) _ _
  | removeLocal name => exact attempting_congr hP (h.unsetLocal name) _ _

/-- **What holds of the accesses holds of every operation.** -/
theorem operate_congr (op : Operation) (hdefine : ∀ name value, op = .define name value →
    P (b.scope.define name value) (b'.scope.define name value)) :
    P (b.operate op) (b'.operate op) := by
  cases op with
  | request r => exact perform_congr hP h r
  | putAll entries => exact putAll_congr hP h entries
  | clear => exact hP.bind (keys_congr hP h) fun names => removeAll_congr hP h names
  | define name value => exact hdefine name value rfl

end Bindings

end

/-! ## One world -/

/-- An access that changes a world in one way, or fails. -/
theorem keeps_of_barring {α : Type} {R : World → World → Prop} [IsPreorder World R]
    {x : Action AccessError World α} {fault : World → Option AccessError} {a : World → α}
    {next : World → World} {events : World → List Event}
    (hx : ∀ w, x.run w = barring (fault w) w ⟨.ok (a w), next w, events w⟩)
    (h : ∀ w, R w (next w)) : Keeps R x := by
  intro w
  rw [hx]
  cases fault w with
  | none => exact h w
  | some e => exact refl w

/-- A relation between worlds holds across each write through a scope, but for declarations. -/
structure World.AcrossWrites (R : World → World → Prop) (s : ScopeRef) : Prop where
  assign : ∀ w name value, R w (w.assign s name value)
  unassign : ∀ w name, R w (w.unassign s name)
  undefine : ∀ w name, R w (w.undefine s name)

/-- **What holds across each write holds across every operation.**  Declarations are a write of
their own. -/
theorem Bindings.keeps_operate {R : World → World → Prop} [IsPreorder World R] (b : Bindings)
    (h : World.AcrossWrites R b.scope) (op : Operation)
    (hdefine : ∀ name value, op = .define name value → ∀ w, R w (w.define b.scope name value)) :
    Keeps R (b.operate op) := by
  have hread : ∀ w, R w w := fun w => refl w
  refine @operate_congr _ b b (compositional_keeps R) ?_ op fun name value hop =>
    keeps_of_barring (fun w => ScopeRef.run_define w b.scope name value) (hdefine name value hop)
  constructor
  case names => exact keeps_of_barring (ScopeRef.run_names · b.scope) hread
  case get => exact fun name => keeps_of_barring (ScopeRef.run_get · b.scope name) hread
  case set =>
    exact fun name value =>
      keeps_of_barring (ScopeRef.run_set · b.scope name value) (h.assign · name value)
  case unset =>
    exact fun name => keeps_of_barring (ScopeRef.run_unset · b.scope name) (h.unassign · name)
  case localNames => exact keeps_of_barring (ScopeRef.run_localNames · b.scope) hread
  case getLocal => exact fun name => keeps_of_barring (ScopeRef.run_getLocal · b.scope name) hread
  case isLocal => exact fun name => keeps_of_barring (ScopeRef.run_isLocal · b.scope name) hread
  case unsetLocal =>
    exact fun name => keeps_of_barring (ScopeRef.run_unsetLocal · b.scope name) (h.undefine · name)

end ScriptHost
