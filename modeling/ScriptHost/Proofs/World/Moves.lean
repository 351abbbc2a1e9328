import ScriptHost.Proofs.World.Runs

/-!
# Everything that can be done with variables

A `World.Step` goes through bindings or through a context.  Whoever has a scope itself can do more:
look a variable up and keep the slot, give values and remove variables past the bindings, and store
through a slot that was found long ago.  These are the `ScopeRef.Access`es, and a `World.Move` is a
step or an access.

Moves are carried out as actions that cannot fail, and answer whether what was wanted has succeeded.
So what is said of a move can be said of its answer and of its events, and not only of the world
afterwards.

* `World.scope_afterMove` — only a move through a scope changes what the scope contains.
* `Slot.store_cases` — what comes of storing through a slot.
-/

set_option autoImplicit false

namespace ScriptHost

open ScriptHost.Action Outcome

/-- Runs an action and answers whether it has succeeded. -/
def Action.completes {ε σ α : Type} (x : Action ε σ α) : Action Empty σ Bool where
  run s := ⟨.ok (x.run s).result.isOk, (x.run s).state, (x.run s).events⟩

theorem Action.run_completes {ε σ α : Type} (x : Action ε σ α) (s : σ) :
    x.completes.run s = ⟨.ok (x.run s).result.isOk, (x.run s).state, (x.run s).events⟩ := rfl

/-! ## Storing through a slot -/

namespace Slot

variable (slot : Slot) (w : World) (s : ScopeRef)

theorem run_store_detached {slot : Slot} (h : slot.level = .global) (hstore : w.storeOf s = none)
    (value : Value) : (slot.store s value).run w =
      barring ((w.scopeReadFault s).or (w.linkFault s)) w
        ⟨.error (.storeDetached slot.name), w, []⟩ := by
  rw [store, h]
  simp only
  rw [run_bind_of_barring (readScope_eq w s), run_bind_of_barring (readLink_eq w s), hstore,
    ← barring_barring]
  rfl

/-- **A slot stays on its level.**  Storing through it fails and does nothing, or writes to the locals
of the scope, or writes to the store below the scope. -/
theorem store_cases (value : Value) :
    (∃ e, (slot.store s value).run w = ⟨.error e, w, []⟩) ∨
    (slot.level = .own ∧
      (slot.store s value).run w = ⟨.ok (), w.define s slot.name value, []⟩) ∨
    ∃ g, slot.level = .global ∧ w.storeOf s = some g ∧
      (slot.store s value).run w =
        ⟨.ok (), w.setEntries g ((w.entries g).insert slot.name value), []⟩ := by
  cases hlevel : slot.level with
  | own =>
    rw [run_store_own w s hlevel]
    cases w.scopeWriteFault s with
    | some e => exact .inl ⟨e, rfl⟩
    | none => exact .inr (.inl ⟨rfl, rfl⟩)
  | global =>
    cases hstore : w.storeOf s with
    | none =>
      rw [run_store_detached w s hlevel hstore]
      cases (w.scopeReadFault s).or (w.linkFault s) with
      | some e => exact .inl ⟨e, rfl⟩
      | none => exact .inl ⟨_, rfl⟩
    | some g =>
      rw [run_store_global w s hlevel hstore]
      cases (w.scopeReadFault s).or ((w.linkFault s).or (w.storeWriteFault g)) with
      | some e => exact .inl ⟨e, rfl⟩
      | none => exact .inr (.inr ⟨g, rfl, rfl, rfl⟩)

end Slot

/-! ## Accesses -/

namespace ScopeRef

/-- Something that may be done to the variables of a scope past its bindings. -/
inductive Access where
  | resolve (name : String)
  | get (name : String)
  | set (name : String) (value : Value)
  | unset (name : String)
  | names
  | localNames
  | getLocal (name : String)
  | isLocal (name : String)
  | unsetLocal (name : String)
  /-- Stores a value through a slot, which may have been found at any time and in any scope. -/
  | store (slot : Slot) (value : Value)

/-- Makes an access, and answers whether it has succeeded. -/
def carryOut (s : ScopeRef) : Access → Action Empty World Bool
  | .resolve name => (s.resolve name).completes
  | .get name => (s.get name).completes
  | .set name value => (s.set name value).completes
  | .unset name => (s.unset name).completes
  | .names => s.names.completes
  | .localNames => s.localNames.completes
  | .getLocal name => (s.getLocal name).completes
  | .isLocal name => (s.isLocal name).completes
  | .unsetLocal name => (s.unsetLocal name).completes
  | .store slot value => (slot.store s value).completes

/-- What may come of an access: nothing, if it only reads or if it is refused, or one write. -/
inductive Access.Outcomes (w : World) (s : ScopeRef) : Access → Outcome Empty World Bool → Prop
  | unchanged (x : Access) (ok : Bool) : Outcomes w s x ⟨.ok ok, w, []⟩
  | set (name : String) (value : Value) :
      Outcomes w s (.set name value) ⟨.ok true, w.assign s name value, []⟩
  | unset (name : String) :
      Outcomes w s (.unset name) ⟨.ok true, w.unassign s name, w.unassignEvents s name⟩
  | unsetLocal (name : String) :
      Outcomes w s (.unsetLocal name) ⟨.ok true, w.undefine s name, []⟩
  | storeOwn (slot : Slot) (value : Value) :
      Outcomes w s (.store slot value) ⟨.ok true, w.define s slot.name value, []⟩
  | storeGlobal (slot : Slot) (value : Value) (g : StoreRef) (hstore : w.storeOf s = some g) :
      Outcomes w s (.store slot value)
        ⟨.ok true, w.setEntries g ((w.entries g).insert slot.name value), []⟩

theorem outcomes_carryOut (w : World) (s : ScopeRef) (x : Access) :
    x.Outcomes w s ((s.carryOut x).run w) := by
  have hread : ∀ {α : Type} {y : Action AccessError World α} {fault : Option AccessError} {a : α},
      y.run w = barring fault w ⟨.ok a, w, []⟩ → x.Outcomes w s (y.completes.run w) := by
    intro α y fault a hy
    rw [run_completes, hy]
    cases fault <;> exact .unchanged x _
  cases x with
  | resolve name => exact hread (run_resolve w s name)
  | get name => exact hread (run_get w s name)
  | names => exact hread (run_names w s)
  | localNames => exact hread (run_localNames w s)
  | getLocal name => exact hread (run_getLocal w s name)
  | isLocal name => exact hread (run_isLocal w s name)
  | set name value =>
    rw [carryOut, run_completes, run_set]
    cases w.writeFault s name with
    | some e => exact .unchanged _ _
    | none => exact .set name value
  | unset name =>
    rw [carryOut, run_completes, run_unset]
    cases w.removeFault s name with
    | some e => exact .unchanged _ _
    | none => exact .unset name
  | unsetLocal name =>
    rw [carryOut, run_completes, run_unsetLocal]
    cases w.scopeWriteFault s with
    | some e => exact .unchanged _ _
    | none => exact .unsetLocal name
  | store slot value =>
    rw [carryOut, run_completes]
    obtain ⟨e, h⟩ | ⟨-, h⟩ | ⟨g, -, hg, h⟩ := slot.store_cases w s value
    · rw [h]
      exact .unchanged _ _
    · rw [h]
      exact .storeOwn slot value
    · rw [h]
      exact .storeGlobal slot value g hg

/-- **What holds across each write holds across every access.**  Declarations, and insertions into the
store below the scope, are writes of their own, because a slot may be older than the world. -/
theorem related_carryOut {R : World → World → Prop} [IsPreorder World R] {w : World} {s : ScopeRef}
    (h : World.AcrossWrites R s) (hdefine : ∀ name value, R w (w.define s name value))
    (hinsert : ∀ g name value, w.storeOf s = some g →
      R w (w.setEntries g ((w.entries g).insert name value)))
    (x : Access) : R w ((s.carryOut x).run w).state := by
  have hends := outcomes_carryOut w s x
  generalize (s.carryOut x).run w = o at hends ⊢
  cases hends with
  | unchanged => exact refl w
  | set name value => exact h.assign w name value
  | unset name => exact h.unassign w name
  | unsetLocal name => exact h.undefine w name
  | storeOwn slot value => exact hdefine slot.name value
  | storeGlobal slot value g hstore => exact hinsert g slot.name value hstore

/-- An access stays within its scope and the store below it. -/
theorem through_carryOut (w : World) (s : ScopeRef) (x : Access) :
    World.Through s w ((s.carryOut x).run w).state :=
  related_carryOut (World.acrossWrites_through s) (World.through_define w s)
    (fun _ _ _ hstore => World.through_setEntries hstore _) x

end ScopeRef

/-! ## Moves -/

namespace World

/-- Carries out a step, and answers whether it has succeeded. -/
def Step.carryOut : Step → Action Empty World Bool
  | .operate s op => ((Bindings.mk s).operate op).completes
  | .newContext settings out err => (Context.new settings out err : Action Empty World _).completes
  | .newScope c => (c.newScope : Action Empty World ScopeRef).completes
  | .setGlobalStore c store => (c.setGlobalStore store).completes
  | .hold r mode => (ScriptHost.hold r mode : Action Empty World Bool).completes
  | .letGo r => (ScriptHost.letGo r : Action Empty World Unit).completes
  | .insert g name value => (g.insert name value).completes
  | .remove g name => (g.remove name).completes

theorem state_carryOut (w : World) (step : Step) : (step.carryOut.run w).state = w.after step := by
  cases step <;> rfl

/-- Something that is done in a world, through bindings or past them. -/
inductive Move : Type 1 where
  | step (step : Step)
  | access (s : ScopeRef) (x : ScopeRef.Access)

/-- Carries out a move, and answers whether it has succeeded. -/
def Move.carryOut : Move → Action Empty World Bool
  | .step taken => taken.carryOut
  | .access s x => s.carryOut x

/-- The scope that a move goes through, if it goes through one. -/
def Move.scope? : Move → Option ScopeRef
  | .step (.operate s _) => some s
  | .step _ => none
  | .access s _ => some s

/-- The world after a move, whether the move succeeded or not. -/
def afterMove (w : World) (m : Move) : World := (m.carryOut.run w).state

theorem afterMove_step (w : World) (step : Step) : w.afterMove (.step step) = w.after step :=
  state_carryOut w step

/-- The world after a run of moves. -/
def afterMoves (w : World) (moves : List Move) : World := moves.foldl afterMove w

theorem afterMoves_append (w : World) (before rest : List Move) :
    w.afterMoves (before ++ rest) = (w.afterMoves before).afterMoves rest :=
  List.foldl_append

/-- Each move of the run is as `P` says, in the world in which it is made. -/
def Throughout (P : World → Move → Prop) : World → List Move → Prop
  | _, [] => True
  | w, m :: rest => P w m ∧ Throughout P (w.afterMove m) rest

/-- No scope goes away. -/
theorem scopeCount_le_afterMove (w : World) (m : Move) :
    w.scopeCount ≤ (w.afterMove m).scopeCount := by
  cases m with
  | step step =>
    rw [afterMove_step]
    exact w.scopeCount_le_after step
  | access s x => exact Nat.le_of_eq (ScopeRef.through_carryOut w s x).scopeCount.symm

/-- A move stays within the scope that it goes through and the store below it. -/
theorem through_afterMove (w : World) {s : ScopeRef} {m : Move} (hm : m.scope? = some s) :
    Through s w (w.afterMove m) := by
  cases m with
  | access t x =>
    cases hm
    exact ScopeRef.through_carryOut w s x
  | step step =>
    cases step with
    | operate t op =>
      cases hm
      exact Bindings.through_operate ⟨s⟩ op w
    | _ => cases hm

/-- **Only a move through a scope changes what the scope contains.** -/
theorem scope_afterMove {w : World} {s : ScopeRef} (hexist : s.index < w.scopeCount) {m : Move}
    (hm : m.scope? ≠ some s) : (w.afterMove m).scope s = w.scope s := by
  cases m with
  | step step =>
    rw [afterMove_step]
    refine scope_after hexist fun op heq => hm ?_
    rw [heq, Move.scope?]
  | access t x =>
    have hne : s ≠ t := fun heq => hm (by rw [heq, Move.scope?])
    exact (through_afterMove w rfl).scope_of_ne hne

end World

end ScriptHost
