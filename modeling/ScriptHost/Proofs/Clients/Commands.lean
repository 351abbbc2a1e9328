import ScriptHost.Engine
import ScriptHost.Proofs.Bindings.Isolation
import ScriptHost.Proofs.Bindings.Likeness

/-!
# Clients

A client works on one execution context: it operates on the scopes of the context, makes new ones, and
exchanges the store.  It does not know how the world numbers its cells, and so a `Client.Command`
names a scope by its place in the list of scopes that the client has come to know.

What a client can reach is its `Client.Realm`: the link of its context, and the stores that the link
leads to, now or later.

* `Realm.Mirrors` — seen from the realm, two states are the same.  The scopes may have different
  numbers in the two; all else that the client can reach is equal.
* `Command.parallel_carryOut` — a command is answered in the same way in two such states, and then
  they are such states again.
* `Command.spares_carryOut` — a command changes nothing outside the realm.
* `Realm.Mirrors.of_spares` — so what another client does is not seen, if the realms are apart.
-/

set_option autoImplicit false

namespace ScriptHost

namespace Client

open ScriptHost.Action

/-! ## Commands -/

/-- Something that a client wants done. -/
inductive Command where
  /-- An operation through the `i`-th of the scopes that the client knows. -/
  | operate (i : Nat) (op : Bindings.Operation)
  | newScope
  | setGlobalStore (store : Option StoreRef)

/-- What a client is told. -/
inductive Reply where
  | operated (op : Bindings.Operation) (r : Except op.Error op.Answer)
  | noSuchScope
  | created
  | linked (r : Except SwapError Unit)

/-- The state of affairs for one client: the world, and the scopes that the client knows, oldest
first. -/
abbrev View : Type := World × List ScopeRef

namespace Command

variable {σ τ : Type} (c : Context σ τ)

/-- Carries out a command of a client who works on the context `c`. -/
def carryOut : Command → Action Empty View Reply
  | .operate i op => do
    let (_, scopes) ← get
    match scopes[i]? with
    | some s => return .operated op (← (onWorld ((Bindings.mk s).operate op)).attempt)
    | none => return .noSuchScope
  | .newScope => do
    let s ← onWorld c.newScope
    modify fun (w, scopes) => (w, scopes ++ [s])
    return .created
  | .setGlobalStore store => return .linked (← (onWorld (c.setGlobalStore store)).attempt)

variable {c} {w : World} {scopes : List ScopeRef}

theorem run_operate {i : Nat} {s : ScopeRef} (h : scopes[i]? = some s) (op : Bindings.Operation) :
    (carryOut c (.operate i op)).run (w, scopes) =
      let done := ((Bindings.mk s).operate op).run w
      ⟨.ok (.operated op done.result), (done.state, scopes), done.events⟩ := by
  rw [carryOut, run_bind, run_get, andThen_ok]
  simp only [h, run_bind, run_attempt, andThen_ok, run_pure, onWorld, run_zoom, List.nil_append,
    List.append_nil]

theorem run_operate_none {i : Nat} (h : scopes[i]? = none) (op : Bindings.Operation) :
    (carryOut c (.operate i op)).run (w, scopes) = ⟨.ok .noSuchScope, (w, scopes), []⟩ := by
  rw [carryOut, run_bind, run_get, andThen_ok]
  simp only [h, run_pure, List.nil_append]

theorem run_newScope : (carryOut c .newScope).run (w, scopes) =
    ⟨.ok .created,
      ({ w with
          scopes := replaceAt w.scopes ⟨w.scopeCount⟩
            { content := ⟨c.settings.scopeName, .empty, c.link, 0⟩ }
          scopeCount := w.scopeCount + 1 }, scopes ++ [⟨w.scopeCount⟩]), []⟩ := rfl

theorem run_setGlobalStore (store : Option StoreRef) :
    (carryOut c (.setGlobalStore store)).run (w, scopes) =
      if (w.links c.link).guard.canWrite then
        ⟨.ok (.linked (.ok ())), (w.setLink c.link store, scopes), []⟩
      else ⟨.ok (.linked (.error .linkHeld)), (w, scopes), []⟩ := by
  simp only [carryOut, run_bind, run_attempt, andThen_ok, run_pure, onWorld, run_zoom,
    Context.setGlobalStore]
  split <;> rfl

end Command

/-! ## What a client can reach -/

/-- What belongs to a client. -/
structure Realm where
  /-- The link of its context. -/
  link : LinkRef
  /-- The stores to which it may lead. -/
  stores : StoreRef → Prop

/-- The realm of a client who works on a context with the given stores. -/
def Realm.of {σ τ : Type} (c : Context σ τ) (stores : StoreRef → Prop) : Realm := ⟨c.link, stores⟩

namespace Realm

/-- The scopes that the client knows exist and are on its link, which leads to a store of its own, or
to none. -/
structure Holds (r : Realm) (v : View) : Prop where
  onLink : ∀ s ∈ v.2, (v.1.scope s).link = r.link
  exist : ∀ s ∈ v.2, s.index < v.1.scopeCount
  linked : ∀ g, v.1.linked r.link = some g → r.stores g

/-- Seen from the realm, the worlds `w` and `w'` are the same; a scope that is `p.1` in `w` is `p.2`
in `w'`. -/
structure Mirrored (r : Realm) (known : List (ScopeRef × ScopeRef)) (w w' : World) : Prop where
  cells : ∀ p ∈ known, w.scopes p.1 = w'.scopes p.2
  oneToOne : ∀ p ∈ known, ∀ q ∈ known, p.1 = q.1 ↔ p.2 = q.2
  exist : ∀ p ∈ known, p.1.index < w.scopeCount ∧ p.2.index < w'.scopeCount
  onLink : ∀ p ∈ known, (w.scope p.1).link = r.link
  link : w.links r.link = w'.links r.link
  linked : ∀ g, w.linked r.link = some g → r.stores g
  stores : ∀ g, r.stores g → w.stores g = w'.stores g

/-- Seen from the realm, the two states of affairs are the same. -/
def Mirrors (r : Realm) (v v' : View) : Prop :=
  ∃ known, v.2 = known.map Prod.fst ∧ v'.2 = known.map Prod.snd ∧ r.Mirrored known v.1 v'.1

variable {r : Realm} {v v' : View}

theorem Holds.mirrors (h : r.Holds v) : r.Mirrors v v := by
  refine ⟨v.2.map fun s => (s, s), ?_, ?_, ?_⟩
  · rw [List.map_map]
    exact (List.map_id v.2).symm
  · rw [List.map_map]
    exact (List.map_id v.2).symm
  · have hknown : ∀ p ∈ v.2.map fun s => (s, s), p.1 = p.2 ∧ p.1 ∈ v.2 := by
      intro p hp
      obtain ⟨s, hs, rfl⟩ := List.mem_map.1 hp
      exact ⟨rfl, hs⟩
    constructor
    case cells => exact fun p hp => congrArg _ (hknown p hp).1
    case oneToOne => exact fun p hp q hq => by rw [(hknown p hp).1, (hknown q hq).1]
    case exist =>
      intro p hp
      have hexist := h.exist _ (hknown p hp).2
      exact ⟨hexist, (hknown p hp).1 ▸ hexist⟩
    case onLink => exact fun p hp => h.onLink _ (hknown p hp).2
    case link => rfl
    case linked => exact h.linked
    case stores => exact fun _ _ => rfl

theorem Mirrors.holds (h : r.Mirrors v v') : r.Holds v := by
  obtain ⟨known, hv, -, hm⟩ := h
  refine ⟨fun s hs => ?_, fun s hs => ?_, hm.linked⟩
  all_goals
    rw [hv] at hs
    obtain ⟨p, hp, rfl⟩ := List.mem_map.1 hs
  · exact hm.onLink p hp
  · exact (hm.exist p hp).1

/-! ### Scopes that mirror each other look alike -/

variable {known : List (ScopeRef × ScopeRef)} {w w' : World} {p : ScopeRef × ScopeRef}

theorem Mirrored.alike (h : r.Mirrored known w w') (hp : p ∈ known) : w.Alike p.1 w' p.2 where
  cell := h.cells p hp
  link := by
    have hscope : w.scope p.1 = w'.scope p.2 := congrArg Cell.content (h.cells p hp)
    rw [← hscope, h.onLink p hp, h.link]
  store g hg := by
    rw [World.storeOf, h.onLink p hp] at hg
    exact h.stores g (h.linked g hg)

theorem Mirrored.setScope (h : r.Mirrored known w w') (hp : p ∈ known) {scope : Scope}
    (hlink : scope.link = (w.scope p.1).link) :
    r.Mirrored known (w.setScope p.1 scope) (w'.setScope p.2 scope) := by
  constructor
  case cells =>
    intro q hq
    by_cases hqp : q.1 = p.1
    · have hqp' := (h.oneToOne q hq p hp).1 hqp
      rw [World.setScope, World.setScope, hqp, hqp']
      simp only [replaceAt_self, h.cells p hp]
    · have hqp' := fun heq => hqp ((h.oneToOne q hq p hp).2 heq)
      rw [World.setScope, World.setScope]
      simp only [replaceAt_of_ne _ _ hqp, replaceAt_of_ne _ _ hqp', h.cells q hq]
  case oneToOne => exact h.oneToOne
  case exist => exact h.exist
  case onLink =>
    intro q hq
    by_cases hqp : q.1 = p.1
    · rw [hqp, World.scope_setScope_self, hlink, h.onLink p hp]
    · rw [World.scope_setScope_of_ne _ _ _ _ hqp, h.onLink q hq]
  case link => exact h.link
  case linked => exact h.linked
  case stores => exact h.stores

theorem Mirrored.setEntries (h : r.Mirrored known w w') {g : StoreRef} (hg : r.stores g)
    (entries : Table Value) :
    r.Mirrored known (w.setEntries g entries) (w'.setEntries g entries) := by
  refine ⟨h.cells, h.oneToOne, h.exist, h.onLink, h.link, h.linked, fun g' hg' => ?_⟩
  by_cases hgg : g' = g
  · rw [hgg, World.setEntries, World.setEntries]
    simp only [replaceAt_self, h.stores g hg]
  · rw [World.setEntries, World.setEntries]
    simp only [replaceAt_of_ne _ _ hgg, h.stores g' hg']

theorem likeness (r : Realm) (hp : p ∈ known) : World.Likeness (r.Mirrored known) p.1 p.2 where
  alike h := h.alike hp
  setScope h hlink := h.setScope hp hlink
  setEntries entries h hg := by
    rw [World.storeOf, h.onLink p hp] at hg
    exact h.setEntries (h.linked _ hg) entries

end Realm

/-! ## The same command in two states of affairs -/

section

variable {σ τ : Type} {c : Context σ τ} {stores : StoreRef → Prop}

theorem Command.parallel_newScope :
    Parallel (Realm.of c stores).Mirrors (carryOut c .newScope) (carryOut c .newScope) := by
  rintro ⟨w, scopes⟩ ⟨w', scopes'⟩ ⟨known, rfl, rfl, h⟩
  rw [run_newScope, run_newScope]
  refine ⟨rfl, rfl, known ++ [(⟨w.scopeCount⟩, ⟨w'.scopeCount⟩)], ?_, ?_, ?_⟩
  · simp only [List.map_append, List.map_cons, List.map_nil]
  · simp only [List.map_append, List.map_cons, List.map_nil]
  -- the new scope is none of those known before
  have hne : ∀ p ∈ known, p.1 ≠ ⟨w.scopeCount⟩ ∧ p.2 ≠ ⟨w'.scopeCount⟩ := by
    intro p hp
    obtain ⟨hexist, hexist'⟩ := h.exist p hp
    exact ⟨fun heq => Nat.ne_of_lt hexist (congrArg ScopeRef.index heq),
      fun heq => Nat.ne_of_lt hexist' (congrArg ScopeRef.index heq)⟩
  constructor
  case cells =>
    intro p hp
    rcases List.mem_append.1 hp with hp | hp
    · simp only [replaceAt_of_ne _ _ (hne p hp).1, replaceAt_of_ne _ _ (hne p hp).2]
      exact h.cells p hp
    · rw [List.mem_singleton.1 hp]
      simp only [replaceAt_self]
  case oneToOne =>
    intro p hp q hq
    rcases List.mem_append.1 hp with hp | hp <;> rcases List.mem_append.1 hq with hq | hq
    · exact h.oneToOne p hp q hq
    · rw [List.mem_singleton.1 hq]
      exact iff_of_false (hne p hp).1 (hne p hp).2
    · rw [List.mem_singleton.1 hp]
      exact iff_of_false (fun heq => (hne q hq).1 heq.symm) fun heq => (hne q hq).2 heq.symm
    · rw [List.mem_singleton.1 hp, List.mem_singleton.1 hq]
      exact iff_of_true rfl rfl
  case exist =>
    intro p hp
    rcases List.mem_append.1 hp with hp | hp
    · exact ⟨Nat.lt_succ_of_lt (h.exist p hp).1, Nat.lt_succ_of_lt (h.exist p hp).2⟩
    · rw [List.mem_singleton.1 hp]
      exact ⟨Nat.lt_succ_self _, Nat.lt_succ_self _⟩
  case onLink =>
    intro p hp
    rcases List.mem_append.1 hp with hp | hp
    · rw [World.scope]
      simp only [replaceAt_of_ne _ _ (hne p hp).1]
      exact h.onLink p hp
    · rw [List.mem_singleton.1 hp, World.scope]
      simp only [replaceAt_self]
      rfl
  case link => exact h.link
  case linked => exact h.linked
  case stores => exact h.stores

theorem Command.parallel_setGlobalStore {store : Option StoreRef}
    (hstore : ∀ g, store = some g → stores g) :
    Parallel (Realm.of c stores).Mirrors (carryOut c (.setGlobalStore store))
      (carryOut c (.setGlobalStore store)) := by
  rintro ⟨w, scopes⟩ ⟨w', scopes'⟩ ⟨known, hscopes, hscopes', h⟩
  have hlink : w.links c.link = w'.links c.link := h.link
  rw [run_setGlobalStore, run_setGlobalStore, ← hlink]
  split
  · refine ⟨rfl, rfl, known, hscopes, hscopes', h.cells, h.oneToOne, h.exist, h.onLink, ?_, ?_,
      h.stores⟩
    · simp only [World.setLink, Realm.of, replaceAt_self, hlink]
    · intro g hg
      rw [World.linked, World.setLink, Realm.of] at hg
      simp only [replaceAt_self] at hg
      exact hstore g hg
  · exact ⟨rfl, rfl, known, hscopes, hscopes', h⟩

/-- **A client cannot tell mirrored states of affairs apart.** -/
theorem Command.parallel_carryOut (command : Command)
    (hstore : ∀ g, command = .setGlobalStore (some g) → stores g) :
    Parallel (Realm.of c stores).Mirrors (command.carryOut c) (command.carryOut c) := by
  cases command with
  | newScope => exact parallel_newScope
  | setGlobalStore store => exact parallel_setGlobalStore fun g hg => hstore g (hg ▸ rfl)
  | operate i op =>
    rintro ⟨w, scopes⟩ ⟨w', scopes'⟩ ⟨known, rfl, rfl, h⟩
    cases hp : known[i]? with
    | none =>
      rw [run_operate_none (by rw [List.getElem?_map, hp]; rfl),
        run_operate_none (by rw [List.getElem?_map, hp]; rfl)]
      exact ⟨rfl, rfl, known, rfl, rfl, h⟩
    | some p =>
      have hlike := (Realm.of c stores).likeness (List.mem_of_getElem? hp)
      obtain ⟨hresult, hevents, hstate⟩ :=
        @Bindings.parallel_operate _ ⟨p.1⟩ ⟨p.2⟩ hlike op w w' h
      rw [run_operate (s := p.1) (by rw [List.getElem?_map, hp]; rfl),
        run_operate (s := p.2) (by rw [List.getElem?_map, hp]; rfl)]
      exact ⟨congrArg (fun r => Except.ok (Reply.operated op r)) hresult, hevents, known, rfl, rfl,
        hstate⟩

/-! ## What a command leaves alone -/

/-- Outside the realm, all that was there in the state of affairs `v` is still the same in `w`. -/
structure Realm.Spares (r : Realm) (v : View) (w : World) : Prop where
  scopes : ∀ t, t.index < v.1.scopeCount → t ∉ v.2 → w.scopes t = v.1.scopes t
  links : ∀ l, l ≠ r.link → w.links l = v.1.links l
  stores : ∀ g, ¬ r.stores g → w.stores g = v.1.stores g
  scopeCount : v.1.scopeCount ≤ w.scopeCount

/-- **A command changes nothing outside the realm.** -/
theorem Command.spares_carryOut (command : Command) {v : View} (h : (Realm.of c stores).Holds v) :
    (Realm.of c stores).Spares v ((command.carryOut c).run v).state.1 := by
  obtain ⟨w, scopes⟩ := v
  have hnothing : (Realm.of c stores).Spares (w, scopes) w :=
    ⟨fun _ _ _ => rfl, fun _ _ => rfl, fun _ _ => rfl, Nat.le_refl _⟩
  cases command with
  | newScope =>
    rw [run_newScope]
    refine ⟨fun t ht _ => ?_, fun _ _ => rfl, fun _ _ => rfl, Nat.le_succ _⟩
    exact replaceAt_of_ne _ _ fun heq => Nat.ne_of_lt ht (congrArg ScopeRef.index heq)
  | setGlobalStore store =>
    rw [run_setGlobalStore]
    split
    · exact ⟨fun _ _ _ => rfl, fun l hl => replaceAt_of_ne _ _ hl, fun _ _ => rfl, Nat.le_refl _⟩
    · exact hnothing
  | operate i op =>
    cases hs : scopes[i]? with
    | none =>
      rw [run_operate_none hs]
      exact hnothing
    | some s =>
      rw [run_operate hs]
      have hmem : s ∈ scopes := List.mem_of_getElem? hs
      obtain ⟨hscopes, -, hlinks, hstores, hcount⟩ := Bindings.through_operate ⟨s⟩ op w
      refine ⟨fun t _ ht => hscopes t fun heq => ht (heq ▸ hmem), fun l _ => by rw [hlinks],
        fun g hg => hstores g fun hs' => hg ?_, Nat.le_of_eq hcount.symm⟩
      rw [World.storeOf, h.onLink s hmem] at hs'
      exact h.linked g hs'

/-- What happens outside a realm is not seen from it. -/
theorem Realm.Mirrors.of_spares {r r' : Realm} {v v' v₁ : View} {w : World} (h : r.Mirrors v v')
    (hspares : r'.Spares v₁ w) (hworld : v₁.1 = v.1) (holds : r'.Holds v₁)
    (hlink : r.link ≠ r'.link) (hstores : ∀ g, r.stores g → ¬ r'.stores g) :
    r.Mirrors (w, v.2) v' := by
  obtain ⟨known, hv, hv', hm⟩ := h
  have hcell : ∀ p ∈ known, w.scopes p.1 = v.1.scopes p.1 := by
    intro p hp
    rw [← hworld]
    refine hspares.scopes p.1 (hworld ▸ (hm.exist p hp).1) fun hmem => hlink ?_
    -- a scope is on one link only
    rw [← hm.onLink p hp, ← hworld, holds.onLink _ hmem]
  have hlinks : w.links r.link = v.1.links r.link := (hspares.links _ hlink).trans (by rw [hworld])
  refine ⟨known, hv, hv', fun p hp => (hcell p hp).trans (hm.cells p hp), hm.oneToOne,
    fun p hp => ⟨?_, (hm.exist p hp).2⟩, fun p hp => ?_, hlinks.trans hm.link, fun g hg => ?_,
    fun g hg => ?_⟩
  · exact Nat.lt_of_lt_of_le (hm.exist p hp).1 (hworld ▸ hspares.scopeCount)
  · rw [World.scope, hcell p hp]
    exact hm.onLink p hp
  · rw [World.linked, hlinks] at hg
    exact hm.linked g hg
  · exact (hspares.stores g (hstores g hg)).trans (hworld ▸ hm.stores g hg)

end

end Client

end ScriptHost
