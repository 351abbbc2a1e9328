import ScriptHost.Proofs.Bindings.Views
import ScriptHost.Proofs.Bindings.Remove
import ScriptHost.Proofs.World.Moves

/-!
# Exchanging the store of a context

All scopes of a context reach the store of global variables through one link.  Leading the link to
another store, or to none, changes nothing but this one cell, and yet it changes what every scope of
the context shows: the locals stay, and the globals below them are those of the other store.

* `World.Relinked` — what changes when a link is led elsewhere, and what not.
* `World.linked_afterMoves` — a link leads where it leads until somebody leads it elsewhere, so a
  scope that is made later shows the same store.
* `World.entries_afterMoves` — a store that is out of reach keeps its entries.
* `Context.setGlobalStore_law` — all of this for exchanging the store of a context, and for going
  back to the store that was there before.
-/

set_option autoImplicit false

namespace ScriptHost

open ScriptHost.Action

namespace World

variable {w w' : World} {s : ScopeRef} {l l' : LinkRef} {g : StoreRef} {store : Option StoreRef}

/-! ## Links -/

@[simp] theorem linked_setLink_self : (w.setLink l store).linked l = store := by
  simp [setLink, linked]

@[simp] theorem linked_setLink_of_ne (h : l' ≠ l) :
    (w.setLink l store).linked l' = w.linked l' := by
  simp [setLink, linked, h]

@[simp] theorem guardOf_setLink (r : Resource) :
    (w.setLink l store).guardOf r = w.guardOf r := by
  cases r with
  | scope s => rfl
  | store g => rfl
  | link l' =>
    by_cases h : l' = l
    · simp [setLink, guardOf, h]
    · simp [setLink, guardOf, h]

/-- A link that is led back at once is as it was. -/
theorem setLink_linked : (w.setLink l store).setLink l (w.linked l) = w := by
  simp only [setLink, replaceAt_self, replaceAt_replaceAt]
  exact congrArg (fun links => { w with links }) (replaceAt_eq_self w.links l)

theorem storeOf_setLink_of_ne (h : (w.scope s).link ≠ l) :
    (w.setLink l store).storeOf s = w.storeOf s :=
  linked_setLink_of_ne h

/-! ## What a scope shows over a store -/

/-- The entries of a store, none if there is no store. -/
def contents (w : World) : Option StoreRef → Table Value
  | some g => w.entries g
  | none => .empty

theorem globals_eq_contents (w : World) (s : ScopeRef) : w.globals s = w.contents (w.storeOf s) := by
  rw [globals]
  cases w.storeOf s <;> rfl

/-- Scope `s` shows its locals, and after them the globals that no local hides; and this is what its
bindings hold, unless a cell is in the way of listing them. -/
structure ShowsOver (w : World) (s : ScopeRef) (globals : Table Value) : Prop where
  shown : w.shown s = (w.scope s).locals.entries ++
    globals.entries.filter fun entry => entry.1 ∉ (w.scope s).locals.keys
  entries : w.listFault s = none → ∃ snapshot : Snapshot,
    (Bindings.mk s).entries.run w = ⟨.ok snapshot, w, []⟩ ∧ snapshot.toList = w.shown s

theorem showsOver_contents (hstore : w.storeOf s = store) : w.ShowsOver s (w.contents store) where
  shown := by rw [World.shown, globals_eq_contents, hstore]
  entries hlist := by
    refine ⟨⟨Table.ofList (w.shown s)⟩, ?_, Entries.ofList_of_nodup (w.nodup_shown s)⟩
    rw [Bindings.run_entries, hlist]
    rfl

/-- The world `w'` is `w` after link `l` was led to a store, or to none. -/
structure Relinked (w w' : World) (l : LinkRef) (store : Option StoreRef) : Prop where
  linked : w'.linked l = store
  /-- Nothing but links has changed: no scope, with its locals and its revision, and no store. -/
  rest : w' = { w with links := w'.links }
  otherLinks : ∀ l', l' ≠ l → w'.links l' = w.links l'
  guards : ∀ r, w'.guardOf r = w.guardOf r
  /-- The scopes on the link have the entries of the store below their locals. -/
  here : ∀ s, (w.scope s).link = l → w'.ShowsOver s (w.contents store)
  /-- Other scopes show what they showed, also those over the same store. -/
  elsewhere : ∀ s, (w.scope s).link ≠ l → w'.shown s = w.shown s

theorem relinked_setLink : w.Relinked (w.setLink l store) l store where
  linked := linked_setLink_self
  rest := rfl
  otherLinks _ h := replaceAt_of_ne _ _ h
  guards := guardOf_setLink
  here s hs := by
    have hcontents : (w.setLink l store).contents store = w.contents store := by
      cases store <;> rfl
    rw [← hcontents]
    refine showsOver_contents ?_
    rw [storeOf, show ((w.setLink l store).scope s).link = l from hs, linked_setLink_self]
  elsewhere s hs := by
    rw [shown, shown, globals, globals, storeOf_setLink_of_ne hs]
    rfl

/-! ## What leaves links alone -/

/-- Nothing but the contents of cells has changed. -/
structure SameCells (w w' : World) : Prop where
  guards : ∀ r, w'.guardOf r = w.guardOf r
  linkCount : w'.linkCount = w.linkCount

instance : IsPreorder World SameCells where
  refl _ := ⟨fun _ => rfl, rfl⟩
  trans _ _ _ h h' := ⟨fun r => (h'.guards r).trans (h.guards r), h'.linkCount.trans h.linkCount⟩

theorem sameCells_setScope (scope : Scope) : SameCells w (w.setScope s scope) :=
  ⟨guardOf_setScope w s scope, rfl⟩

theorem sameCells_setEntries (entries : Table Value) : SameCells w (w.setEntries g entries) :=
  ⟨guardOf_setEntries w g entries, rfl⟩

theorem acrossWrites_sameCells (s : ScopeRef) : AcrossWrites SameCells s where
  assign w name value := by
    rw [assign]
    split
    · exact sameCells_setEntries _
    · exact sameCells_setScope _
  unassign w name := by
    rw [unassign]
    split
    · exact IsTrans.trans _ _ _ (sameCells_setEntries _) (sameCells_setScope _)
    · split
      · exact sameCells_setScope _
      · exact refl w
  undefine _ _ := sameCells_setScope _

/-- What goes through a scope holds no cell and makes none. -/
theorem sameCells_afterMove (w : World) {m : Move} (hm : m.scope?.isSome) :
    SameCells w (w.afterMove m) := by
  cases m with
  | access t x =>
    exact ScopeRef.related_carryOut (acrossWrites_sameCells t) (fun _ _ => sameCells_setScope _)
      (fun _ _ _ _ => sameCells_setEntries _) x
  | step step =>
    cases step with
    | operate t op =>
      exact Bindings.keeps_operate ⟨t⟩ (acrossWrites_sameCells t) op
        (fun _ _ _ _ => sameCells_setScope _) w
    | _ => exact absurd hm Bool.false_ne_true

theorem sameCells_afterMoves {moves : List Move} (hmoves : ∀ m ∈ moves, m.scope?.isSome) :
    SameCells w (w.afterMoves moves) := by
  induction moves generalizing w with
  | nil => exact refl w
  | cons m rest ih =>
    obtain ⟨hm, hrest⟩ := List.forall_mem_cons.1 hmoves
    exact IsTrans.trans _ _ _ (sameCells_afterMove w hm) (ih hrest)

/-! ### What a link leads to -/

@[simp] theorem linkCount_setGuard (w : World) (guard : Guard) (r : Resource) :
    (w.setGuard guard r).linkCount = w.linkCount := by
  cases r <;> rfl

@[simp] theorem linked_setGuard (w : World) (guard : Guard) (r : Resource) (l : LinkRef) :
    (w.setGuard guard r).linked l = w.linked l := by
  cases r with
  | scope s => rfl
  | store g => rfl
  | link l' =>
    by_cases h : l = l'
    · simp [setGuard, linked, h]
    · simp [setGuard, linked, h]

/-- The move leads a link to another store, or to none. -/
def Move.Relinks (l : LinkRef) : Move → Prop
  | .step (.setGlobalStore c _) => c.link = l
  | _ => False

/-- **A link leads where it leads until somebody leads it elsewhere.** -/
theorem linked_afterMove (hexist : l.index < w.linkCount) {m : Move} (hm : ¬ m.Relinks l) :
    l.index < (w.afterMove m).linkCount ∧ (w.afterMove m).linked l = w.linked l := by
  -- a link that exists is not the one that a new context makes
  have hnew : l ≠ ⟨w.linkCount⟩ := fun heq => Nat.ne_of_lt hexist (congrArg LinkRef.index heq)
  have hsome : ∀ t, m.scope? = some t →
      l.index < (w.afterMove m).linkCount ∧ (w.afterMove m).linked l = w.linked l := by
    intro t ht
    rw [linked, (through_afterMove w ht).links, (sameCells_afterMove w (ht ▸ rfl)).linkCount]
    exact ⟨hexist, rfl⟩
  cases m with
  | access t x => exact hsome t rfl
  | step step =>
    cases step with
    | operate t op => exact hsome t rfl
    | newContext settings out err =>
      exact ⟨Nat.lt_succ_of_lt hexist, congrArg Cell.content (replaceAt_of_ne _ _ hnew)⟩
    | newScope c => exact ⟨hexist, rfl⟩
    | setGlobalStore c store =>
      rw [afterMove_step]
      simp only [after, Context.setGlobalStore]
      split
      · exact ⟨hexist, linked_setLink_of_ne fun heq => hm heq.symm⟩
      · exact ⟨hexist, rfl⟩
    | hold r mode =>
      rw [afterMove_step]
      rcases w.after_hold r mode with h | ⟨guard, h⟩
      · rw [h]
        exact ⟨hexist, rfl⟩
      · rw [h, linkCount_setGuard]
        exact ⟨hexist, linked_setGuard _ _ _ _⟩
    | letGo r => exact ⟨(linkCount_setGuard w _ r).symm ▸ hexist, linked_setGuard _ _ _ _⟩
    | insert g name value =>
      rw [afterMove_step, after_insert]
      split <;> exact ⟨hexist, rfl⟩
    | remove g name =>
      rw [afterMove_step, after_remove]
      split <;> exact ⟨hexist, rfl⟩

theorem linked_afterMoves (hexist : l.index < w.linkCount) {moves : List Move}
    (hmoves : ∀ m ∈ moves, ¬ m.Relinks l) : (w.afterMoves moves).linked l = w.linked l := by
  induction moves generalizing w with
  | nil => rfl
  | cons m rest ih =>
    obtain ⟨hm, hrest⟩ := List.forall_mem_cons.1 hmoves
    obtain ⟨hexist', hlinked⟩ := linked_afterMove hexist hm
    exact (ih hexist' hrest).trans hlinked

/-! ### What a store contains -/

/-- The move does not reach the store: it goes through a scope that is not linked to the store, or
through none, and it is no write of the host to the store. -/
def Move.Avoids (g : StoreRef) (w : World) : Move → Prop
  | .step (.operate s _) => w.storeOf s ≠ some g
  | .step (.insert g' _ _) => g' ≠ g
  | .step (.remove g' _) => g' ≠ g
  | .step _ => True
  | .access s _ => w.storeOf s ≠ some g

theorem entries_afterMove {m : Move} (hm : m.Avoids g w) :
    (w.afterMove m).entries g = w.entries g := by
  cases m with
  | access t x => exact (through_afterMove w rfl).entries_of_ne hm
  | step step =>
    by_cases hop : ∃ t op, step = .operate t op
    · obtain ⟨t, op, rfl⟩ := hop
      exact (through_afterMove w rfl).entries_of_ne hm
    · rw [afterMove_step]
      refine entries_after g (fun t op heq => hop ⟨t, op, heq⟩) ?_ ?_
      · rintro name value rfl
        exact hm rfl
      · rintro name rfl
        exact hm rfl

/-- **A store that nobody reaches keeps its entries.** -/
theorem entries_afterMoves {moves : List Move} (hmoves : Throughout (Move.Avoids g) w moves) :
    (w.afterMoves moves).entries g = w.entries g := by
  induction moves generalizing w with
  | nil => rfl
  | cons m rest ih => exact (ih hmoves.2).trans (entries_afterMove hmoves.1)

end World

namespace Context

variable {σ τ : Type} (c : Context σ τ) {w : World}

theorem run_setGlobalStore_of_free (hfree : w.guardOf (.link c.link) = .free)
    (store : Option StoreRef) :
    (c.setGlobalStore store).run w = ⟨.ok (), w.setLink c.link store, []⟩ := by
  have hwrite : (w.links c.link).guard.canWrite = true := by
    rw [show (w.links c.link).guard = .free from hfree]
    rfl
  exact if_pos hwrite

theorem run_setGlobalStore_of_held (hheld : w.guardOf (.link c.link) ≠ .free)
    (store : Option StoreRef) : (c.setGlobalStore store).run w = ⟨.error .linkHeld, w, []⟩ :=
  if_neg (ne_true_of_eq_false (Guard.canWrite_eq_false_iff.2 hheld))

/-- **Exchanging the store of a context.**  It changes what the scopes of the context show, now and
until the next exchange, and nothing else; with the link held it does nothing.  A store that is out
of reach stays as it is, and comes back with the entries that it had. -/
theorem setGlobalStore_law (hexist : c.link.index < w.linkCount) (store : Option StoreRef) :
    (c.setBindings .own store).run w = ⟨.error .engineScopeLocked, w, []⟩ ∧
    (w.guardOf (.link c.link) ≠ .free →
      (c.setGlobalStore store).run w = ⟨.error .linkHeld, w, []⟩) ∧
    (w.guardOf (.link c.link) = .free → ∃ w',
      (c.setGlobalStore store).run w = ⟨.ok (), w', []⟩ ∧ w.Relinked w' c.link store ∧
      -- back at once
      (c.setGlobalStore (w.linked c.link)).run w' = ⟨.ok (), w, []⟩ ∧
      -- until the next exchange
      (∀ moves, (∀ m ∈ moves, ¬ m.Relinks c.link) →
        let now := w'.afterMoves moves
        ∀ s, (now.scope s).link = c.link → now.ShowsOver s (now.contents store)) ∧
      -- back after a while
      ∀ old moves, World.Throughout (World.Move.Avoids old) w' moves →
        let now := w'.afterMoves moves
        now.entries old = w.entries old ∧
        ((∀ m ∈ moves, m.scope?.isSome) → now.guardOf (.link c.link) = .free) ∧
        (now.guardOf (.link c.link) = .free → ∃ w'',
          (c.setGlobalStore (some old)).run now = ⟨.ok (), w'', []⟩ ∧
          now.Relinked w'' c.link (some old) ∧
          ∀ s, (now.scope s).link = c.link → w''.ShowsOver s (w.entries old))) := by
  refine ⟨rfl, fun hheld => run_setGlobalStore_of_held c hheld store, fun hfree => ?_⟩
  have hfree' : (w.setLink c.link store).guardOf (.link c.link) = .free :=
    (World.guardOf_setLink _).trans hfree
  refine ⟨_, run_setGlobalStore_of_free c hfree store, World.relinked_setLink, ?back, ?_, ?_⟩
  case back => rw [run_setGlobalStore_of_free c hfree', World.setLink_linked]
  · intro moves hmoves now s hs
    have hexist' : c.link.index < (w.setLink c.link store).linkCount := hexist
    refine World.showsOver_contents ?_
    rw [World.storeOf, hs, World.linked_afterMoves hexist' hmoves, World.linked_setLink_self]
  · intro old moves hmoves now
    have hentries : now.entries old = w.entries old := World.entries_afterMoves hmoves
    refine ⟨hentries, fun hall => ?_, fun hfree'' => ?_⟩
    · exact ((World.sameCells_afterMoves hall).guards _).trans hfree'
    · have hback : now.Relinked (now.setLink c.link (some old)) c.link (some old) :=
        World.relinked_setLink
      refine ⟨_, run_setGlobalStore_of_free c hfree'' _, hback, fun s hs => ?_⟩
      rw [← hentries]
      exact hback.here s hs

/-- Two contexts over one store.  One of them is detached from the store, writes a variable that the
store has, and gets a new scope; then it is linked to the store again. -/
theorem setGlobalStore_law_detached :
    let v : Nat → Value := fun n => ⟨⟨n⟩, .unit⟩
    let c : Context String String :=
      { settings := {}, link := ⟨0⟩, scope := ⟨0⟩, stdout := .new "" .utf8, stderr := .new "" .utf8 }
    let w : World := { World.empty with
      scopeCount := 2
      linkCount := 2
      scopes := fun s =>
        { content := ⟨"main", if s = ⟨0⟩ then .ofList [("x", v 0)] else .empty, ⟨s.index⟩, 0⟩ }
      links := fun _ => { content := some ⟨0⟩ }
      stores := fun _ => { content := .ofList [("x", v 1), ("y", v 2), ("z", v 3)] } }
    let moves : List World.Move :=
      [.step (.operate ⟨0⟩ (.request (.put (.name "y") (v 4)))), .step (.newScope c)]
    let detached := ((c.setGlobalStore none).run w).state
    let back := ((c.setGlobalStore (some ⟨0⟩)).run (detached.afterMoves moves)).state
    w.guardOf (.link c.link) = .free ∧ c.link.index < w.linkCount ∧
      detached.shown ⟨0⟩ = [("x", v 0)] ∧ detached.shown ⟨1⟩ = w.shown ⟨1⟩ ∧
      back.shown ⟨0⟩ = [("x", v 0), ("y", v 4), ("z", v 3)] ∧
      back.shown ⟨2⟩ = [("x", v 1), ("y", v 2), ("z", v 3)] := by
  intro v c w moves detached back
  have hfree : w.guardOf (.link c.link) = .free := rfl
  have hexist : c.link.index < w.linkCount := by decide
  obtain ⟨-, -, hswap⟩ := setGlobalStore_law c hexist none
  obtain ⟨w', hrun, hrelinked, -, -, hold⟩ := hswap hfree
  have hdetached : detached = w' := congrArg Outcome.state hrun
  rw [← hdetached] at hrelinked hold
  have haway : detached.storeOf ⟨0⟩ ≠ some ⟨0⟩ := by decide
  obtain ⟨-, -, hagain⟩ := hold ⟨0⟩ moves ⟨haway, trivial, trivial⟩
  obtain ⟨w'', hrun', -, hshows⟩ := hagain rfl
  have hback : back = w'' := congrArg Outcome.state hrun'
  rw [← hback] at hshows
  exact ⟨hfree, hexist, (hrelinked.here ⟨0⟩ rfl).shown, hrelinked.elsewhere ⟨1⟩ (by decide),
    (hshows ⟨0⟩ rfl).shown, (hshows ⟨2⟩ rfl).shown⟩

end Context

end ScriptHost
