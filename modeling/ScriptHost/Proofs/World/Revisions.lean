import ScriptHost.Proofs.Bindings.Revision
import ScriptHost.Proofs.World.Moves

/-!
# What the revision of a scope counts

Whoever remembers where a name was found relies on the revision of the scope: a name that is gone
without a new revision is a name that is still found where it is no more.  After any run the revision
is the number of names that removing and clearing through this very scope have deleted.

* `World.deletions` — this number.
* `World.bumped_afterMoves` — the revision goes up by it, and the events say each revision in order.
* `World.Settles` — what that means for a store that is changed through one scope alone.
* `World.revision_law` — all of this from the creation of a scope on.
-/

set_option autoImplicit false

namespace ScriptHost

namespace World

variable {w w' : World} {s : ScopeRef} {g : StoreRef} {m : Move}

/-! ## What is gone from a store -/

/-- The names that the store below scope `s` had in world `w` and has no more in world `w'`. -/
def lostGlobals (s : ScopeRef) (w w' : World) : List String :=
  (w.globals s).keys.filter fun name => name ∉ (w'.globals s).keys

theorem length_lostGlobals (h : (w'.globals s).keys.Sublist (w.globals s).keys) :
    (lostGlobals s w w').length + (w'.globals s).size = (w.globals s).size := by
  have hkept : ((w.globals s).keys.filter fun name => name ∈ (w'.globals s).keys).Perm
      (w'.globals s).keys := by
    refine (List.perm_ext_iff_of_nodup ((w.globals s).nodup_keys.filter _)
      (w'.globals s).nodup_keys).2 fun name => ?_
    rw [List.mem_filter, decide_eq_true_eq]
    exact ⟨And.right, fun hmem => ⟨h.subset hmem, hmem⟩⟩
  have hsplit := List.length_eq_length_filter_add (l := (w.globals s).keys)
    fun name => decide (name ∈ (w'.globals s).keys)
  rw [hkept.length_eq, Table.length_keys, Table.length_keys, Nat.add_comm] at hsplit
  rw [hsplit, lostGlobals]
  simp only [decide_not]

/-! ## Moves -/

/-- The move removes a variable, or all of them, through scope `s`. -/
def Move.removes (s : ScopeRef) : Move → Bool
  | .step (.operate t (.request (.remove _))) => t = s
  | .step (.operate t .clear) => t = s
  | .access t (.unset _) => t = s
  | _ => false

/-- How many names a move has deleted from the store below scope `s` by removing through `s`. -/
def deletedBy (s : ScopeRef) (w : World) (m : Move) : Nat :=
  if m.removes s then (lostGlobals s w (w.afterMove m)).length else 0

/-- What is left of the globals when the store below a scope has become smaller. -/
theorem sublist_globals {w' : World} (hthrough : Through s w w') (hshrinks : Shrinks w w') :
    (w'.globals s).keys.Sublist (w.globals s).keys := by
  rw [globals, globals, hthrough.storeOf]
  cases w.storeOf s with
  | none => exact List.Sublist.refl _
  | some g => exact hshrinks g

theorem scope?_of_removes (hm : m.removes s = true) : m.scope? = some s := by
  unfold Move.removes at hm
  split at hm
  · exact congrArg some (of_decide_eq_true hm)
  · exact congrArg some (of_decide_eq_true hm)
  · exact congrArg some (of_decide_eq_true hm)
  · exact absurd hm Bool.false_ne_true

/-- A removal only makes the store smaller, and bumps the revision as often as it does. -/
theorem balanced_of_removes (w : World) (hm : m.removes s = true) :
    Balanced s w (w.afterMove m) ∧ Shrinks w (w.afterMove m) := by
  have hs := scope?_of_removes hm
  cases m with
  | step step =>
    cases step with
    | operate t op =>
      cases hs
      exact ⟨balanced_operate ⟨s⟩ op w, Bindings.shrinks_operate ⟨s⟩ op w⟩
    | _ => cases hs
  | access t x =>
    cases hs
    have hends := ScopeRef.outcomes_carryOut w s x
    rw [afterMove, Move.carryOut]
    generalize (s.carryOut x).run w = o at hends ⊢
    cases hends with
    | unchanged => exact ⟨refl w, refl w⟩
    | unset name =>
      exact ⟨(acrossWrites_balanced s).unassign w name, (acrossWrites_shrinks s).unassign w name⟩
    | _ => exact absurd hm Bool.false_ne_true

/-- Of all moves through a scope just removals bump its revision, and only if they succeed. -/
theorem exists_bumps_carryOut (w : World) (hm : m.scope? = some s) :
    ∃ n, (m.carryOut.run w).Bumps s w n ∧
      (n ≠ 0 → m.removes s = true ∧ (m.carryOut.run w).answer = true) := by
  cases m with
  | step step =>
    cases step with
    | operate t op =>
      cases hm
      cases op with
      | request r =>
        by_cases hr : ∃ key, r = .remove key
        · obtain ⟨key, rfl⟩ := hr
          obtain ⟨n, hbumps, hok⟩ := Bindings.exists_bumps_remove ⟨s⟩ w key
          exact ⟨n, hbumps, fun h => ⟨decide_eq_true rfl, hok h⟩⟩
        · have hbumps := Bindings.bumps_perform ⟨s⟩ w fun key heq => hr ⟨key, heq⟩
          exact hbumps.exists_of_zero
      | putAll entries =>
        exact (Bindings.bumps_putAll ⟨s⟩ w entries).exists_of_zero
      | clear =>
        obtain ⟨n, hbumps, hok⟩ := Bindings.exists_bumps_clear ⟨s⟩ w
        exact ⟨n, hbumps, fun h => ⟨decide_eq_true rfl, hok h⟩⟩
      | define name value =>
        exact (Bindings.bumps_define ⟨s⟩ w name value).exists_of_zero
    | _ => cases hm
  | access t x =>
    cases hm
    have hends := ScopeRef.outcomes_carryOut w s x
    rw [Move.carryOut]
    generalize (s.carryOut x).run w = o at hends ⊢
    cases hends with
    | unchanged => exact Bumped.unchanged.exists_of_zero
    | set name value =>
      have hassigned : w.Assigned (w.assign s name value) s name value := assigned_assign
      exact Bumped.exists_of_zero (.zero (hassigned.scopes s) rfl)
    | unset name =>
      obtain ⟨n, hbumps⟩ := w.exists_bumped_unassign s name
      exact ⟨n, hbumps, fun _ => ⟨decide_eq_true rfl, rfl⟩⟩
    | unsetLocal name => exact Bumped.exists_of_zero (.zero (by rw [scope_undefine]) rfl)
    | storeOwn slot value => exact Bumped.exists_of_zero (.zero (by rw [scope_define]) rfl)
    | storeGlobal slot value g => exact Bumped.exists_of_zero (.zero rfl rfl)

/-- **What a move through a scope does to the revision.** -/
theorem bumps_carryOut (w : World) (hm : m.scope? = some s) :
    (m.carryOut.run w).Bumps s w (deletedBy s w m) ∧
      (deletedBy s w m ≠ 0 → (m.carryOut.run w).answer = true) := by
  obtain ⟨n, hbumps, hn⟩ := exists_bumps_carryOut w hm
  suffices h : n = deletedBy s w m by
    rw [← h]
    exact ⟨hbumps, fun hne => (hn hne).2⟩
  rw [deletedBy]
  split
  · next hremoves =>
    obtain ⟨hbalanced, hshrinks⟩ := balanced_of_removes w hremoves
    have hlost := length_lostGlobals (sublist_globals (through_afterMove w hm) hshrinks)
    have hrevision : ((w.afterMove m).scope s).revision = _ := hbumps.revision
    rw [Balanced, hrevision] at hbalanced
    omega
  · next hremoves =>
    by_contra hne
    exact hremoves (hn hne).1

/-! ## Runs -/

/-- How many names the removals through scope `s` have deleted in a run from the stores that were
below the scope at the time. -/
def deletions (s : ScopeRef) : World → List Move → Nat
  | _, [] => 0
  | w, m :: rest => deletedBy s w m + deletions s (w.afterMove m) rest

/-- What the moves through scope `s` have logged in a run. -/
def logThrough (s : ScopeRef) : World → List Move → List Event
  | _, [] => []
  | w, m :: rest =>
    (if m.scope? = some s then (m.carryOut.run w).events else []) ++
      logThrough s (w.afterMove m) rest

/-- A move that goes not through the scope deletes nothing through it. -/
theorem deletedBy_of_ne (w : World) (hm : m.scope? ≠ some s) : deletedBy s w m = 0 :=
  if_neg fun hremoves => hm (scope?_of_removes hremoves)

/-- **The revision counts deletions.** -/
theorem bumped_afterMoves (hexist : s.index < w.scopeCount) (moves : List Move) :
    Bumped s (w.deletions s moves) w (w.afterMoves moves) (w.logThrough s moves) := by
  induction moves generalizing w with
  | nil => exact .unchanged
  | cons m rest ih =>
    refine Bumped.append ?_ (ih (Nat.lt_of_lt_of_le hexist (w.scopeCount_le_afterMove m)))
    by_cases hm : m.scope? = some s
    · rw [if_pos hm]
      exact (bumps_carryOut w hm).1
    · rw [if_neg hm, deletedBy_of_ne w hm]
      have hscope := scope_afterMove hexist hm
      exact .zero (by rw [hscope]) rfl

theorem scopeCount_le_afterMoves (w : World) (moves : List Move) :
    w.scopeCount ≤ (w.afterMoves moves).scopeCount := by
  induction moves generalizing w with
  | nil => exact Nat.le_refl _
  | cons m rest ih => exact Nat.le_trans (w.scopeCount_le_afterMove m) (ih (w.afterMove m))

/-! ### A store that is changed through one scope -/

/-- Scope `s` is linked to store `g`, and a move that changes the store goes through the bindings of
the scope. -/
def Move.ChangesThrough (s : ScopeRef) (g : StoreRef) (w : World) (m : Move) : Prop :=
  w.storeOf s = some g ∧
    ((∃ op, m = .step (.operate s op)) ∨ (w.afterMove m).entries g = w.entries g)

/-- The store has lost some names, and the revision of the scope has gone up by their number. -/
structure Settles (s : ScopeRef) (g : StoreRef) (w w' : World) : Prop where
  keys : (w'.entries g).keys.Sublist (w.entries g).keys
  revision : (w'.scope s).revision + (w'.entries g).size =
    (w.scope s).revision + (w.entries g).size

theorem Settles.refl (s : ScopeRef) (g : StoreRef) (w : World) : Settles s g w w :=
  ⟨List.Sublist.refl _, rfl⟩

theorem Settles.trans {w' w'' : World} (h : Settles s g w w') (h' : Settles s g w' w'') :
    Settles s g w w'' :=
  ⟨h'.keys.trans h.keys, h'.revision.trans h.revision⟩

/-- The revision is the same exactly if no name is gone. -/
theorem Settles.revision_eq_iff {w' : World} (h : Settles s g w w') :
    (w'.scope s).revision = (w.scope s).revision ↔ (w'.entries g).keys = (w.entries g).keys := by
  have hrevision := h.revision
  rw [← Table.length_keys, ← Table.length_keys] at hrevision
  constructor
  · intro hsame
    exact h.keys.eq_of_length (by omega)
  · intro hsame
    rw [hsame] at hrevision
    exact Nat.add_right_cancel hrevision

/-- As long as the globals are the same, no removal has deleted any. -/
theorem deletedBy_of_globals (h : (w.afterMove m).globals s = w.globals s) :
    deletedBy s w m = 0 := by
  have hlost : (lostGlobals s w (w.afterMove m)).length + _ = _ := length_lostGlobals (by rw [h])
  rw [h] at hlost
  rw [deletedBy]
  split
  · omega
  · rfl

theorem revision_afterMove (hexist : s.index < w.scopeCount) (m : Move) :
    ((w.afterMove m).scope s).revision = (w.scope s).revision + deletedBy s w m :=
  (bumped_afterMoves hexist [m]).revision

theorem settles_afterMove (hexist : s.index < w.scopeCount) (hm : m.ChangesThrough s g w) :
    Settles s g w (w.afterMove m) := by
  obtain ⟨hstore, ⟨op, rfl⟩ | hsame⟩ := hm
  · have hkeeps := balanced_operate ⟨s⟩ op w
    have hstore' := (Bindings.through_operate ⟨s⟩ op w).storeOf s
    rw [Balanced, globals, globals, hstore', hstore] at hkeeps
    exact ⟨Bindings.shrinks_operate ⟨s⟩ op w g, hkeeps⟩
  · have hnone : deletedBy s w m = 0 := by
      by_cases hs : m.scope? = some s
      · refine deletedBy_of_globals ?_
        rw [globals, globals, (through_afterMove w hs).storeOf, hstore]
        exact hsame
      · exact deletedBy_of_ne w hs
    refine ⟨by rw [hsame], ?_⟩
    rw [hsame, revision_afterMove hexist, hnone, Nat.add_zero]

theorem settles_afterMoves (hexist : s.index < w.scopeCount) {moves : List Move}
    (hmoves : Throughout (Move.ChangesThrough s g) w moves) : Settles s g w (w.afterMoves moves) := by
  induction moves generalizing w with
  | nil => exact .refl s g w
  | cons m rest ih =>
    have hexist' := Nat.lt_of_lt_of_le hexist (w.scopeCount_le_afterMove m)
    exact (settles_afterMove hexist hmoves.1).trans (ih hexist' hmoves.2)

/-! ### From the creation of a scope -/

/-- **What the revision counts.**  After any run, the revision of a scope is the number of names that
removing and clearing through this scope have deleted from a store, and the events say each revision
in order.  No move changes the revision but a removal through the scope that succeeds and deletes
something.  So as long as a store stays below the scope and is changed through it alone, the scope
has its old revision exactly if the store has its old names. -/
theorem revision_law {w w₀ : World} {name : String} {link : LinkRef} {s : ScopeRef}
    (hnew : (newScope name link : Action Empty World ScopeRef).run w = ⟨.ok s, w₀, []⟩)
    (moves : List Move) :
    let now := w₀.afterMoves moves
    (now.scope s).revision = w₀.deletions s moves ∧
    (w₀.logThrough s moves).filter Event.isNamespaceChanged =
      (List.range' 1 (now.scope s).revision).map (.namespaceChanged name) ∧
    (∀ before m rest, moves = before ++ m :: rest →
      let mid := w₀.afterMoves before
      ((mid.afterMove m).scope s).revision ≠ (mid.scope s).revision →
        m.removes s = true ∧ (m.carryOut.run mid).answer = true ∧
          lostGlobals s mid (mid.afterMove m) ≠ []) ∧
    ∀ before period g, moves = before ++ period →
      let mid := w₀.afterMoves before
      Throughout (Move.ChangesThrough s g) mid period →
      ((now.scope s).revision = (mid.scope s).revision ↔
        (now.entries g).keys = (mid.entries g).keys) := by
  intro now
  have hs : s = ⟨w.scopeCount⟩ := (Except.ok.inj (congrArg Outcome.result hnew)).symm
  have hw₀ : w₀ = _ := (congrArg Outcome.state hnew).symm
  have hexist : s.index < w₀.scopeCount := by
    rw [hs, hw₀]
    exact Nat.lt_succ_self w.scopeCount
  have hscope : w₀.scope s = ⟨name, .empty, link, 0⟩ := by
    rw [hs, hw₀]
    exact congrArg Cell.content (replaceAt_self w.scopes _ _)
  have hbumped := bumped_afterMoves hexist moves
  have hrevision := hbumped.revision
  rw [hscope, Nat.zero_add] at hrevision
  refine ⟨hrevision, ?events, ?changes, ?period⟩
  case events => rw [hbumped.events, hrevision, hscope]
  case changes =>
    intro before m rest _ mid hne
    have hexist' := Nat.lt_of_lt_of_le hexist (w₀.scopeCount_le_afterMoves before)
    rw [revision_afterMove hexist' m] at hne
    have hdeleted : deletedBy s mid m ≠ 0 := fun hzero => hne (by rw [hzero, Nat.add_zero])
    have hremoves : m.removes s = true := by
      by_contra hno
      exact hdeleted (if_neg hno)
    refine ⟨hremoves, (bumps_carryOut mid (scope?_of_removes hremoves)).2 hdeleted, fun hnil => ?_⟩
    rw [deletedBy, if_pos hremoves, hnil] at hdeleted
    exact hdeleted rfl
  case period =>
    rintro before period g rfl mid hperiod
    have hexist' := Nat.lt_of_lt_of_le hexist (w₀.scopeCount_le_afterMoves before)
    have hsettles := settles_afterMoves hexist' hperiod
    rw [← afterMoves_append] at hsettles
    exact hsettles.revision_eq_iff

/-- A scope over a store that it shares with another scope.  A local removal, a removal that fails
and one through the other scope do not count, and two removals from the store do. -/
theorem revision_law_shared_store :
    let v : Value := ⟨⟨0⟩, .unit⟩
    let g : StoreRef := ⟨0⟩
    let s : ScopeRef := ⟨1⟩
    let w : World := { World.empty with
      scopeCount := 1
      links := fun _ => { content := some g }
      stores := fun _ => { content := .ofList [("x", v), ("y", v), ("z", v)] } }
    let w₀ := ((newScope "main" ⟨0⟩ : Action Empty World ScopeRef).run w).state
    let moves : List Move := [
      .step (.operate s (.define "x" v)), .access s (.unset "x"),
      .step (.hold (.store g) .read), .access s (.unset "y"), .step (.letGo (.store g)),
      .step (.operate ⟨0⟩ (.request (.remove (.name "z")))), .access s (.unset "y"),
      .step (.operate s (.request (.remove (.name "x"))))]
    (newScope "main" ⟨0⟩ : Action Empty World ScopeRef).run w = ⟨.ok s, w₀, []⟩ ∧
      ((w₀.afterMoves moves).scope s).revision = 2 ∧
      (w₀.logThrough s moves).filter Event.isNamespaceChanged =
        [.namespaceChanged "main" 1, .namespaceChanged "main" 2] := by
  intro v g s w w₀ moves
  have hnew : (newScope "main" ⟨0⟩ : Action Empty World ScopeRef).run w = ⟨.ok s, w₀, []⟩ := rfl
  obtain ⟨hrevision, hevents, -⟩ := revision_law hnew moves
  have hdeletions : w₀.deletions s moves = 2 := by decide +kernel
  rw [hdeletions] at hrevision
  rw [hrevision] at hevents
  exact ⟨hnew, hrevision, hevents⟩

end World

end ScriptHost
