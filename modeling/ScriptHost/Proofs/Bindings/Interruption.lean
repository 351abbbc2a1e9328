import ScriptHost.Proofs.Bindings.Clear

/-!
# Clearing that is interrupted

Clearing needs more than it looks at first.  The listing reads the scope and the store, and the
removals change them; and the first removal that has to change the store may come after a local is
gone.  `Bindings.Clearing` has the ways in which clearing can end as its cases, each with what was
in the way.

* `World.Interrupted` — the guards under which clearing stops half-way: it takes one local, the first
  one, and then finds the store held by a reader.  It does not matter whether the store has a
  variable of this name, because the store is claimed before it is searched.
* `Bindings.clear_ok_iff` — when clearing succeeds, and what an attempt that fails leaves behind.
-/

set_option autoImplicit false

namespace ScriptHost

open Outcome

/-! ## The guards -/

namespace World

variable {w : World} {s : ScopeRef}

/-- What can be listed has a link that can be followed, so it is the store that matters. -/
theorem isSome_globalsWriteFault_of_listFault (hlist : w.listFault s = none) :
    (w.globalsWriteFault s).isSome ↔ ∃ g ∈ w.storeOf s, (w.stores g).guard ≠ .free := by
  have hlink : (w.links (w.scope s).link).guard ≠ .exclusive := fun hheld =>
    (listFault_eq_none_iff.1 hlist).2 (.inl hheld)
  rw [isSome_globalsWriteFault, or_iff_right hlink]

/-- Clearing scope `s` can begin, but not go on: a local can be removed, and the store is being
read. -/
structure Interrupted (w : World) (s : ScopeRef) : Prop where
  scope : (w.scopes s).guard = .free
  locals : (w.scope s).locals.entries ≠ []
  link : (w.links (w.scope s).link).guard ≠ .exclusive
  store : ∃ g ∈ w.storeOf s, ∃ readers, (w.stores g).guard = .shared (readers + 1)

/-- The listing and the first step of a removal succeed, and the second step does not. -/
theorem interrupted_iff : w.Interrupted s ↔
    w.listFault s = none ∧ w.scopeWriteFault s = none ∧ (w.globalsWriteFault s).isSome ∧
      (w.scope s).locals.entries ≠ [] := by
  rw [scopeWriteFault_eq_none_iff]
  constructor
  · rintro ⟨hscope, hlocals, hlink, g, hstore, hreaders⟩
    obtain ⟨hheld, hshared⟩ := Guard.exists_readers_iff.1 hreaders
    have hlist : w.listFault s = none := by
      refine listFault_eq_none_iff.2 ⟨by rw [hscope]; exact nofun, ?_⟩
      rintro (hlink' | ⟨g', hstore', hexclusive⟩)
      · exact hlink hlink'
      · exact hshared (Option.mem_unique hstore' hstore ▸ hexclusive)
    exact ⟨hlist, hscope, (isSome_globalsWriteFault_of_listFault hlist).2 ⟨g, hstore, hheld⟩,
      hlocals⟩
  · rintro ⟨hlist, hscope, hglobals, hlocals⟩
    obtain ⟨g, hstore, hheld⟩ := (isSome_globalsWriteFault_of_listFault hlist).1 hglobals
    obtain ⟨-, hshut⟩ := listFault_eq_none_iff.1 hlist
    exact ⟨hscope, hlocals, fun hlink => hshut (.inl hlink), g, hstore,
      Guard.exists_readers_iff.2 ⟨hheld, fun hexclusive => hshut (.inr ⟨g, hstore, hexclusive⟩)⟩⟩

/-- A name that is shown first is the first of the locals, or there are no locals. -/
theorem head_shown {first : String × Value} {rest : List (String × Value)}
    (h : w.shown s = first :: rest) :
    (∃ rest', (w.scope s).locals.entries = first :: rest') ∨ (w.scope s).locals.entries = [] := by
  rw [shown] at h
  cases hlocals : (w.scope s).locals.entries with
  | nil => exact .inr rfl
  | cons entry rest' =>
    rw [hlocals, List.cons_append, List.cons.injEq] at h
    exact .inl ⟨rest', by rw [h.1]⟩

end World

/-! ## The ways in which clearing can end -/

namespace Bindings

/-- What comes of clearing scope `s`, and what was in the way of it. -/
inductive Clearing (w : World) (s : ScopeRef) : Outcome BindingError World Unit → Prop
  /-- The names cannot be listed. -/
  | unlisted (e : AccessError) (hlist : w.listFault s = some e) :
      Clearing w s ((illegalState .list "*" e.toFailure).run w)
  /-- There is nothing to remove. -/
  | nothing (hlist : w.listFault s = none) (hshown : w.shown s = []) : Clearing w s ⟨.ok (), w, []⟩
  /-- The scope cannot be changed. -/
  | refused (first : String × Value) (rest : List (String × Value)) (e : AccessError)
      (hlist : w.listFault s = none) (hshown : w.shown s = first :: rest)
      (hscope : w.scopeWriteFault s = some e) :
      Clearing w s ((illegalState .remove first.1 e.toFailure).run w)
  /-- The scope can be changed, but not the store. -/
  | interrupted (first : String × Value) (rest : List (String × Value)) (e : AccessError)
      (hlist : w.listFault s = none) (hshown : w.shown s = first :: rest)
      (hscope : w.scopeWriteFault s = none) (hglobals : w.globalsWriteFault s = some e) :
      Clearing w s ((illegalState .remove first.1 e.toFailure).run (w.undefine s first.1))
  /-- Nothing is in the way. -/
  | done (w' : World) (events : List Event) (hlist : w.listFault s = none)
      (hscope : w.scopeWriteFault s = none) (hglobals : w.globalsWriteFault s = none)
      (hpurged : World.Purged s ((w.shown s).map Prod.fst) w w' events) :
      Clearing w s ⟨.ok (), w', events⟩

variable (b : Bindings) (w : World)

theorem clearing : Clearing w b.scope (b.clear.run w) := by
  cases hlist : w.listFault b.scope with
  | some e =>
    rw [run_clear, hlist]
    exact .unlisted e hlist
  | none =>
    cases hshown : w.shown b.scope with
    | nil =>
      rw [run_clear_of_shown_eq_nil b hlist hshown]
      exact .nothing hlist hshown
    | cons first rest =>
      have hrun : b.clear.run w = _ := b.run_clear w
      rw [hlist, hshown, List.map_cons, run_removeAll_cons] at hrun
      cases hscope : w.scopeWriteFault b.scope with
      | some e =>
        rw [hscope] at hrun
        rw [hrun]
        exact .refused first rest e hlist hshown hscope
      | none =>
        cases hglobals : w.globalsWriteFault b.scope with
        | some e =>
          rw [hscope, hglobals] at hrun
          rw [hrun]
          exact .interrupted first rest e hlist hshown hscope hglobals
        | none =>
          obtain ⟨w', events, hclear, hpurged⟩ := b.purged_clear hlist hscope hglobals
          rw [hclear]
          exact .done w' events hlist hscope hglobals hpurged

/-- Clearing succeeds if everything can be listed, and changed unless there is nothing to change. -/
theorem result_clear_eq_ok_iff : (b.clear.run w).result = .ok () ↔
    w.listFault b.scope = none ∧ (w.shown b.scope = [] ∨
      w.scopeWriteFault b.scope = none ∧ w.globalsWriteFault b.scope = none) := by
  have hclearing := b.clearing w
  generalize b.clear.run w = o at hclearing
  cases hclearing with
  | unlisted e hlist => exact iff_of_false nofun (by simp [hlist])
  | nothing hlist hshown => exact iff_of_true rfl ⟨hlist, .inl hshown⟩
  | refused first rest e hlist hshown hscope => exact iff_of_false nofun (by simp [hshown, hscope])
  | interrupted first rest e hlist hshown hscope hglobals =>
    exact iff_of_false nofun (by simp [hshown, hglobals])
  | done w' events hlist hscope hglobals _ =>
    exact iff_of_true rfl ⟨hlist, .inr ⟨hscope, hglobals⟩⟩

end Bindings

namespace World

variable {w : World} {s : ScopeRef}

/-- The world `w'` is what is left of `w` after clearing scope `s` has failed. -/
structure Remains (w w' : World) (s : ScopeRef) : Prop where
  untouched : ¬ w.Interrupted s → w' = w
  /-- The first local is gone, and nothing else. -/
  halfway : w.Interrupted s → ∃ first rest, (w.scope s).locals.entries = first :: rest ∧
    (w'.scope s).locals.entries = rest ∧
    w' = w.setScope s { w.scope s with locals := (w'.scope s).locals }

theorem Remains.of_not_interrupted (h : ¬ w.Interrupted s) : w.Remains w s :=
  ⟨fun _ => rfl, fun hinterrupted => absurd hinterrupted h⟩

/-- What is left if the first name that is shown could not be removed altogether. -/
theorem remains_undefine {first : String × Value} {rest : List (String × Value)}
    (hlist : w.listFault s = none) (hshown : w.shown s = first :: rest)
    (hscope : w.scopeWriteFault s = none) (hglobals : (w.globalsWriteFault s).isSome) :
    w.Remains (w.undefine s first.1) s := by
  obtain ⟨rest', hlocals⟩ | hlocals := head_shown hshown
  · have hinterrupted : w.Interrupted s :=
      interrupted_iff.2 ⟨hlist, hscope, hglobals, by rw [hlocals]; exact List.cons_ne_nil _ _⟩
    refine ⟨fun h => absurd hinterrupted h, fun _ => ⟨first, rest', hlocals, ?_, ?_⟩⟩
    · rw [scope_undefine]
      exact Table.entries_erase_head hlocals
    · rw [scope_undefine]
      rfl
  · have hlocal : w.isLocal s first.1 = false := by
      rw [isLocal, Table.contains, Table.find?, hlocals]
      rfl
    rw [undefine_of_not_isLocal hlocal]
    exact .of_not_interrupted fun h => h.locals hlocals

end World

namespace Bindings

variable (b : Bindings) (w : World)

/-- **Clearing under guards.**  Clearing succeeds exactly if the names can be listed, and the scope
and the store below it can be changed unless there are no names.  Otherwise it fails and the world is
as before, but for a world in which it is interrupted; there the first local is gone.  The error is
that of the listing, or else it is about the first name. -/
theorem clear_ok_iff :
    ((b.clear.run w).result = .ok () ↔
      ((w.scopes b.scope).guard ≠ .exclusive ∧ ¬ w.GlobalsShut b.scope) ∧
        (w.shown b.scope = [] ∨ (w.scopes b.scope).guard = .free ∧
          ∀ g ∈ w.storeOf b.scope, (w.stores g).guard = .free)) ∧
    ∀ e, (b.clear.run w).result = .error e →
      w.Remains (b.clear.run w).state b.scope ∧
      ((b.keys.run w).result = .error e ∧ (∃ source, e = .illegalState .list "*" source) ∨
        ∃ first rest source, (b.keys.run w).result = .ok (first :: rest) ∧
          e = .illegalState .remove first source) := by
  constructor
  · rw [result_clear_eq_ok_iff, ← World.listFault_eq_none_iff, World.scopeWriteFault_eq_none_iff]
    refine and_congr_right fun hlist => or_congr_right (and_congr_right fun _ => ?_)
    rw [← Option.not_isSome_iff_eq_none, World.isSome_globalsWriteFault_of_listFault hlist]
    simp only [not_exists, not_and, not_not]
  · intro e he
    have hclearing := b.clearing w
    have hkeys := b.run_keys w
    generalize b.clear.run w = o at hclearing he ⊢
    cases hclearing with
    | unlisted e' hlist =>
      cases he
      refine ⟨.of_not_interrupted fun h => ?_, .inl ⟨?_, _, rfl⟩⟩
      · exact absurd (World.interrupted_iff.1 h).1 (by simp [hlist])
      · rw [hkeys, hlist]
        rfl
    | nothing => exact nomatch he
    | refused first rest e' hlist hshown hscope =>
      cases he
      refine ⟨.of_not_interrupted fun h => ?_, .inr ⟨first.1, rest.map Prod.fst, _, ?_, rfl⟩⟩
      · exact absurd (World.interrupted_iff.1 h).2.1 (by simp [hscope])
      · rw [hkeys, hlist, hshown]
        rfl
    | interrupted first rest e' hlist hshown hscope hglobals =>
      cases he
      refine ⟨World.remains_undefine hlist hshown hscope (hglobals ▸ rfl),
        .inr ⟨first.1, rest.map Prod.fst, _, ?_, rfl⟩⟩
      rw [hkeys, hlist, hshown]
      rfl
    | done => exact nomatch he

/-- A scope with two locals over a store that is being read, and that has neither of the names.
Clearing the scope fails, and one of the locals is gone. -/
theorem clear_ok_iff_store_read :
    let value : Value := ⟨⟨0⟩, .unit⟩
    let w : World := { World.empty with
      scopes := fun _ => { content := ⟨"main", .ofList [("x", value), ("y", value)], ⟨0⟩, 0⟩ }
      links := fun _ => { content := some ⟨0⟩ }
      stores := fun _ => { content := .empty, guard := .shared 1 } }
    let done := Bindings.clear ⟨⟨0⟩⟩ |>.run w
    w.Interrupted ⟨0⟩ ∧ (∃ source, done.result = .error (.illegalState .remove "x" source)) ∧
      (done.state.scope ⟨0⟩).locals.entries = [("y", value)] ∧
      done.state.scope ⟨1⟩ = w.scope ⟨1⟩ := by
  intro value w done
  have hinterrupted : w.Interrupted ⟨0⟩ :=
    ⟨rfl, List.cons_ne_nil _ _, nofun, ⟨0⟩, rfl, 0, rfl⟩
  obtain ⟨hiff, hfailed⟩ := clear_ok_iff ⟨⟨0⟩⟩ w
  have hkeys : (Bindings.keys ⟨⟨0⟩⟩ |>.run w).result = .ok ["x", "y"] := rfl
  cases hresult : done.result with
  | ok _ =>
    obtain ⟨-, hempty | ⟨-, hfree⟩⟩ := hiff.1 hresult
    · exact absurd hempty (List.cons_ne_nil _ _)
    · exact absurd (hfree ⟨0⟩ rfl) (by decide)
  | error e =>
    obtain ⟨hremains, ⟨hlist, -⟩ | ⟨first, rest, source, hlist, he⟩⟩ := hfailed e hresult
    · exact absurd (hkeys.symm.trans hlist) nofun
    · cases hkeys.symm.trans hlist
      obtain ⟨entry, rest', hlocals, hrest, hworld⟩ := hremains.halfway hinterrupted
      cases hlocals
      refine ⟨hinterrupted, ⟨source, congrArg _ he⟩, hrest, ?_⟩
      rw [show done.state = _ from hworld]
      rfl

end Bindings

end ScriptHost
