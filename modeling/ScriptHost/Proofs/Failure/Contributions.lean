import ScriptHost.Proofs.Failure.Trail

/-!
# What of a failure the host sees

Most of a long chain of failures never shows.  What the host sees of a wrapped failure, its
category, its text and its traceback, comes from few places: the innermost record, the calls of the
wrappers that have a place, and, if the innermost record is none of the script, the place of the
wrapper next to it.

* `Failure.Peels` — the failure is a record inside wrappers.  What caused the record is left open.
* `Failure.Peels.traceback_eq` — the traceback of such a failure, from just those places.
* `ScriptError.ofFailure_congr` — two failures that agree in those places look the same to the host.
  Of an error of host or application code even the innermost record gives no more than its words.
-/

set_option autoImplicit false

namespace ScriptHost

namespace Failure

/-! ## Peeling off the wrappers -/

/-- The failure is the record `inner`, with whatever caused it, inside wrappers: `outer` and, next
to the record, `nearest`. -/
structure Peels (f : Failure) (outer : List Record) (nearest inner : Record) : Prop where
  targets : ∀ w ∈ outer ++ [nearest], w.kind = .target
  inner_ne : inner.kind ≠ .target
  chain_eq : ∃ below, f.chain = outer ++ nearest :: inner :: below

section

variable {f : Failure} {outer : List Record} {nearest inner : Record}

theorem Peels.not_isTarget (h : f.Peels outer nearest inner) : inner.isTarget = false :=
  decide_eq_false h.inner_ne

/-- The wrapper next to the record wraps it. -/
theorem Peels.of_nil (h : f.Peels [] nearest inner) :
    f.head = nearest ∧ ∃ below, f.Wraps ⟨inner, below⟩ := by
  obtain ⟨below, hchain⟩ := h.chain_eq
  obtain ⟨hhead, hcauses⟩ := List.cons.inj hchain
  refine ⟨hhead, below, hhead ▸ h.targets nearest List.mem_cons_self, ?_⟩
  exact cause?_eq_some_iff.2 hcauses

/-- Each further wrapper wraps what the ones inside make of the record. -/
theorem Peels.of_cons {w : Record} (h : f.Peels (w :: outer) nearest inner) :
    f.head = w ∧ ∃ g, f.Wraps g ∧ g.head.isTarget = true ∧ g.Peels outer nearest inner := by
  obtain ⟨below, hchain⟩ := h.chain_eq
  obtain ⟨hhead, hcauses⟩ := List.cons.inj hchain
  obtain ⟨next, rest, hnext⟩ : ∃ next rest, outer ++ nearest :: inner :: below = next :: rest :=
    List.exists_cons_of_ne_nil (List.append_ne_nil_of_right_ne_nil _ (List.cons_ne_nil _ _))
  have htargets : ∀ r ∈ outer ++ [nearest], r.kind = .target :=
    fun r hr => h.targets r (List.mem_cons_of_mem w hr)
  have hmem : next ∈ outer ++ [nearest] := by
    cases outer with
    | nil => exact (List.cons.inj hnext).1 ▸ List.mem_cons_self
    | cons first others => exact (List.cons.inj hnext).1 ▸ List.mem_cons_self
  refine ⟨hhead, ⟨next, rest⟩, ⟨hhead ▸ h.targets w List.mem_cons_self, ?_⟩,
    isTarget_iff.2 (htargets next hmem), htargets, h.inner_ne, below, hnext.symm⟩
  exact cause?_eq_some_iff.2 (hcauses.trans hnext)

theorem Peels.isTarget (h : f.Peels outer nearest inner) : f.head.isTarget = true := by
  cases outer with
  | nil =>
    obtain ⟨-, below, hwraps⟩ := h.of_nil
    exact hwraps.isTarget
  | cons w outer =>
    obtain ⟨-, g, hwraps, -, -⟩ := h.of_cons
    exact hwraps.isTarget

theorem Peels.innermost_eq (h : f.Peels outer nearest inner) : f.innermost = inner := by
  induction outer generalizing f with
  | nil =>
    obtain ⟨-, below, hwraps⟩ := h.of_nil
    exact hwraps.innermost_eq.trans (innermost_of_not_isTarget h.not_isTarget)
  | cons w outer ih =>
    obtain ⟨-, g, hwraps, -, hpeels⟩ := h.of_cons
    exact hwraps.innermost_eq.trans (ih hpeels)

/-! ## The trail through the wrappers -/

theorem trailOf_of_not_isTarget (h : f.head.isTarget = false) : TrailOf f [] f.head :=
  .stop fun _ hwraps => absurd (h.symm.trans hwraps.isTarget) Bool.false_ne_true

/-- The trail goes through all of the wrappers to a record of the script. -/
theorem Peels.trailOf_inner (h : f.Peels outer nearest inner)
    (hlevel : inner.kind.isScriptLevel = true) : TrailOf f (outer ++ [nearest]) inner := by
  induction outer generalizing f with
  | nil =>
    obtain ⟨hhead, below, hwraps⟩ := h.of_nil
    rw [← hhead]
    exact .goOn hwraps hlevel (@trailOf_of_not_isTarget ⟨inner, below⟩ h.not_isTarget)
  | cons w outer ih =>
    obtain ⟨hhead, g, hwraps, htarget, hpeels⟩ := h.of_cons
    rw [← hhead]
    exact .goOn hwraps (isScriptLevel_of_isTarget htarget) (ih hpeels)

/-- It ends at the last wrapper if the record inside is none of the script. -/
theorem Peels.trailOf_nearest (h : f.Peels outer nearest inner)
    (hlevel : inner.kind.isScriptLevel = false) : TrailOf f outer nearest := by
  induction outer generalizing f with
  | nil =>
    obtain ⟨hhead, below, hwraps⟩ := h.of_nil
    rw [← hhead]
    refine .stop fun g hg => ?_
    obtain rfl : Failure.mk inner below = g := Option.some_inj.1 (hwraps.2.symm.trans hg.2)
    exact hlevel
  | cons w outer ih =>
    obtain ⟨hhead, g, hwraps, htarget, hpeels⟩ := h.of_cons
    rw [← hhead]
    exact .goOn hwraps (isScriptLevel_of_isTarget htarget) (ih hpeels)

/-- The traceback of a wrapped record: where the script was when it went wrong, and then the calls,
those of the record itself only if it is one of the script. -/
theorem Peels.traceback_eq (h : f.Peels outer nearest inner) :
    f.traceback =
      (if inner.kind.isScriptLevel then inner.placeEntry :: inner.callEntries
        else [nearest.placeEntry]) ++
        (outer ++ [nearest]).reverse.flatMap Record.callEntries := by
  have hhead : f.head.kind.isScriptLevel = true := isScriptLevel_of_isTarget h.isTarget
  cases hlevel : inner.kind.isScriptLevel with
  | true =>
    rw [(h.trailOf_inner hlevel).traceback_eq hhead, @List.reverse_append _ (outer ++ [nearest]),
      List.reverse_singleton, List.singleton_append, List.flatMap_cons]
    rfl
  | false =>
    rw [(h.trailOf_nearest hlevel).traceback_eq hhead]
    rfl

/-- The traceback of a failure that is not wrapped comes from its outermost record alone. -/
theorem traceback_of_not_isTarget (h : f.head.isTarget = false) :
    f.traceback =
      if f.head.kind.isScriptLevel then f.head.placeEntry :: f.head.callEntries else [] := by
  cases hlevel : f.head.kind.isScriptLevel with
  | true =>
    rw [(trailOf_of_not_isTarget h).traceback_eq hlevel, List.nil_append, List.reverse_singleton,
      List.flatMap_singleton]
    rfl
  | false =>
    rw [traceback, levels_eq_nil hlevel]
    rfl

end

/-! ## What the traceback depends on -/

/-- Of the frames of records, their calls show only those that have a place. -/
theorem flatMap_callEntries_congr {rs rs' : List Record}
    (h : rs.map Record.locatedCalls = rs'.map Record.locatedCalls) :
    rs.reverse.flatMap Record.callEntries = rs'.reverse.flatMap Record.callEntries := by
  have hcalls : ∀ rs : List Record, rs.reverse.flatMap Record.callEntries =
      (rs.map Record.locatedCalls).reverse.flatMap
        (List.map fun frame => TraceEntry.ofPlace frame.location) := by
    intro rs
    rw [← List.map_reverse, List.flatMap_map, funext Record.callEntries_eq]
  rw [hcalls, hcalls, h]

theorem Record.placeEntry_congr {r r' : Record} (h : r.location = r'.location) :
    r.placeEntry = r'.placeEntry := by
  rw [placeEntry_eq, placeEntry_eq, h]

theorem Peels.traceback_congr {f f' : Failure} {outer outer' : List Record}
    {nearest nearest' inner inner' : Record} (h : f.Peels outer nearest inner)
    (h' : f'.Peels outer' nearest' inner')
    (hcalls : (outer ++ [nearest]).map Record.locatedCalls =
      (outer' ++ [nearest']).map Record.locatedCalls)
    (hplace : inner.kind.isScriptLevel = false → nearest.location = nearest'.location)
    (hinner : inner = inner' ∨ inner.IsNative ∧ inner'.IsNative) :
    f.traceback = f'.traceback := by
  rw [h.traceback_eq, h'.traceback_eq, flatMap_callEntries_congr hcalls]
  cases hlevel : inner.kind.isScriptLevel with
  | true =>
    rcases hinner with rfl | ⟨hnative, -⟩
    · rw [hlevel]
      rfl
    · exact absurd ((isScriptLevel_eq_false_iff.2 (.inr hnative)).symm.trans hlevel)
        Bool.false_ne_true
  | false =>
    have hlevel' : inner'.kind.isScriptLevel = false := by
      rcases hinner with rfl | ⟨-, hnative'⟩
      · exact hlevel
      · exact isScriptLevel_eq_false_iff.2 (.inr hnative')
    rw [hlevel', Record.placeEntry_congr (hplace hlevel)]
    rfl

end Failure

namespace ScriptError

open Failure

/-! ## What the host sees -/

/-- What a record inside wrappers is called, and how it is explained. -/
theorem Kind.explain_congr {inner inner' : Record}
    (h : inner = inner' ∨ inner.IsNative ∧ inner'.IsNative ∧ inner.message = inner'.message) :
    Kind.of inner true = Kind.of inner' true ∧
      (Kind.of inner true).explain inner = (Kind.of inner' true).explain inner' := by
  rcases h with rfl | ⟨hnative, hnative', hmessage⟩
  · exact ⟨rfl, rfl⟩
  · rw [Kind.of_eq_application_iff.2 ⟨hnative, rfl⟩, Kind.of_eq_application_iff.2 ⟨hnative', rfl⟩]
    exact ⟨rfl, by simp only [Kind.explain, hmessage]⟩

theorem kind_of_peels {f : Failure} {outer : List Record} {nearest inner : Record}
    (h : f.Peels outer nearest inner) : (ofFailure f).kind = Kind.of inner true :=
  congr (congrArg Kind.of h.innermost_eq) h.isTarget

theorem message_of_peels {f : Failure} {outer : List Record} {nearest inner : Record}
    (h : f.Peels outer nearest inner) : (ofFailure f).message =
      (Kind.of inner true).explain inner ++ tracebackBlock f.traceback := by
  rw [message_eq, if_pos (.inl (isTarget_iff.1 h.isTarget)), kind_of_peels h, h.innermost_eq]
  rfl

/-- **Only what contributes shows.**  Two failures, each a record inside as many wrappers, look the
same to the host if the wrappers have the same calls with a place, and the records are the same.  If
the record is none of the script, the wrappers next to it have to be at the same place; if it is an
error of host or application code, it only has to have the same words.  Neither the words of the
wrappers nor their other places and frames matter, and nothing that caused the record.

What caused the outermost record does not matter either if that is no wrapper and none of host or
application code. -/
theorem ofFailure_congr (f f' : Failure) :
    let e := ofFailure f
    let e' := ofFailure f'
    (∀ (outer outer' : List Record) (nearest nearest' inner inner' : Record),
      f.Peels outer nearest inner → f'.Peels outer' nearest' inner' →
      (outer ++ [nearest]).map Record.locatedCalls =
        (outer' ++ [nearest']).map Record.locatedCalls →
      (inner.kind = .internal ∨ inner.IsNative → nearest.location = nearest'.location) →
      (inner = inner' ∨ inner.IsNative ∧ inner'.IsNative ∧ inner.message = inner'.message) →
      e.kind = e'.kind ∧ e.message = e'.message ∧ e.traceback = e'.traceback) ∧
    (f.head = f'.head →
      f.head.kind = .parsing ∨ f.head.kind = .evaluation ∨ f.head.kind = .internal →
      e.kind = e'.kind ∧ e.message = e'.message ∧ e.traceback = e'.traceback) := by
  intro e e'
  constructor
  · intro outer outer' nearest nearest' inner inner' hpeels hpeels' hcalls hplace hinner
    have htraceback : f.traceback = f'.traceback :=
      hpeels.traceback_congr hpeels' hcalls
        (fun hlevel => hplace (isScriptLevel_eq_false_iff.1 hlevel))
        (hinner.imp_right fun h => ⟨h.1, h.2.1⟩)
    obtain ⟨hkind, hexplain⟩ := Kind.explain_congr hinner
    refine ⟨(kind_of_peels hpeels).trans (hkind.trans (kind_of_peels hpeels').symm), ?_,
      htraceback⟩
    refine (message_of_peels hpeels).trans (Eq.trans ?_ (message_of_peels hpeels').symm)
    rw [hexplain, htraceback]
  · intro hhead hkinds
    have htarget : f.head.isTarget = false := by
      rw [Record.isTarget]
      rcases hkinds with h | h | h <;> rw [h] <;> rfl
    have htarget' : f'.head.isTarget = false := hhead ▸ htarget
    have hinnermost : f.innermost = f'.innermost :=
      (innermost_of_not_isTarget htarget).trans
        (hhead.trans (innermost_of_not_isTarget htarget').symm)
    have hkind : e.kind = e'.kind :=
      (kind_of_not_isTarget htarget).trans
        ((congrArg (Kind.of · false) hhead).trans (kind_of_not_isTarget htarget').symm)
    have htraceback : e.traceback = e'.traceback := by
      refine (traceback_of_not_isTarget htarget).trans (Eq.trans ?_
        (traceback_of_not_isTarget htarget').symm)
      rw [hhead]
    refine ⟨hkind, (message_eq.trans ?_).trans message_eq.symm, htraceback⟩
    rw [hkind, htraceback, hinnermost, hhead]

/-- Two errors of host code inside two wrappers, alike in their words and in the two places that
show. -/
theorem ofFailure_congr_two_wrappers :
    let place : Location := ⟨"main", 3, "save()"⟩
    let call : Location := ⟨"main", 9, "run()"⟩
    let w : Record :=
      ⟨.target, "called", some call, some [.block "body", .method "run" (some call)]⟩
    let w' : Record := ⟨.target, "", none, some [.method "run" (some call), .method "main" none]⟩
    let nearest : Record := ⟨.target, "called", some place, none⟩
    let nearest' : Record := ⟨.target, "called again", some place, some []⟩
    let inner : Record := ⟨.native "IoError", "disk full", some call, none⟩
    let inner' : Record := ⟨.native "Timeout", "disk full", none, some [.method "save" (some call)]⟩
    let f : Failure := ⟨w, [nearest, inner, ⟨.evaluation, "deeper", none, none⟩]⟩
    let f' : Failure := ⟨w', [nearest', inner']⟩
    f.Peels [w] nearest inner ∧ f'.Peels [w'] nearest' inner' ∧
      (ofFailure f).message = (ofFailure f').message ∧
      (ofFailure f).traceback = [.ofLocation place, .ofLocation call] := by
  intro place call w w' nearest nearest' inner inner' f f'
  have hpeels : f.Peels [w] nearest inner := ⟨by simp [w, nearest], by simp [inner], _, rfl⟩
  have hpeels' : f'.Peels [w'] nearest' inner' := ⟨by simp [w', nearest'], by simp [inner'], _, rfl⟩
  have hsame := (ofFailure_congr f f').1 [w] [w'] nearest nearest' inner inner' hpeels hpeels'
    (by decide) (fun _ => rfl) (.inr ⟨⟨"IoError", rfl⟩, ⟨"Timeout", rfl⟩, rfl⟩)
  exact ⟨hpeels, hpeels', hsame.2.1, hsame.2.2.trans (by decide)⟩

end ScriptError

end ScriptHost
