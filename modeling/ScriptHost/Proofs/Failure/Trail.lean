import Mathlib.Data.List.Chain
import ScriptHost.Proofs.Failure.Wrapping

/-!
# The trail behind a traceback

A traceback is collected level by level, with a look at the next record at each of them to find out
whether the level is superseded.  What comes out has a simple description.  As long as a wrapper
wraps a script-level failure, it hands its place on to that one; the records that do so one after
the other, from the outermost on, are the *trail* of the failure.

* `Failure.IsTrail` — the trail as the longest chain of records of that kind.  Every failure has
  exactly one (`Failure.TrailOf.isTrail_iff`).
* `Failure.TrailOf` — the trail step by step, split into its last record and the ones before.  This
  is what the inductions run over.
* `Failure.traceback_isTrail` — the traceback of a script-level failure is the place of the last
  record of the trail, and then the calls of all of its records.

**One place only.**  Of all the records on the trail, only the last one has its own place in the
traceback.  It is the innermost record that decides the category, unless that is no script-level
one, and then it is the wrapper around it (`Failure.TrailOf.last_eq`).
-/

set_option autoImplicit false

namespace ScriptHost

namespace Failure

/-! ## Trails -/

/-- The outer record is a wrapper around the inner one, which is script-level. -/
def HandsOn (outer inner : Record) : Prop :=
  outer.kind = .target ∧ inner.kind.isScriptLevel = true

/-- The longest chain of records, from the outermost on, in which each record but the last one is a
wrapper around a script-level failure. -/
structure IsTrail (f : Failure) (trail : List Record) : Prop where
  starts : trail <+: f.chain
  linked : trail.IsChain HandsOn
  longest : ∀ other, other <+: f.chain → other.IsChain HandsOn → other.length ≤ trail.length

theorem IsTrail.unique {f : Failure} {trail trail' : List Record} (h : f.IsTrail trail)
    (h' : f.IsTrail trail') : trail = trail' := by
  have hle : trail.length ≤ trail'.length := h'.longest trail h.starts h.linked
  have hge : trail'.length ≤ trail.length := h.longest trail' h'.starts h'.linked
  exact (List.prefix_of_prefix_length_le h.starts h'.starts hle).eq_of_length
    (Nat.le_antisymm hle hge)

/-- `TrailOf f outer last`: the trail of `f` leads over the records `outer` to `last`. -/
inductive TrailOf : Failure → List Record → Record → Prop
  /-- It ends at once where there is no wrapper around a script-level failure. -/
  | stop {f : Failure} (h : ∀ inner, f.Wraps inner → inner.head.kind.isScriptLevel = false) :
      TrailOf f [] f.head
  /-- From a wrapper around a script-level failure it goes on into that one. -/
  | goOn {w f : Failure} {outer : List Record} {last : Record} (hwraps : w.Wraps f)
      (hlevel : f.head.kind.isScriptLevel = true) (h : TrailOf f outer last) :
      TrailOf w (w.head :: outer) last

theorem exists_trailOf (f : Failure) : ∃ outer last, TrailOf f outer last := by
  obtain ⟨head, causes⟩ := f
  induction causes generalizing head with
  | nil =>
    refine ⟨[], head, .stop fun inner h => ?_⟩
    exact absurd h.2 (Option.some_ne_none inner).symm
  | cons next rest ih =>
    by_cases h : HandsOn head next
    · obtain ⟨outer, last, htrail⟩ := ih next
      have hwraps : Wraps ⟨head, next :: rest⟩ ⟨next, rest⟩ := ⟨h.1, rfl⟩
      exact ⟨head :: outer, last, .goOn hwraps h.2 htrail⟩
    · refine ⟨[], head, .stop fun inner hwraps => ?_⟩
      obtain rfl : Failure.mk next rest = inner := Option.some_inj.1 hwraps.2
      exact eq_false_of_ne_true fun hlevel => h ⟨hwraps.1, hlevel⟩

section

variable {f : Failure} {outer : List Record} {last : Record}

/-- Step by step one finds the longest chain. -/
theorem TrailOf.isTrail (h : TrailOf f outer last) : f.IsTrail (outer ++ [last]) := by
  induction h with
  | @stop f h =>
    refine ⟨⟨f.causes, rfl⟩, .singleton _, fun other hstarts hlinked => ?_⟩
    match other with
    | [] => exact Nat.zero_le _
    | [_] => exact Nat.le_refl _
    | first :: second :: more =>
      -- a second record would be a script-level one that the first one wraps
      obtain ⟨hfirst, rest, hrest⟩ := List.cons_prefix_cons.1 hstarts
      have hhands : HandsOn first second := (List.isChain_cons_cons.1 hlinked).1
      have hwraps : f.Wraps ⟨second, more ++ rest⟩ := by
        refine ⟨hfirst ▸ hhands.1, cause?_eq_some_iff.2 ?_⟩
        rw [← hrest]
        rfl
      exact absurd (hhands.2.symm.trans (h _ hwraps)) Bool.false_ne_true.symm
  | @goOn w f outer last hwraps hlevel _ ih =>
    have hchain : w.chain = w.head :: f.chain := hwraps.chain_eq
    refine ⟨?_, ?_, fun other hstarts hlinked => ?_⟩
    · rw [hchain]
      exact List.cons_prefix_cons.2 ⟨rfl, ih.starts⟩
    · refine List.isChain_cons.2 ⟨fun next hnext => ?_, ih.linked⟩
      -- the trail of the wrapped failure starts with its outermost record
      obtain ⟨rest, hrest⟩ := ih.starts
      have hhead : f.chain.head? = some next := by
        have hfirst : (outer ++ [last]).head? = some next := hnext
        rw [← hrest, List.head?_append, hfirst]
        rfl
      obtain rfl : f.head = next := Option.some_inj.1 hhead
      exact ⟨hwraps.1, hlevel⟩
    · match other with
      | [] => exact Nat.zero_le _
      | first :: more =>
        rw [hchain, List.cons_prefix_cons] at hstarts
        exact Nat.succ_le_succ (ih.longest more hstarts.2 (List.isChain_cons.1 hlinked).2)

theorem TrailOf.isTrail_iff (h : TrailOf f outer last) {trail : List Record} :
    f.IsTrail trail ↔ trail = outer ++ [last] :=
  ⟨fun htrail => htrail.unique h.isTrail, fun htrail => htrail ▸ h.isTrail⟩

/-! ## The levels along the trail -/

/-- All levels but that of the last record are superseded. -/
theorem TrailOf.levels_eq (h : TrailOf f outer last) (hlevel : f.head.kind.isScriptLevel = true) :
    levels f.chain = outer.map (fun r => ⟨r, true⟩) ++ [⟨last, false⟩] := by
  induction h with
  | @goOn w f outer last hwraps hinner _ ih =>
    rw [hwraps.levels_eq, hinner, ih hinner, List.map_cons, List.cons_append]
  | @stop f h =>
    obtain ⟨head, causes⟩ := f
    rw [chain, levels, if_pos hlevel]
    cases ht : head.isTarget with
    | false =>
      rw [if_neg Bool.false_ne_true]
      cases causes with
      | nil => rfl
      | cons next rest => rw [wrapsScriptLevel, ht, Bool.false_and]; rfl
    | true =>
      rw [if_pos rfl]
      cases causes with
      | nil => rfl
      | cons next rest =>
        have hnext : next.kind.isScriptLevel = false := h ⟨next, rest⟩ ⟨isTarget_iff.1 ht, rfl⟩
        have hrest : levels (next :: rest) = [] := @levels_eq_nil ⟨next, rest⟩ hnext
        simp only [wrapsScriptLevel, hnext, Bool.and_false, hrest]
        rfl

theorem TrailOf.traceback_eq (h : TrailOf f outer last)
    (hlevel : f.head.kind.isScriptLevel = true) :
    f.traceback = last.placeEntry :: (outer ++ [last]).reverse.flatMap Record.callEntries := by
  have hsuperseded : ∀ rs : List Record,
      (rs.map fun r => Level.mk r true).flatMap Level.entries = rs.flatMap Record.callEntries := by
    intro rs
    rw [List.flatMap_map]
    rfl
  rw [traceback, h.levels_eq hlevel, List.reverse_append, ← List.map_reverse,
    List.reverse_singleton, List.singleton_append, List.flatMap_cons, hsuperseded,
    List.reverse_append, List.reverse_singleton, List.singleton_append, List.flatMap_cons]
  rfl

/-! ## The last record -/

/-- The trail of a script-level failure ends at the innermost record, or at the wrapper around it if
that is no script-level one. -/
theorem TrailOf.last_eq (h : TrailOf f outer last) (hlevel : f.head.kind.isScriptLevel = true) :
    (if f.innermost.kind.isScriptLevel then some f.innermost
      else (f.chain.takeWhile Record.isTarget).getLast?) = some last := by
  induction h with
  | @goOn w f outer last hwraps hinner _ ih =>
    have hlast := ih hinner
    rw [hwraps.innermost_eq, hwraps.chain_eq, List.takeWhile_cons_of_pos hwraps.isTarget]
    cases hscript : f.innermost.kind.isScriptLevel with
    | true =>
      rw [hscript, if_pos rfl] at hlast
      rw [if_pos rfl, hlast]
    | false =>
      rw [hscript, if_neg Bool.false_ne_true] at hlast
      rw [if_neg Bool.false_ne_true, List.getLast?_cons, hlast]
      rfl
  | @stop f h =>
    cases ht : f.head.isTarget with
    | false => rw [innermost_of_not_isTarget ht, if_pos hlevel]
    | true =>
      cases hcause : f.cause? with
      | none =>
        -- a wrapper around nothing
        have hinnermost : f.innermost = f.head := by
          obtain ⟨head, causes⟩ := f
          cases causes with
          | nil => rfl
          | cons next rest => exact absurd hcause (Option.some_ne_none _)
        rw [hinnermost, if_pos hlevel]
      | some inner =>
        have hwraps : f.Wraps inner := ⟨isTarget_iff.1 ht, hcause⟩
        have hinner : inner.head.kind.isScriptLevel = false := h inner hwraps
        have htarget : inner.head.isTarget = false := by
          refine eq_false_of_ne_true fun ht => ?_
          exact Bool.false_ne_true (hinner.symm.trans (isScriptLevel_of_isTarget ht))
        rw [hwraps.innermost_eq, innermost_of_not_isTarget htarget, hinner,
          if_neg Bool.false_ne_true, hwraps.chain_eq, List.takeWhile_cons_of_pos ht, chain,
          List.takeWhile_cons, htarget, if_neg Bool.false_ne_true]
        rfl

end

/-- **A traceback follows the trail.**  A failure that is not script-level has no traceback.  That
of a script-level failure lists the place of the last record of the trail, and then, from the last
record to the first, the calls of each record that have a place.  So its length is one more than the
number of those calls, and it starts with the place of the innermost record, or of the innermost
wrapper if that record is not script-level.

Its text has a line for each entry, and no other. -/
theorem traceback_isTrail (f : Failure) :
    (f.head.kind = .internal ∨ f.head.IsNative → f.traceback = []) ∧
      (f.head.kind = .parsing ∨ f.head.kind = .evaluation ∨ f.head.kind = .target →
        ∃ (outer : List Record) (last : Record),
          (∀ trail, f.IsTrail trail ↔ trail = outer ++ [last]) ∧
          f.traceback = .ofPlace last.location ::
            ((outer ++ [last]).reverse.flatMap Record.locatedCalls).map
              (fun frame => .ofPlace frame.location) ∧
          f.traceback.length = 1 + ((outer ++ [last]).flatMap Record.locatedCalls).length ∧
          f.traceback.head? =
            ((if f.innermost.kind.isScriptLevel then some f.innermost
              else (f.chain.takeWhile Record.isTarget).getLast?).map
                fun r => .ofPlace r.location)) ∧
      renderTraceback f.traceback =
        String.join (f.traceback.map fun e => s!"\n    at {e.file}:{e.line} '{e.text}'") := by
  refine ⟨?_, ?_, rfl⟩
  · intro hkind
    rw [traceback, levels_eq_nil (isScriptLevel_eq_false_iff.2 hkind)]
    rfl
  · intro hkind
    have hlevel : f.head.kind.isScriptLevel = true := isScriptLevel_iff.2 hkind
    obtain ⟨outer, last, htrail⟩ := exists_trailOf f
    have hcalls : Record.callEntries = fun r : Record =>
        r.locatedCalls.map fun frame => TraceEntry.ofPlace frame.location :=
      funext Record.callEntries_eq
    have htraceback : f.traceback = .ofPlace last.location ::
        ((outer ++ [last]).reverse.flatMap Record.locatedCalls).map
          fun frame => .ofPlace frame.location := by
      rw [htrail.traceback_eq hlevel, Record.placeEntry_eq, hcalls, List.map_flatMap]
    refine ⟨outer, last, fun trail => htrail.isTrail_iff, htraceback, ?_, ?_⟩
    · rw [htraceback, List.length_cons, List.length_map, Nat.add_comm]
      exact congrArg (1 + ·) ((List.reverse_perm _).flatMap_right _).length_eq
    · rw [htraceback, htrail.last_eq hlevel]
      rfl

/-- A wrapper around a wrapper around an error of host code: the place of the inner wrapper, and
then the one call of the outer wrapper that has a place. -/
theorem traceback_isTrail_two_wrappers :
    let place : Location := ⟨"main", 3, "save()"⟩
    let call : Location := ⟨"main", 9, "run()"⟩
    let frames : List Frame := [.block "body", .method "run" (some call), .method "main" none]
    let w : Record := ⟨.target, "called", some call, some frames⟩
    let nearest : Record := ⟨.target, "called", some place, none⟩
    let f : Failure := ⟨w, [nearest, ⟨.native "IoError", "disk full", some call, none⟩]⟩
    f.IsTrail [w, nearest] ∧ f.traceback = [.ofPlace place, .ofPlace call] := by
  intro place call frames w nearest f
  have hstop : TrailOf ⟨nearest, f.causes.tail⟩ [] nearest :=
    .stop fun inner h => Option.some_inj.1 h.2 ▸ rfl
  have htrail : TrailOf f [w] nearest := .goOn ⟨rfl, rfl⟩ rfl hstop
  obtain ⟨outer, last, hiff, htraceback, -⟩ := (traceback_isTrail f).2.1 (.inr (.inr rfl))
  have heq : outer ++ [last] = [w] ++ [nearest] := ((hiff _).1 htrail.isTrail).symm
  obtain ⟨rfl, hlast⟩ := List.append_inj' heq rfl
  obtain rfl : last = nearest := List.singleton_inj.1 hlast
  exact ⟨htrail.isTrail, htraceback⟩

end Failure

end ScriptHost
