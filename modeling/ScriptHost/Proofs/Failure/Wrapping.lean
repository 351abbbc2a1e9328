import ScriptHost.ScriptError

/-!
# Wrapping a failure

A failure that travels outwards through calls of native code is wrapped at each of them.  Three
things go along the chain then, each in its own way: the search for the innermost record, which
decides the category, the collection of levels for the traceback, and the look at the next record
that tells whether a level is superseded.  They agree, so that one more wrapper has one simple
effect:

* the innermost record stays the same (`Failure.Wraps.innermost_eq`);
* the traceback gets the calls of the wrapper at its end, and the wrapper's own place only if there
  was no traceback so far (`Failure.Wraps.traceback_eq`).

The entries are said in terms of what the wrapper has, its location and its frames:
`TraceEntry.ofPlace` is the entry for a location or for none, and `Failure.Record.locatedCalls` are
the frames that show.

`ScriptError.ofFailure_wraps` puts together what this means for the error that a host sees.
-/

set_option autoImplicit false

namespace ScriptHost

/-- The entry for a place, or for one that is not known. -/
def TraceEntry.ofPlace : Option Location → TraceEntry
  | some loc => ⟨loc.file, loc.line.toNat, loc.text⟩
  | none => ⟨"<unknown file>", -1, "<unknown location>"⟩

namespace Failure

/-! ## The entries of a record -/

/-- The method calls of the copied call stack that have a place, oldest first. -/
def Record.locatedCalls (r : Record) : List Frame :=
  (r.frames.getD []).filter fun frame => frame.isMethod && frame.location.isSome

theorem Record.placeEntry_eq (r : Record) : r.placeEntry = .ofPlace r.location := by
  rw [placeEntry]
  cases r.location <;> rfl

theorem Record.callEntries_eq (r : Record) :
    r.callEntries = r.locatedCalls.map fun frame => .ofPlace frame.location := by
  rw [callEntries, locatedCalls, stackFrames]
  induction r.frames.getD [] with
  | nil => rfl
  | cons frame rest ih =>
    cases hm : frame.isMethod with
    | false => simp [hm, ih]
    | true =>
      cases hl : frame.location with
      | none => simp [hm, hl, ih]
      | some loc => simp [hm, hl, ih, TraceEntry.ofLocation, TraceEntry.ofPlace]

/-! ## Wrappers -/

/-- The failure `w` is a wrapper around the failure `f`. -/
def Wraps (w f : Failure) : Prop := w.head.kind = .target ∧ w.cause? = some f

/-- Host or application code raised the record. -/
def Record.IsNative (r : Record) : Prop := ∃ typeName : String, r.kind = .native typeName

variable {w f : Failure}

theorem cause?_eq_some_iff : w.cause? = some f ↔ w.causes = f.chain := by
  obtain ⟨r, causes⟩ := w
  obtain ⟨r', causes'⟩ := f
  cases causes with
  | nil => simp [cause?, ofChain?, chain]
  | cons next rest => simp [cause?, ofChain?, chain]

theorem isTarget_iff {r : Record} : r.isTarget = true ↔ r.kind = .target := by
  rw [Record.isTarget, decide_eq_true_eq]

theorem Record.IsNative.not_isTarget {r : Record} (h : r.IsNative) : r.isTarget = false := by
  obtain ⟨typeName, hk⟩ := h
  rw [Record.isTarget, hk]
  rfl

theorem isScriptLevel_iff {r : Record} : r.kind.isScriptLevel = true ↔
    r.kind = .parsing ∨ r.kind = .evaluation ∨ r.kind = .target := by
  cases r.kind <;> simp [Kind.isScriptLevel]

/-- Internal failures, and errors of host or application code, are none of the script. -/
theorem isScriptLevel_eq_false_iff {r : Record} :
    r.kind.isScriptLevel = false ↔ r.kind = .internal ∨ r.IsNative := by
  rw [Record.IsNative]
  cases r.kind <;> simp [Kind.isScriptLevel]

theorem isScriptLevel_of_isTarget {r : Record} (h : r.isTarget = true) :
    r.kind.isScriptLevel = true := by
  rw [isTarget_iff.1 h]
  rfl

theorem Wraps.isTarget (h : w.Wraps f) : w.head.isTarget = true := isTarget_iff.2 h.1

theorem Wraps.chain_eq (h : w.Wraps f) : w.chain = w.head :: f.chain := by
  rw [← cause?_eq_some_iff.1 h.2]
  rfl

/-! ## The innermost record -/

theorem Wraps.innermost_eq (h : w.Wraps f) : w.innermost = f.innermost := by
  rw [innermost, cause?_eq_some_iff.1 h.2, chain, innermostOf, if_pos h.isTarget]
  rfl

theorem innermost_of_not_isTarget (h : f.head.isTarget = false) : f.innermost = f.head := by
  rw [innermost]
  cases f.causes with
  | nil => rfl
  | cons next rest => rw [innermostOf, h, if_neg Bool.false_ne_true]

theorem head?_dropWhile_of_not_isTarget (h : f.head.isTarget = false) :
    (f.chain.dropWhile Record.isTarget).head? = some f.head := by
  rw [chain, List.dropWhile_cons, h, if_neg Bool.false_ne_true, List.head?_cons]

/-- The innermost record is the first one that is no wrapper, if there is one. -/
theorem head?_dropWhile_iff {r : Record} :
    (f.chain.dropWhile Record.isTarget).head? = some r ↔
      f.innermost = r ∧ r.isTarget = false := by
  obtain ⟨head, causes⟩ := f
  induction causes generalizing head with
  | nil =>
    cases hh : head.isTarget with
    | true =>
      rw [chain, List.dropWhile_cons, hh, if_pos rfl, List.dropWhile_nil, List.head?_nil]
      -- a wrapper around nothing is the innermost record
      refine iff_of_false (Option.some_ne_none r).symm ?_
      rintro ⟨rfl, hr⟩
      exact Bool.false_ne_true (hr.symm.trans hh)
    | false =>
      rw [head?_dropWhile_of_not_isTarget hh, innermost_of_not_isTarget hh, Option.some_inj]
      exact ⟨fun he => ⟨he, he ▸ hh⟩, And.left⟩
  | cons next rest ih =>
    cases hh : head.isTarget with
    | true =>
      rw [chain, List.dropWhile_cons, hh, if_pos rfl, innermost, innermostOf, if_pos hh]
      exact ih next
    | false =>
      rw [head?_dropWhile_of_not_isTarget hh, innermost_of_not_isTarget hh, Option.some_inj]
      exact ⟨fun he => ⟨he, he ▸ hh⟩, And.left⟩

/-! ## The traceback -/

/-- A wrapper is one more level, and what it wraps tells whether it is superseded. -/
theorem Wraps.levels_eq (h : w.Wraps f) :
    levels w.chain = ⟨w.head, f.head.kind.isScriptLevel⟩ :: levels f.chain := by
  have hlevel : w.head.kind.isScriptLevel = true := isScriptLevel_of_isTarget h.isTarget
  have hwraps : wrapsScriptLevel (w.head :: f.chain) = f.head.kind.isScriptLevel := by
    rw [chain, wrapsScriptLevel, h.isTarget, Bool.true_and]
  rw [h.chain_eq, levels, if_pos hlevel, if_pos h.isTarget, hwraps]

/-- The traceback starts at the first record, or nowhere. -/
theorem levels_eq_nil (h : f.head.kind.isScriptLevel = false) : levels f.chain = [] := by
  rw [chain, levels, if_neg (by rw [h]; exact Bool.false_ne_true)]

theorem Wraps.traceback_eq (h : w.Wraps f) :
    w.traceback =
      (if f.head.kind.isScriptLevel then f.traceback else [w.head.placeEntry]) ++
        w.head.callEntries := by
  rw [traceback, h.levels_eq, List.reverse_cons, List.flatMap_append, List.flatMap_singleton,
    Level.entries]
  cases hlevel : f.head.kind.isScriptLevel with
  | true => rfl
  | false =>
    rw [levels_eq_nil hlevel]
    rfl

end Failure

namespace ScriptError

open Failure

/-! ## The category -/

theorem Kind.of_eq_unknown_iff {r : Record} {wrapped : Bool} :
    Kind.of r wrapped = .unknown ↔ r.IsNative ∧ wrapped = false := by
  rw [Kind.of, Record.IsNative]
  cases r.kind <;> cases wrapped <;> simp

theorem Kind.of_eq_application_iff {r : Record} {wrapped : Bool} :
    Kind.of r wrapped = .application ↔ r.IsNative ∧ wrapped = true := by
  rw [Kind.of, Record.IsNative]
  cases r.kind <;> cases wrapped <;> simp

/-- Only for host and application code does it matter whether the script has called it. -/
theorem Kind.of_congr {r : Record} (h : ¬ r.IsNative) (wrapped wrapped' : Bool) :
    Kind.of r wrapped = Kind.of r wrapped' := by
  rw [Kind.of, Kind.of]
  cases hk : r.kind with
  | native typeName => exact absurd ⟨typeName, hk⟩ h
  | _ => rfl

variable {w f : Failure}

theorem kind_eq_unknown_iff : (ofFailure f).kind = .unknown ↔ f.head.IsNative := by
  refine Kind.of_eq_unknown_iff.trans ⟨fun h => ?_, fun h => ?_⟩
  · rw [← innermost_of_not_isTarget h.2]
    exact h.1
  · rw [innermost_of_not_isTarget h.not_isTarget]
    exact ⟨h, h.not_isTarget⟩

theorem kind_eq_application_iff : (ofFailure f).kind = .application ↔
    f.head.kind = .target ∧
      ∃ r, (f.chain.dropWhile Record.isTarget).head? = some r ∧ r.IsNative := by
  refine Kind.of_eq_application_iff.trans ⟨fun h => ?_, fun h => ?_⟩
  · exact ⟨isTarget_iff.1 h.2, f.innermost, head?_dropWhile_iff.2 ⟨rfl, h.1.not_isTarget⟩, h.1⟩
  · obtain ⟨htarget, r, hr, hnative⟩ := h
    rw [(head?_dropWhile_iff.1 hr).1]
    exact ⟨hnative, isTarget_iff.2 htarget⟩

theorem kind_of_not_isTarget (h : f.head.isTarget = false) :
    (ofFailure f).kind = Kind.of f.head false :=
  congr (congrArg Kind.of (innermost_of_not_isTarget h)) h

theorem kind_of_wraps_native (h : w.Wraps f) (hnative : f.head.IsNative) :
    (ofFailure w).kind = .application := by
  refine Kind.of_eq_application_iff.2 ⟨?_, h.isTarget⟩
  rw [h.innermost_eq, innermost_of_not_isTarget hnative.not_isTarget]
  exact hnative

theorem kind_of_wraps (h : w.Wraps f) (hnative : ¬ f.head.IsNative) :
    (ofFailure w).kind = (ofFailure f).kind := by
  have hkind : (ofFailure w).kind = Kind.of f.innermost true :=
    congr (congrArg Kind.of h.innermost_eq) h.isTarget
  rw [hkind]
  cases ht : f.head.isTarget with
  | true => exact congrArg (Kind.of f.innermost) ht.symm
  | false =>
    rw [← innermost_of_not_isTarget ht] at hnative
    exact Kind.of_congr hnative true f.head.isTarget

/-! ## The text -/

/-- The traceback is shown if the outermost record is a wrapper or an evaluation failure. -/
theorem showsTraceback_iff :
    (ofFailure f).kind.showsTraceback f.head.isTarget = true ↔
      f.head.kind = .target ∨ f.head.kind = .evaluation := by
  cases ht : f.head.isTarget with
  | true =>
    -- below a wrapper no category but the unknown one hides the traceback
    have hknown : (ofFailure f).kind ≠ .unknown := by
      intro hunknown
      rw [(kind_eq_unknown_iff.1 hunknown).not_isTarget] at ht
      exact Bool.false_ne_true ht
    refine iff_of_true ?_ (.inl (isTarget_iff.1 ht))
    cases hk : (ofFailure f).kind with
    | unknown => exact absurd hk hknown
    | _ => rfl
  | false =>
    rw [kind_of_not_isTarget ht, Kind.of]
    rw [Record.isTarget, decide_eq_false_iff_not] at ht
    cases hk : f.head.kind with
    | target => exact absurd hk ht
    | _ => simp [Kind.showsTraceback]

theorem message_eq : (ofFailure f).message =
    (ofFailure f).kind.explain f.innermost ++
      if f.head.kind = .target ∨ f.head.kind = .evaluation then
        tracebackBlock (ofFailure f).traceback
      else "" := by
  by_cases h : f.head.kind = .target ∨ f.head.kind = .evaluation
  · rw [if_pos h]
    exact if_pos (showsTraceback_iff.2 h)
  · rw [if_neg h, String.append_empty]
    exact if_neg fun hs => h (showsTraceback_iff.1 hs)

/-- **One more wrapper.**  Wrapping a failure makes it an application error if it was raised by host
or application code, and keeps its category otherwise.  The traceback goes on with the calls of the
wrapper that have a place, oldest first; if the failure is none of the script, it starts with the
place of the wrapper.  From the second wrapper on, the text changes in its traceback only.

Of the failure itself the outermost record tells whether it is an unknown error and whether its text
ends with the traceback; an application error is host or application code below wrappers. -/
theorem ofFailure_wraps (f : Failure) :
    let e := ofFailure f
    let block := fun entries : List TraceEntry => "\nScript traceback:" ++
      String.join (entries.map fun e => s!"\n    at {e.file}:{e.line} '{e.text}'") ++ "\n"
    (∀ w : Failure, w.Wraps f →
      let e' := ofFailure w
      let calls := w.head.locatedCalls.map fun frame => TraceEntry.ofPlace frame.location
      (f.head.IsNative → e'.kind = .application) ∧
        (¬ f.head.IsNative → e'.kind = e.kind) ∧
        (f.head.kind = .parsing ∨ f.head.kind = .evaluation ∨ f.head.kind = .target →
          e'.traceback = e.traceback ++ calls) ∧
        (f.head.kind = .internal ∨ f.head.IsNative →
          e'.traceback = .ofPlace w.head.location :: calls) ∧
        (f.head.kind = .target → ∃ text : String,
          e'.message = text ++ block e'.traceback ∧ e.message = text ++ block e.traceback)) ∧
      (e.kind = .unknown ↔ f.head.IsNative) ∧
      (e.kind = .application ↔ f.head.kind = .target ∧
        ∃ r, (f.chain.dropWhile Record.isTarget).head? = some r ∧ r.IsNative) ∧
      e.message = e.kind.explain f.innermost ++
        if f.head.kind = .target ∨ f.head.kind = .evaluation then block e.traceback else "" := by
  intro e block
  refine ⟨fun w h => ⟨kind_of_wraps_native h, kind_of_wraps h, ?_, ?_, ?_⟩, kind_eq_unknown_iff,
    kind_eq_application_iff, message_eq⟩
  · intro hkind
    have hlevel : f.head.kind.isScriptLevel = true := isScriptLevel_iff.2 hkind
    refine h.traceback_eq.trans ?_
    rw [if_pos hlevel, Record.callEntries_eq]
    rfl
  · intro hkind
    have hlevel : f.head.kind.isScriptLevel = false := isScriptLevel_eq_false_iff.2 hkind
    refine h.traceback_eq.trans ?_
    rw [hlevel, if_neg Bool.false_ne_true, Record.placeEntry_eq, Record.callEntries_eq]
    rfl
  · intro htarget
    have hnative : ¬ f.head.IsNative := by
      rintro ⟨typeName, hk⟩
      rw [htarget] at hk
      exact Failure.Kind.noConfusion hk
    refine ⟨e.kind.explain f.innermost, ?_, ?_⟩
    · rw [message_eq, if_pos (.inl h.1), kind_of_wraps h hnative, h.innermost_eq]
      rfl
    · exact message_eq.trans (by rw [if_pos (.inl htarget)]; rfl)

/-- A wrapper around an error of host code, and another one around that.  Each has a place and has
copied three frames: a call with a place, a block with one, and a call without.  The places of the
calls show, and of the places of the wrappers that of the inner one. -/
theorem ofFailure_wraps_twice :
    let place : Location := ⟨"main", 3, "save()"⟩
    let call : Location := ⟨"main", 9, "run()"⟩
    let start : Location := ⟨"start", 1, "main()"⟩
    let frames : Location → List Frame := fun loc =>
      [.method "run" (some loc), ⟨"if", false, some place⟩, .method "main" none]
    let native : Failure := .native "IoError" "disk full"
    let inner : Failure := ⟨⟨.target, "called", some place, some (frames call)⟩, native.chain⟩
    let outer : Failure := ⟨⟨.target, "again", some call, some (frames start)⟩, inner.chain⟩
    inner.Wraps native ∧ outer.Wraps inner ∧ native.head.IsNative ∧
      (ofFailure inner).kind = .application ∧ (ofFailure outer).kind = .application ∧
      (ofFailure inner).traceback = [⟨"main", 3, "save()"⟩, ⟨"main", 9, "run()"⟩] ∧
      (ofFailure outer).traceback =
        [⟨"main", 3, "save()"⟩, ⟨"main", 9, "run()"⟩, ⟨"start", 1, "main()"⟩] ∧
      ∃ text : String,
        (ofFailure outer).message = text ++ ("\nScript traceback:" ++
          "\n    at main:3 'save()'\n    at main:9 'run()'\n    at start:1 'main()'" ++ "\n") ∧
        (ofFailure inner).message = text ++ ("\nScript traceback:" ++
          "\n    at main:3 'save()'\n    at main:9 'run()'" ++ "\n") := by
  intro place call start frames native inner outer
  have hnative : native.head.IsNative := ⟨"IoError", rfl⟩
  have hwraps : inner.Wraps native := ⟨rfl, rfl⟩
  have hwraps' : outer.Wraps inner := ⟨rfl, rfl⟩
  obtain ⟨hkind, -, -, htraceback, -⟩ := (ofFailure_wraps native).1 inner hwraps
  obtain ⟨-, hkind', htraceback', -, htext⟩ := (ofFailure_wraps inner).1 outer hwraps'
  have hinner := hkind hnative
  have hentries : (ofFailure inner).traceback = [⟨"main", 3, "save()"⟩, ⟨"main", 9, "run()"⟩] :=
    htraceback (.inr hnative)
  have hentries' : (ofFailure outer).traceback =
      [⟨"main", 3, "save()"⟩, ⟨"main", 9, "run()"⟩, ⟨"start", 1, "main()"⟩] := by
    rw [htraceback' (.inr (.inr rfl)), hentries]
    rfl
  obtain ⟨text, hmessage', hmessage⟩ := htext rfl
  rw [hentries'] at hmessage'
  rw [hentries] at hmessage
  refine ⟨hwraps, hwraps', hnative, hinner, ?_, hentries, hentries', text, ?_, ?_⟩
  · exact (hkind' fun ⟨_, hk⟩ => Failure.Kind.noConfusion hk).trans hinner
  · exact hmessage'.trans (congrArg (text ++ ·) (by decide))
  · exact hmessage.trans (congrArg (text ++ ·) (by decide))

end ScriptError

end ScriptHost
