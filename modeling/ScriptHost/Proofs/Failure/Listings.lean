import ScriptHost.Proofs.Failure.Snapshots

/-!
# Two listings of one call stack

The calls that were active when a failure was raised are listed twice, by two functions that know
nothing of each other.  The stack trace of a record has a line for each method call, newest first.
A traceback has, among others, an entry for each method call that has a place, oldest first.

* `Failure.Record.callEntries_eq_reverse` — the entries of a record in a traceback are its stack
  trace without the calls that have no place, from the last one to the first.
* `Failure.traceback_of_wrappers` — where these entries stand in the traceback of a failure inside
  wrappers.
* `Failure.listings_congr` — nothing but the method calls of a call stack shows in either listing.
* `Failure.display_eq` — the text of a record ends with its stack trace.
* `Failure.listings_agree` — all of this, also for a call stack that came about in a run.

**A call stack without calls is not the same as none.**  A traceback does not tell the two apart,
but the stack trace does, and with it the text of a record (`Failure.display_ne_iff`).
-/

set_option autoImplicit false

namespace ScriptHost

theorem Frame.stackLine_eq (frame : Frame) :
    frame.stackLine = s!"\nCalled from method: {frame.name}" ++
      frame.location.elim "" fun loc =>
        s!" : at Line: {loc.line} : in file: {loc.file} : {loc.text}" := by
  obtain ⟨name, isMethod, location⟩ := frame
  cases location <;> rfl

namespace Failure

/-- The failure as it is without a copy of the call stack. -/
def withoutCallStack (f : Failure) : Failure := { f with head := { f.head with frames := none } }

/-! ## The calls of a record -/

namespace Record

variable {r r' : Record} {frames : List Frame}

theorem calls_eq (r : Record) : r.calls = (r.stackFrames.filter Frame.isMethod).reverse :=
  List.filter_reverse

theorem calls_of_frames (h : r.frames = some frames) :
    r.calls = (frames.filter Frame.isMethod).reverse := by
  rw [calls_eq, stackFrames, h, Option.getD_some]

theorem stackTrace_of_frames (h : r.frames = some frames) :
    r.stackTrace = String.join (r.calls.map Frame.stackLine) := by
  rw [stackTrace, hasCallStack, h]
  rfl

/-- **One listing from the other.** -/
theorem callEntries_eq_reverse (r : Record) :
    r.callEntries = (r.calls.filterMap Frame.location).reverse.map TraceEntry.ofLocation := by
  rw [calls_eq, List.filterMap_reverse, List.reverse_reverse, List.map_filterMap]
  rfl

theorem callEntries_congr (h : r.calls = r'.calls) : r.callEntries = r'.callEntries := by
  rw [callEntries_eq_reverse, callEntries_eq_reverse, h]

end Record

/-! ## The calls in a traceback -/

theorem Level.entries_eq (level : Level) :
    level.entries =
      (if level.superseded then [] else [level.record.placeEntry]) ++ level.record.callEntries := by
  rw [entries]
  cases level.superseded <;> rfl

variable {f w : Failure} {frames frames' : List Frame}

/-- The outermost record comes last in the traceback, and its calls come last of that. -/
theorem traceback_of_isScriptLevel (h : f.head.kind.isScriptLevel = true) :
    f.traceback =
      (if f.head.isTarget then levels f.causes else []).reverse.flatMap Level.entries ++
        ((if wrapsScriptLevel f.chain then [] else [f.head.placeEntry]) ++ f.head.callEntries) := by
  rw [traceback, chain, levels, if_pos h, List.reverse_cons, List.flatMap_append,
    List.flatMap_singleton, Level.entries_eq]

/-- What a call stack adds to a traceback, it adds at the end. -/
theorem traceback_eq_append (h : f.head.kind.isScriptLevel = true) :
    f.traceback = f.withoutCallStack.traceback ++ f.head.callEntries := by
  have hwraps : wrapsScriptLevel f.withoutCallStack.chain = wrapsScriptLevel f.chain := by
    obtain ⟨r, causes⟩ := f
    cases causes <;> rfl
  have hnone : f.withoutCallStack.head.callEntries = [] := rfl
  rw [traceback_of_isScriptLevel h, @traceback_of_isScriptLevel f.withoutCallStack h, hwraps, hnone,
    List.append_nil, List.append_assoc]
  rfl

theorem chain_injective : Function.Injective chain := by
  rintro ⟨r, causes⟩ ⟨r', causes'⟩ h
  obtain ⟨rfl, rfl⟩ := List.cons.inj h
  rfl

/-- Wrappers leave a traceback of the script as it is and add their calls. -/
theorem traceback_of_wrappers {outer : List Record} (houter : ∀ r ∈ outer, r.kind = .target)
    (hchain : w.chain = outer ++ f.chain) (hlevel : f.head.kind.isScriptLevel = true) :
    w.traceback = f.traceback ++ outer.reverse.flatMap Record.callEntries := by
  induction outer generalizing w with
  | nil =>
    obtain rfl : w = f := chain_injective hchain
    exact (List.append_nil _).symm
  | cons r outer ih =>
    obtain ⟨hhead, hcauses⟩ := List.cons.inj hchain
    -- what the outermost wrapper wraps is a wrapper again, or the failure itself
    obtain ⟨g, hg, hglevel⟩ : ∃ g : Failure, g.chain = outer ++ f.chain ∧
        g.head.kind.isScriptLevel = true := by
      cases outer with
      | nil => exact ⟨f, rfl, hlevel⟩
      | cons next rest =>
        refine ⟨⟨next, rest ++ f.chain⟩, rfl, isScriptLevel_of_isTarget (isTarget_iff.2 ?_)⟩
        exact houter next (List.mem_cons_of_mem r List.mem_cons_self)
    have hwraps : w.Wraps g := by
      refine ⟨hhead ▸ houter r List.mem_cons_self, cause?_eq_some_iff.2 ?_⟩
      exact hcauses.trans hg.symm
    have hinner : g.traceback = f.traceback ++ outer.reverse.flatMap Record.callEntries :=
      ih (fun next hnext => houter next (List.mem_cons_of_mem r hnext)) hg
    rw [hwraps.traceback_eq, if_pos hglevel, hinner, hhead, List.reverse_cons,
      List.flatMap_append, List.flatMap_singleton, List.append_assoc]

/-- **Other frames do not show.**  With the same method calls, a call stack gives the same stack
trace and the same traceback. -/
theorem listings_congr (h : f.head.frames = some frames)
    (hmethods : frames'.filter Frame.isMethod = frames.filter Frame.isMethod) :
    (f.withCallStack ⟨frames'⟩).head.stackTrace = f.head.stackTrace ∧
      (f.withCallStack ⟨frames'⟩).traceback = f.traceback := by
  have hframes : (f.withCallStack ⟨frames'⟩).head.frames = some frames' := rfl
  have hcalls : (f.withCallStack ⟨frames'⟩).head.calls = f.head.calls := by
    rw [Record.calls_of_frames hframes, Record.calls_of_frames h, hmethods]
  refine ⟨?_, ?_⟩
  · rw [Record.stackTrace_of_frames hframes, Record.stackTrace_of_frames h, hcalls]
  · cases hlevel : f.head.kind.isScriptLevel with
    | true =>
      rw [traceback_eq_append hlevel, ← Record.callEntries_congr hcalls]
      exact traceback_eq_append hlevel
    | false =>
      have hlevel' : (f.withCallStack ⟨frames'⟩).head.kind.isScriptLevel = false := hlevel
      rw [traceback, traceback, levels_eq_nil hlevel, levels_eq_nil hlevel']

/-! ## The text of a record -/

theorem Record.display_eq {r : Record} (h : ¬ r.IsNative) :
    r.display = r.summary ++ if r.hasCallStack then "\n" ++ r.stackTrace else "" := by
  rw [display]
  cases hk : r.kind with
  | native typeName => exact absurd ⟨typeName, hk⟩ h
  | _ =>
    cases r.hasCallStack with
    | true => exact String.append_assoc
    | false => exact String.append_empty.symm

theorem Record.display_of_isNative {r : Record} (h : r.IsNative) : r.display = r.summary := by
  obtain ⟨typeName, hk⟩ := h
  rw [display, hk]

/-- **The text of a record ends with its stack trace.** -/
theorem display_eq (h : ¬ f.head.IsNative) :
    f.display = f.withoutCallStack.display ++
      if f.head.hasCallStack then "\n" ++ f.head.stackTrace else "" := by
  have hnone : f.withoutCallStack.display = f.head.summary :=
    (@Record.display_eq f.withoutCallStack.head h).trans String.append_empty
  rw [hnone]
  exact Record.display_eq h

/-- A call stack without frames shows in the text, by the line break before the stack trace.  The
text of an error of host or application code has no stack trace. -/
theorem display_ne_iff :
    f.withoutCallStack.display ≠ (f.withCallStack {}).display ↔ ¬ f.head.IsNative := by
  constructor
  · intro hne hnative
    have hnone : f.withoutCallStack.display = f.head.summary :=
      @Record.display_of_isNative f.withoutCallStack.head hnative
    exact hne (hnone.trans (@Record.display_of_isNative (f.withCallStack {}).head hnative).symm)
  · intro hnative heq
    have hempty : (f.withCallStack {}).display = f.withoutCallStack.display ++ ("\n" ++ "") :=
      @display_eq (f.withCallStack {}) hnative
    exact absurd (String.append_eq_left_iff.1 (hempty.symm.trans heq.symm)) (by decide)

/-! ## Both listings -/

/-- **The two listings agree.**  If a failure has a copy of a call stack, its stack trace has one
entry for each method call in it, newest first, and each entry ends with the place of the call if it
has one.  Within a traceback, however often a failure of the script is wrapped, the same entries
come one after the other, without those that have no place and in the other order; what comes before
them and after them has nothing to do with the copy.  Other frames show in neither listing, whether
they have a place or not.

In a run that enters and leaves frames and raises failures, the copy of a failure is of the frames
that were open when it was raised, and remains so, whatever happens to the call stack later.

The text of a failure is the same with and without a copy, but for the stack trace on a line of its
own; only that of an error of host or application code has no stack trace.  So a copy of an empty
call stack differs from none. -/
theorem listings_agree (f : Failure) :
    let bare := f.withoutCallStack
    let empty := f.withCallStack {}
    (∀ frames : List Frame, f.head.frames = some frames →
      let calls := (frames.filter Frame.isMethod).reverse
      f.head.stackTrace = String.join (calls.map fun call =>
        s!"\nCalled from method: {call.name}" ++ call.location.elim "" fun loc =>
          s!" : at Line: {loc.line} : in file: {loc.file} : {loc.text}") ∧
      (f.head.kind = .parsing ∨ f.head.kind = .evaluation ∨ f.head.kind = .target →
        ∀ (w : Failure) (outer : List Record), (∀ r ∈ outer, r.kind = .target) →
          w.chain = outer ++ f.chain →
          w.traceback = bare.traceback ++
            (calls.filterMap Frame.location).reverse.map
              (fun loc => ⟨loc.file, loc.line.toNat, loc.text⟩) ++
            outer.reverse.flatMap Record.callEntries ∧
          renderTraceback w.traceback = String.join
            (w.traceback.map fun e => s!"\n    at {e.file}:{e.line} '{e.text}'")) ∧
      ∀ (older newer : List Frame) (block : Frame), frames = older ++ block :: newer →
        block.isMethod = false →
        let others := f.withCallStack ⟨older ++ newer⟩
        others.head.stackTrace = f.head.stackTrace ∧ others.traceback = f.traceback) ∧
    (∀ before later : List Execution.Step,
      let e := Execution.afterAll {} before
      e.stack.frames.reverse = Execution.openFrames before.reverse 0 ∧
        (Execution.afterAll {} (before ++ .capture f :: later)).raised[e.raised.length]? =
          some (f.withCallStack e.stack)) ∧
    (¬ f.head.IsNative → f.display = bare.display ++
      if f.head.hasCallStack then "\n" ++ f.head.stackTrace else "") ∧
    bare.head.stackTrace ≠ empty.head.stackTrace ∧
    (bare.display ≠ empty.display ↔ ¬ f.head.IsNative) := by
  intro bare empty
  refine ⟨fun frames hframes => ⟨?_, ?_, ?_⟩, fun before later => ⟨?_, ?_⟩, display_eq, ?_,
    display_ne_iff⟩
  · rw [Record.stackTrace_of_frames hframes, Record.calls_of_frames hframes,
      funext Frame.stackLine_eq]
  · intro hkind w outer houter hchain
    have hlevel : f.head.kind.isScriptLevel = true := isScriptLevel_iff.2 hkind
    refine ⟨?_, rfl⟩
    rw [traceback_of_wrappers houter hchain hlevel, traceback_eq_append hlevel,
      Record.callEntries_eq_reverse, Record.calls_of_frames hframes]
    rfl
  · intro older newer block hsplit hblock
    refine listings_congr hframes ?_
    rw [hsplit, List.filter_append, List.filter_append, List.filter_cons, hblock,
      if_neg Bool.false_ne_true]
  · exact Execution.reverse_frames_afterAll before
  · exact Execution.raised_capture {} before later f
  · have hne : "<Unknown>" ≠ "" := by decide
    exact hne

/-- A failure below two method calls, one of them without a place, and a block that has one.  Inside
a wrapper, without the block, and after the script went on. -/
theorem listings_agree_block_with_place :
    let call : Location := ⟨"main", 9, "run()"⟩
    let older : Frame := .method "main" none
    let block : Frame := ⟨"if", false, some call⟩
    let newer : Frame := .method "run" (some call)
    let f : Failure := (Failure.new .evaluation "lost").withCallStack ⟨[older, block, newer]⟩
    let w : Failure := .target "called" f
    let before : List Execution.Step :=
      [.enter older, .enter block, .enter (.method "old" none), .leave, .enter newer]
    let later : List Execution.Step := [.leave, .leave, .enter (.method "new" (some call))]
    f.head.frames = some [older, block, newer] ∧ w.chain = [w.head] ++ f.chain ∧
      block.isMethod = false ∧
      f.head.stackTrace = "\nCalled from method: run : at Line: 9 : in file: main : run()" ++
        "\nCalled from method: main" ∧
      w.traceback = [.unknown, ⟨"main", 9, "run()"⟩] ∧
      (f.withCallStack ⟨[older, newer]⟩).traceback = f.traceback ∧
      (Execution.afterAll {} (before ++ .capture f :: later)).raised[0]? = some f ∧
      f.display = "lost: <at unknown location>\n" ++ f.head.stackTrace := by
  intro call older block newer f w before later
  obtain ⟨hlistings, hrun, hdisplay, -⟩ := listings_agree f
  obtain ⟨hstack, htraceback, hblock⟩ := hlistings [older, block, newer] rfl
  have hwrapped := htraceback (.inr (.inl rfl)) w [w.head] (by simp [w, target, new, causedBy]) rfl
  exact ⟨rfl, rfl, rfl, hstack.trans (by decide), hwrapped.1,
    (hblock [older] [newer] block rfl rfl).2, (hrun before later).2,
    hdisplay fun ⟨_, h⟩ => Kind.noConfusion h⟩

end Failure

end ScriptHost
