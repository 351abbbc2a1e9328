import Mathlib.Data.List.Forall2
import ScriptHost.Proofs.Output.Sinks

/-!
# What a sink is asked, and what a refusal stops

A `Recorder` is a sink that passes on to another one what it is asked, and keeps a record of it with
the answers.  Nobody can tell it from that other sink (`Recorder.simulation`), so the record of a
run tells what any sink would have been asked.

* `Offered` — the record of one pass: its characters in order, up to and including the first one
  that is refused.
* `Asks` — the record of a call that makes a pass.  Only a flush asks for more, and only if nothing
  was refused.
* `Bridge.record_afterAll` — the record of a run is made of these, one for each pass, so what was
  left of a refused pass is not offered again.
-/

set_option autoImplicit false

namespace ScriptHost

open ScriptHost.Action

/-! ## Keeping a record -/

/-- Something that a sink is asked. -/
inductive Sink.Request where
  | write (c : Char)
  | flush
  | close
  deriving DecidableEq, Repr

/-- What a sink was asked and what it answered, oldest first. -/
abbrev Sink.Record : Type := List (Sink.Request × Except IoError Unit)

/-- A sink with a record. -/
structure Recorder (σ : Type) where
  sink : σ
  record : Sink.Record := []

namespace Recorder

variable {σ : Type}

/-- Passes on a request, which the sink has answered in the given way. -/
def note (r : Recorder σ) (request : Sink.Request) (answer : Except IoError Unit × σ) :
    Except IoError Unit × Recorder σ :=
  (answer.1, ⟨answer.2, r.record ++ [(request, answer.1)]⟩)

instance [Sink σ] : Sink (Recorder σ) where
  write r c := r.note (.write c) (Sink.write r.sink c)
  flush r := r.note .flush (Sink.flush r.sink)
  close r := r.note .close (Sink.close r.sink)

/-- A recorder answers as its sink does. -/
theorem simulation [Sink σ] : Sink.Simulation fun (r : Recorder σ) (sink : σ) => r.sink = sink where
  write r sink c h := by subst h; exact ⟨rfl, rfl⟩
  flush r sink h := by subst h; exact ⟨rfl, rfl⟩

end Recorder

/-! ## The record of a pass -/

/-- `Offered text result record`: the characters were offered in order, up to and including the first
one that was refused; that is the result. -/
inductive Offered : List Char → Except IoError Unit → Sink.Record → Prop
  | nothing : Offered [] (.ok ()) []
  | taken (c : Char) {text : List Char} {result : Except IoError Unit} {record : Sink.Record} :
    Offered text result record → Offered (c :: text) result ((.write c, .ok ()) :: record)
  | refused (c : Char) (text : List Char) (e : IoError) :
    Offered (c :: text) (.error e) [(.write c, .error e)]

theorem Recorder.offered {σ : Type} [Sink σ] (r : Recorder σ) (text : List Char) :
    ∃ asked, (Sink.offer r text).2.record = r.record ++ asked ∧
      Offered text (Sink.offer r text).1 asked := by
  induction text generalizing r with
  | nil => exact ⟨[], (List.append_nil _).symm, .nothing⟩
  | cons c rest ih =>
    rw [Sink.offer]
    cases h : (Sink.write r.sink c).1 with
    | error e =>
      have hwrite : Sink.write r c =
          (.error e, ⟨(Sink.write r.sink c).2, r.record ++ [(.write c, .error e)]⟩) := by
        rw [← h]
        rfl
      rw [hwrite]
      exact ⟨_, rfl, .refused c rest e⟩
    | ok u =>
      have hwrite : Sink.write r c =
          (.ok (), ⟨(Sink.write r.sink c).2, r.record ++ [(.write c, .ok ())]⟩) := by
        rw [← h]
        rfl
      rw [hwrite]
      obtain ⟨asked, hrecord, hoffered⟩ :=
        ih ⟨(Sink.write r.sink c).2, r.record ++ [(.write c, .ok ())]⟩
      exact ⟨_, hrecord.trans (List.append_assoc ..), .taken c hoffered⟩

/-- `Asks text call result record`: the call has made a pass that decoded `text`, and has ended with
`result`. -/
inductive Asks (text : List Char) : Bridge.Call → Except IoError Unit → Sink.Record → Prop
  | pass {call : Bridge.Call} {result : Except IoError Unit} {record : Sink.Record} :
    call ≠ .flush → Offered text result record → Asks text call result record
  /-- After a refusal the sink is not flushed. -/
  | refused {e : IoError} {record : Sink.Record} :
    Offered text (.error e) record → Asks text .flush (.error e) record
  | flushed {result : Except IoError Unit} {record : Sink.Record} :
    Offered text (.ok ()) record → Asks text .flush result (record ++ [(.flush, result)])

namespace Bridge

variable {σ τ : Type}

/-! ## The record of a call -/

/-- A pass that was made. -/
structure Pass where
  /-- The call that made the pass. -/
  call : Call
  /-- What the pass decoded. -/
  text : List Char
  /-- How the call ended. -/
  result : Except IoError Unit

/-- The text of the pass that a call makes, if it makes one. -/
def Call.text? (b : Bridge σ) : Call → Option (List Char)
  | .writeByte byte =>
    if (b.receive byte).isDue byte then some (b.charset.decode (b.pending ++ [byte]) false).text
    else none
  | .decode last => some (b.charset.decode b.pending last).text
  | .flush => some (b.charset.decode b.pending true).text
  | .write _ | .writeAll _ | .close => none

section

variable [Sink σ]

/-- The passes of a run. -/
def passes (b : Bridge σ) : List Call → List Pass
  | [] => []
  | call :: rest =>
    (call.text? b).toList.map (⟨call, ·, ((perform call).run b).result⟩) ++
      (b.after call).passes rest

theorem asks_decode {b : Bridge (Recorder σ)} (hnone : b.ready = []) (last : Bool) :
    ∃ asked, ((decode last).run b).state.sink.record = b.sink.record ++ asked ∧
      Offered (b.charset.decode b.pending last).text ((decode last).run b).result asked := by
  simp only [decode, hnone, List.nil_append]
  exact b.sink.offered _

/-- **A call asks only for what it has decoded.** -/
theorem asks_of_text? {b : Bridge (Recorder σ)} (hnone : b.ready = []) {call : Call}
    {text : List Char} (h : call.text? b = some text) :
    ∃ asked, (b.after call).sink.record = b.sink.record ++ asked ∧
      Asks text call ((perform call).run b).result asked := by
  cases call with
  | writeByte byte =>
    rw [Call.text?] at h
    split at h
    · next hdue =>
      cases h
      obtain ⟨asked, hrecord, hoffered⟩ := asks_decode (b := b.receive byte) hnone false
      rw [after, perform, run_writeByte, if_pos hdue]
      exact ⟨asked, hrecord, .pass (fun heq => Call.noConfusion heq) hoffered⟩
    · contradiction
  | decode last =>
    cases h
    obtain ⟨asked, hrecord, hoffered⟩ := asks_decode hnone last
    exact ⟨asked, hrecord, .pass (fun heq => Call.noConfusion heq) hoffered⟩
  | flush =>
    cases h
    obtain ⟨asked, hrecord, hoffered⟩ := asks_decode hnone true
    rw [after, perform]
    cases hresult : ((decode true).run b).result with
    | error e =>
      rw [hresult] at hoffered
      rw [run_flush_of_error hresult]
      exact ⟨asked, hrecord, .refused hoffered⟩
    | ok u =>
      rw [hresult] at hoffered
      rw [run_flush_of_ok hresult]
      refine ⟨asked ++ [(.flush, _)], ?_, .flushed hoffered⟩
      rw [← List.append_assoc, ← hrecord]
      rfl
  | write bytes => contradiction
  | writeAll bytes => contradiction
  | close => contradiction

/-- A call that makes no pass asks nothing. -/
theorem after_of_text?_eq_none {b : Bridge σ} {call : Call} (hcall : call.isSingle)
    (h : call.text? b = none) : (b.after call).sink = b.sink := by
  cases call with
  | writeByte byte =>
    rw [Call.text?] at h
    split at h
    · contradiction
    · next hdue => rw [after, perform, run_writeByte, if_neg hdue, receive]
  | decode last => contradiction
  | flush => contradiction
  | write bytes => contradiction
  | writeAll bytes => contradiction
  | close => contradiction

/-! ## The record of a run -/

/-- **The record of a run is made of the records of its passes.** -/
theorem record_afterAll {b : Bridge (Recorder σ)} (hnone : b.ready = []) {calls : List Call}
    (hcalls : ∀ call ∈ calls, call.isSingle) :
    ∃ asked : List Sink.Record,
      List.Forall₂ (fun pass asked => Asks pass.text pass.call pass.result asked)
        (b.passes calls) asked ∧
      (b.afterAll calls).sink.record = b.sink.record ++ asked.flatten := by
  -- no character waits between two calls, so each call offers only what its own pass decodes
  induction calls generalizing b with
  | nil => exact ⟨[], .nil, (List.append_nil _).symm⟩
  | cons call rest ih =>
    obtain ⟨asked, hpasses, hrecord⟩ := ih ((lasting_perform call b).noneWaits hnone)
      fun call hmem => hcalls call (List.mem_cons_of_mem _ hmem)
    have hrest : (b.afterAll (call :: rest)).sink.record =
        (b.after call).sink.record ++ asked.flatten := hrecord
    cases htext : call.text? b with
    | none =>
      have hsame := after_of_text?_eq_none (hcalls call List.mem_cons_self) htext
      refine ⟨asked, ?_, by rw [hrest, hsame]⟩
      rw [passes, htext]
      exact hpasses
    | some text =>
      obtain ⟨first, hfirst, hasks⟩ := asks_of_text? hnone htext
      refine ⟨first :: asked, ?_, ?_⟩
      · rw [passes, htext]
        exact .cons hasks hpasses
      · rw [hrest, hfirst, List.flatten_cons, List.append_assoc]

end

/-! ## Two sinks -/

section

variable {b : Bridge σ} {b' : Bridge τ}

theorem InStep.text? (h : InStep b b') (call : Call) : call.text? b = call.text? b' := by
  cases call with
  | writeByte byte =>
    rw [Call.text?, Call.text?, (h.receive byte).isDue, h.charset, h.pending]
  | decode last => rw [Call.text?, Call.text?, h.charset, h.pending]
  | flush => rw [Call.text?, Call.text?, h.charset, h.pending]
  | write bytes => rfl
  | writeAll bytes => rfl
  | close => rfl

variable [Sink σ] [Sink τ]

/-- What the passes decode does not depend on the sink. -/
theorem InStep.text_passes (h : InStep b b') {calls : List Call}
    (hcalls : ∀ call ∈ calls, call.isSingle) :
    (b.passes calls).map Pass.text = (b'.passes calls).map Pass.text := by
  induction calls generalizing b b' with
  | nil => rfl
  | cons call rest ih =>
    have hrest := ih (inStep_after h (hcalls call List.mem_cons_self)).1
      fun call hmem => hcalls call (List.mem_cons_of_mem _ hmem)
    rw [passes, passes, List.map_append, List.map_append, hrest, h.text? call, List.map_map,
      List.map_map]
    rfl

/-- Sinks that answer the same get the same passes with the same results. -/
theorem passes_of_simulation {S : σ → τ → Prop} (hS : Sink.Simulation S) (h : Alike S 0 0 b b')
    {calls : List Call} (hcalls : ∀ call ∈ calls, call.isSingle) :
    b.passes calls = b'.passes calls ∧ Alike S 0 0 (b.afterAll calls) (b'.afterAll calls) := by
  induction calls generalizing b b' with
  | nil => exact ⟨rfl, h⟩
  | cons call rest ih =>
    have hcall : call ≠ .close := by
      rintro rfl
      exact absurd (hcalls _ List.mem_cons_self) Bool.false_ne_true
    obtain ⟨hresult, -, hstate⟩ := parallel_perform hS hcall b b' h
    obtain ⟨hpasses, hrest⟩ := ih hstate fun call hmem => hcalls call (List.mem_cons_of_mem _ hmem)
    have hinStep : InStep b b' :=
      ⟨trivial, h.charset, h.capacity, h.pending, h.ready, h.malformed⟩
    refine ⟨?_, hrest⟩
    rw [passes, passes, hinStep.text? call, hresult]
    exact congrArg _ hpasses

end

/-! ## Writes -/

section

variable [Sink σ]

/-- **A write takes the bytes up to and including the one whose pass was refused.** -/
theorem writeBytes_eq_error {b : Bridge σ} {bytes : List UInt8} {e : IoError}
    (h : ((writeBytes bytes).run b).result = .error e) :
    ∃ before byte rest, bytes = before ++ byte :: rest ∧
      ((writeBytes before).run b).result = .ok () ∧
      ((writeByte byte).run (b.afterAll (before.map .writeByte))).result = .error e ∧
      ((writeBytes bytes).run b).state = b.afterAll ((before ++ [byte]).map .writeByte) := by
  induction bytes generalizing b with
  | nil => contradiction
  | cons byte rest ih =>
    cases hbyte : ((writeByte byte).run b).result with
    | error e' =>
      rw [writeBytes, run_bind, andThen_of_error hbyte] at h ⊢
      cases h
      exact ⟨[], byte, rest, rfl, rfl, hbyte, rfl⟩
    | ok u =>
      rw [writeBytes, run_bind, andThen_of_ok hbyte] at h ⊢
      obtain ⟨before, byte', rest', rfl, hbefore, herror, hstate⟩ := ih h
      refine ⟨byte :: before, byte', rest', rfl, ?_, herror, hstate⟩
      rw [writeBytes, run_bind, andThen_of_ok hbyte]
      exact hbefore

/-- Only a pass can fail. -/
theorem isSome_text?_of_error {b : Bridge σ} {byte : UInt8} {e : IoError}
    (h : ((writeByte byte).run b).result = .error e) :
    ((Call.writeByte byte).text? b).isSome := by
  rw [run_writeByte] at h
  rw [Call.text?]
  split at h
  · next hdue => rw [if_pos hdue]; rfl
  · contradiction

theorem result_write (b : Bridge σ) (bytes : List UInt8) :
    ((write bytes).run b).result =
        (((writeBytes bytes).run b).result.map fun _ => bytes.length) ∧
      ((write bytes).run b).state = ((writeBytes bytes).run b).state := by
  rw [write, run_bind]
  rcases (writeBytes bytes).run b with ⟨_ | _, b', events⟩ <;> exact ⟨rfl, rfl⟩

end

/-! ## Refusals -/

section

variable [Sink σ] [Sink τ]

/-- **Refusals do not disturb decoding.**  Two channels that differ in their sinks and are asked the
same, byte by byte, have the same bytes pending, have counted the same malformed sequences and have
logged the same warnings, which account for the count.  Their passes decode the same texts.  A sink is
asked for the characters of each pass in order, up to and including the first one that it refuses;
that is how the call ends, and the sink is not flushed then.  Besides that it is asked nothing.

A write that fails has taken the bytes up to and including the one whose pass was refused. -/
theorem decoding_despite_refusals (sink : σ) (sink' : τ) (charset : Charset) (capacity : Nat)
    (calls : List Call) (hcalls : ∀ call ∈ calls, call.isSingle) :
    let b := withCapacity sink charset capacity
    let b' := withCapacity sink' charset capacity
    let recording := withCapacity (⟨sink, []⟩ : Recorder σ) charset capacity
    ((b.afterAll calls).pending = (b'.afterAll calls).pending ∧
        (b.afterAll calls).malformed = (b'.afterAll calls).malformed ∧
        b.log calls = b'.log calls ∧
        ∃ counts : List Nat, b.log calls = counts.map (.malformedOutput charset) ∧
          counts.sum = (b.afterAll calls).malformed) ∧
      ((b.passes calls).map Pass.text = (b'.passes calls).map Pass.text ∧
        (recording.afterAll calls).sink.sink = (b.afterAll calls).sink ∧
        ∃ asked : List Sink.Record,
          List.Forall₂ (fun pass asked => Asks pass.text pass.call pass.result asked)
            (b.passes calls) asked ∧
          (recording.afterAll calls).sink.record = asked.flatten) ∧
      ∀ (b : Bridge σ) bytes e, ((write bytes).run b).result = .error e →
        ∃ before byte rest, bytes = before ++ byte :: rest ∧
          let taken := b.afterAll (before.map .writeByte)
          ((write before).run b).result = .ok before.length ∧
          ((Call.writeByte byte).text? taken).isSome ∧
          ((writeByte byte).run taken).result = .error e ∧
          ((write bytes).run b).state = taken.after (.writeByte byte) := by
  intro b b' recording
  have hstart : InStep b b' := alike_withCapacity trivial charset capacity
  obtain ⟨hstep, hlog⟩ := inStep_afterAll hstart hcalls
  obtain ⟨counts, hcounts, hmalformed⟩ := b.log_eq calls
  refine ⟨⟨hstep.pending, hstep.malformed, hlog, counts, hcounts, ?_⟩,
    ⟨hstart.text_passes hcalls, ?_⟩, fun b bytes e herror => ?_⟩
  · exact (hmalformed.trans (Nat.zero_add _)).symm
  · have hsame : Alike (fun (r : Recorder σ) sink => r.sink = sink) 0 0 recording b :=
      ⟨rfl, rfl, rfl, rfl, rfl, rfl⟩
    obtain ⟨hpasses, hsink⟩ := passes_of_simulation Recorder.simulation hsame hcalls
    obtain ⟨asked, hasked, hrecord⟩ := record_afterAll (b := recording) rfl hcalls
    exact ⟨hsink.sink, asked, hpasses ▸ hasked, hrecord⟩
  · rw [(result_write b bytes).1] at herror
    obtain ⟨e', hwrite, rfl⟩ : ∃ e', ((writeBytes bytes).run b).result = .error e' ∧ e' = e := by
      cases hresult : ((writeBytes bytes).run b).result with
      | ok u => rw [hresult] at herror; contradiction
      | error e' => rw [hresult] at herror; exact ⟨e', rfl, Except.error.inj herror⟩
    obtain ⟨before, byte, rest, hbytes, hbefore, hrefused, hstate⟩ := writeBytes_eq_error hwrite
    refine ⟨before, byte, rest, hbytes, ?_, isSome_text?_of_error hrefused, hrefused, ?_⟩
    · rw [(result_write b before).1, hbefore]
      rfl
    · rw [(result_write b bytes).2, hstate, List.map_append, afterAll, List.foldl_append]
      rfl

/-- A text with room for one character, and one with room for all: after the refusal of the second
character, the second channel has more text, and the two go on in step. -/
theorem decoding_despite_refusals_full_sink :
    let calls : List Call := [.writeByte 0x61, .writeByte 0x62, .writeByte 0x63, .flush,
      .writeByte 0xE2, .decode false]
    let b := (withCapacity ({ room := 1 } : LimitedText) .utf8 0).afterAll calls
    let b' := (withCapacity "" .utf8 0).afterAll calls
    b.sink.text = "a" ∧ b'.sink = "abc" ∧ b.pending = b'.pending ∧ b.pending = [0xE2] := by
  intro calls b b'
  have hrun := decoding_despite_refusals ({ room := 1 } : LimitedText) "" .utf8 0 calls (by decide)
  exact ⟨by decide, by decide, hrun.1.1, by decide⟩

end

end Bridge

end ScriptHost
