import ScriptHost.Proofs.Output.Writers

/-!
# Sinks that have failed for good

When a sink refuses a character, the call that made the pass fails, and a write does not go on with
its other bytes.  From then on the channel is in another state than one whose sink takes everything,
and what its passes decode is something else.  But if the sink refuses everything after that, what
it holds stays the beginning of the whole text.

* `Sink.FailsForGood` — the sinks this is about.  What they hold may be characters or bytes, so a
  sink may fail inside a character.
* `Bridge.Lags` — two channels after the same calls, the other one's sink being a text that takes
  everything.  Either they are in step, or the first one has failed and is behind; then nothing that
  happens matters any more, as the one stands still (`keeps_stuck`) and the other one only grows
  (`keeps_grows`).
* `Bridge.held_prefix_afterAll` — a sink that has failed for good holds a prefix, with a buffer that
  was closed and a writer that is full as special cases.
-/

set_option autoImplicit false

namespace ScriptHost

open Utf8 ScriptHost.Action

/-! ## Failing for good -/

/-- A sink `held` what it was given, each character as `spell` says.  Once it has refused a
character it has `failed`, and then it refuses all others and holds what it held.  The character
that is refused first may have gone through in part. -/
structure Sink.FailsForGood {σ β : Type} [Sink σ] (spell : Char → List β) (held : σ → List β)
    (failed : σ → Prop) : Prop where
  taken : ∀ (sink : σ) (c : Char), (Sink.write sink c).1 = .ok () →
    held (Sink.write sink c).2 = held sink ++ spell c
  refused : ∀ (sink : σ) (c : Char) (e : IoError), (Sink.write sink c).1 = .error e →
    failed (Sink.write sink c).2 ∧ held (Sink.write sink c).2 <+: held sink ++ spell c
  stays : ∀ (sink : σ) (c : Char), failed sink →
    (∃ e, (Sink.write sink c).1 = .error e) ∧ held (Sink.write sink c).2 = held sink
  flush : ∀ sink : σ, (failed sink → failed (Sink.flush sink).2) ∧
    held (Sink.flush sink).2 = held sink

namespace Sink.FailsForGood

variable {σ β : Type} [Sink σ] {spell : Char → List β} {held : σ → List β} {failed : σ → Prop}

/-- Offered some characters, the sink takes all of them, or fails and holds a part of them. -/
theorem offer (h : FailsForGood spell held failed) (cs : List Char) (sink : σ) :
    ((Sink.offer sink cs).1 = .ok () →
        held (Sink.offer sink cs).2 = held sink ++ cs.flatMap spell) ∧
      ∀ e, (Sink.offer sink cs).1 = .error e →
        failed (Sink.offer sink cs).2 ∧
          held (Sink.offer sink cs).2 <+: held sink ++ cs.flatMap spell := by
  induction cs generalizing sink with
  | nil =>
    refine ⟨fun _ => (List.append_nil _).symm, fun e he => ?_⟩
    contradiction
  | cons c rest ih =>
    have htaken := h.taken sink c
    have hrefused := h.refused sink c
    rw [Sink.offer, List.flatMap_cons, ← List.append_assoc]
    generalize Sink.write sink c = written at htaken hrefused ⊢
    obtain ⟨e | _, next⟩ := written
    · obtain ⟨hfailed, hheld⟩ := hrefused e rfl
      refine ⟨fun hok => ?_, fun _ _ => ⟨hfailed, hheld.trans (List.prefix_append _ _)⟩⟩
      contradiction
    · rw [← htaken rfl]
      exact ih next

/-- What is left of a sink that has failed. -/
def Stuck (held : σ → List β) (failed : σ → Prop) (sink sink' : σ) : Prop :=
  failed sink → failed sink' ∧ held sink' = held sink

instance (held : σ → List β) (failed : σ → Prop) : IsPreorder σ (Stuck held failed) where
  refl _ h := ⟨h, rfl⟩
  trans _ _ _ h h' hfailed :=
    ⟨(h' (h hfailed).1).1, (h' (h hfailed).1).2.trans (h hfailed).2⟩

theorem stuck_write (h : FailsForGood spell held failed) (sink : σ) (c : Char) :
    Stuck held failed sink (Sink.write sink c).2 := by
  intro hfailed
  obtain ⟨⟨e, he⟩, hheld⟩ := h.stays sink c hfailed
  exact ⟨(h.refused sink c e he).1, hheld⟩

theorem stuck_flush (h : FailsForGood spell held failed) (sink : σ) :
    Stuck held failed sink (Sink.flush sink).2 :=
  fun hfailed => ⟨(h.flush sink).1 hfailed, (h.flush sink).2⟩

end Sink.FailsForGood

/-! ## What happens to the sink of a channel -/

namespace Bridge

/-- The sinks of the channels are related. -/
def OnSinks {σ : Type} (R : σ → σ → Prop) (b b' : Bridge σ) : Prop := R b.sink b'.sink

section

variable {σ : Type} [Sink σ] {R : σ → σ → Prop} [IsPreorder σ R]

instance : IsPreorder (Bridge σ) (OnSinks R) where
  refl b := refl b.sink
  trans b b' b'' h h' := IsTrans.trans b.sink b'.sink b''.sink h h'

theorem rel_offer (hwrite : ∀ sink c, R sink (Sink.write sink c).2) (cs : List Char) (sink : σ) :
    R sink (Sink.offer sink cs).2 := by
  induction cs generalizing sink with
  | nil => exact refl sink
  | cons c rest ih =>
    have hfirst := hwrite sink c
    rw [Sink.offer]
    generalize Sink.write sink c = written at hfirst ⊢
    obtain ⟨e | _, next⟩ := written
    · exact hfirst
    · exact IsTrans.trans _ _ _ hfirst (ih next)

/-- **What holds across everything a sink is asked holds across every call.** -/
theorem keeps_sink (hwrite : ∀ sink c, R sink (Sink.write sink c).2)
    (hflush : ∀ sink, R sink (Sink.flush sink).2) {call : Call}
    (hclose : call = .close → ∀ sink, R sink (Sink.close sink).2) :
    Keeps (OnSinks R) (perform call : Action IoError (Bridge σ) Unit) := by
  have hdecode (last : Bool) :
      Keeps (OnSinks R) (decode last : Action IoError (Bridge σ) Unit) :=
    fun b => rel_offer hwrite _ b.sink
  exact keeps_perform_of_writeByte (keeps_writeByte (fun b _ => refl b.sink) hdecode) hdecode
    (fun b => hflush b.sink) fun heq b => hclose heq b.sink

end

/-! ## Falling behind -/

/-- More text has come at the end. -/
def Grows (text text' : String) : Prop := text.toList <+: text'.toList

instance : IsPreorder String Grows where
  refl _ := List.prefix_rfl
  trans _ _ _ := List.IsPrefix.trans

section

variable {σ β : Type} {spell : Char → List β} {held : σ → List β} {failed : σ → Prop}
  {before : List β} {b b' : Bridge σ} {full full' : Bridge String}

/-- After the same calls a channel and one whose sink takes everything are in step, or the first
one's sink has failed and holds a part of what it would have to. -/
inductive Lags (spell : Char → List β) (held : σ → List β) (failed : σ → Prop) (before : List β)
    (b : Bridge σ) (full : Bridge String) : Prop
  | inStep (hstep : InStep b full)
      (hheld : held b.sink = before ++ full.sink.toList.flatMap spell)
  | behind (hfailed : failed b.sink)
      (hheld : held b.sink <+: before ++ full.sink.toList.flatMap spell)

theorem Lags.holds_beginning (h : Lags spell held failed before b full) :
    held b.sink <+: before ++ full.sink.toList.flatMap spell := by
  cases h with
  | inStep hstep hheld => exact hheld ▸ List.prefix_rfl
  | behind hfailed hheld => exact hheld

/-- From then on the one stands still and the other one only grows. -/
theorem lags_of_failed (hfailed : failed b.sink)
    (hheld : held b.sink <+: before ++ full.sink.toList.flatMap spell)
    (hstuck : Sink.FailsForGood.Stuck held failed b.sink b'.sink)
    (hgrows : Grows full.sink full'.sink) :
    Lags spell held failed before b' full' := by
  obtain ⟨hfailed', hsame⟩ := hstuck hfailed
  obtain ⟨more, hmore⟩ := hgrows
  refine .behind hfailed' ?_
  rw [hsame, ← hmore, List.flatMap_append, ← List.append_assoc]
  exact hheld.trans (List.prefix_append _ _)

/-- A text only grows. -/
theorem keeps_grows (call : Call) :
    Keeps (OnSinks Grows) (perform call : Action IoError (Bridge String) Unit) :=
  keeps_sink (R := Grows) (fun _ c => ⟨[c], (String.toList_push c).symm⟩) (fun _ => List.prefix_rfl)
    fun _ _ => List.prefix_rfl

/-- A text refuses nothing. -/
theorem result_decode_string (full : Bridge String) (last : Bool) :
    ((decode last).run full).result = .ok () := by
  obtain ⟨text, hoffer, -⟩ := Sink.offer_string full.sink
    (full.ready ++ (full.charset.decode full.pending last).text)
  exact congrArg Prod.fst hoffer

theorem result_writeByte_string (full : Bridge String) (byte : UInt8) :
    ((writeByte byte).run full).result = .ok () := by
  rw [run_writeByte]
  split
  · exact result_decode_string _ false
  · rfl

variable [Sink σ]

/-- A sink that has failed stands still. -/
theorem keeps_stuck (h : Sink.FailsForGood spell held failed) {call : Call}
    (hcall : call ≠ .close) :
    Keeps (OnSinks (Sink.FailsForGood.Stuck held failed))
      (perform call : Action IoError (Bridge σ) Unit) :=
  keeps_sink h.stuck_write h.stuck_flush fun heq => absurd heq hcall

/-- A pass leaves the channels in step, unless the sink fails in it. -/
theorem lags_decode (h : Sink.FailsForGood spell held failed) (hstep : InStep b full)
    (hheld : held b.sink = before ++ full.sink.toList.flatMap spell) (last : Bool) :
    Lags spell held failed before ((decode last).run b).state ((decode last).run full).state ∧
      ∀ e, ((decode last).run b).result = .error e → failed ((decode last).run b).state.sink := by
  have htext : full.ready ++ (full.charset.decode full.pending last).text =
      b.ready ++ (b.charset.decode b.pending last).text := by
    rw [← hstep.ready, ← hstep.charset, ← hstep.pending]
  -- both sinks are offered the same characters
  obtain ⟨text, hoffer, hgrown⟩ := Sink.offer_string full.sink
    (full.ready ++ (full.charset.decode full.pending last).text)
  obtain ⟨htaken, hrefused⟩ := h.offer (b.ready ++ (b.charset.decode b.pending last).text) b.sink
  have hgrown : ((decode last).run full).state.sink.toList.flatMap spell =
      full.sink.toList.flatMap spell ++
        (b.ready ++ (b.charset.decode b.pending last).text).flatMap spell := by
    rw [← List.flatMap_append, ← htext, ← hgrown]
    exact congrArg (fun offered => offered.2.toList.flatMap spell) hoffer
  have hall : before ++ ((decode last).run full).state.sink.toList.flatMap spell =
      held b.sink ++ (b.ready ++ (b.charset.decode b.pending last).text).flatMap spell := by
    rw [hgrown, hheld, List.append_assoc]
  refine ⟨?_, fun e he => (hrefused e he).1⟩
  cases hresult : ((decode last).run b).result with
  | ok u => exact .inStep (hstep.decode last).1 ((htaken hresult).trans hall.symm)
  | error e =>
    obtain ⟨hfailed, hpart⟩ := hrefused e hresult
    exact .behind hfailed (hall ▸ hpart)

/-- One byte, after which the sink may have failed. -/
theorem lags_writeByte (h : Sink.FailsForGood spell held failed) (hstep : InStep b full)
    (hheld : held b.sink = before ++ full.sink.toList.flatMap spell) (byte : UInt8) :
    Lags spell held failed before ((writeByte byte).run b).state
        ((writeByte byte).run full).state ∧
      ∀ e, ((writeByte byte).run b).result = .error e →
        failed ((writeByte byte).run b).state.sink := by
  rw [run_writeByte, run_writeByte, (hstep.receive byte).isDue]
  split
  · exact lags_decode h (hstep.receive byte) hheld false
  · refine ⟨.inStep (hstep.receive byte) hheld, fun e he => ?_⟩
    contradiction

/-- A write: when the sink fails, the channel takes no more bytes, and the other one goes on. -/
theorem lags_writeBytes (h : Sink.FailsForGood spell held failed) (hstep : InStep b full)
    (hheld : held b.sink = before ++ full.sink.toList.flatMap spell) (bytes : List UInt8) :
    Lags spell held failed before ((writeBytes bytes).run b).state
      ((writeBytes bytes).run full).state := by
  induction bytes generalizing b full with
  | nil => exact .inStep hstep hheld
  | cons byte rest ih =>
    obtain ⟨hfirst, hfails⟩ := lags_writeByte h hstep hheld byte
    have hgrows : Keeps (OnSinks Grows) (writeBytes rest : Action IoError (Bridge String) Unit) :=
      perform_write (σ := String) rest ▸ keeps_grows (.write rest)
    have hstuck : Keeps (OnSinks (Sink.FailsForGood.Stuck held failed))
        (writeBytes rest : Action IoError (Bridge σ) Unit) :=
      perform_write (σ := σ) rest ▸ keeps_stuck h Call.noConfusion
    have hfull := result_writeByte_string full byte
    rw [writeBytes, writeBytes, run_bind, run_bind, andThen_of_ok hfull]
    cases hresult : ((writeByte byte).run b).result with
    | error e =>
      rw [andThen_of_error hresult]
      exact lags_of_failed (hfails e hresult) hfirst.holds_beginning (refl _) (hgrows _)
    | ok u =>
      rw [andThen_of_ok hresult]
      cases hfirst with
      | inStep hstep' hheld' => exact ih hstep' hheld'
      | behind hfailed hpart => exact lags_of_failed hfailed hpart (hstuck _) (hgrows _)

theorem lags_flush (h : Sink.FailsForGood spell held failed) (hstep : InStep b full)
    (hheld : held b.sink = before ++ full.sink.toList.flatMap spell) :
    Lags spell held failed before ((flush : Action IoError (Bridge σ) Unit).run b).state
      ((flush : Action IoError (Bridge String) Unit).run full).state := by
  obtain ⟨hlags, -⟩ := lags_decode h hstep hheld true
  rw [run_flush_of_ok (result_decode_string full true)]
  cases hresult : ((decode true).run b).result with
  | error e =>
    rw [run_flush_of_error hresult]
    exact hlags
  | ok u =>
    rw [run_flush_of_ok hresult]
    obtain ⟨hstays, hkeeps⟩ := h.flush ((decode true).run b).state.sink
    cases hlags with
    | inStep hstep' hheld' =>
      obtain ⟨-, hcharset, hcapacity, hpending, hready, hmalformed⟩ := hstep'
      exact .inStep ⟨trivial, hcharset, hcapacity, hpending, hready, hmalformed⟩
        (hkeeps.trans hheld')
    | behind hfailed hpart => exact .behind (hstays hfailed) (hkeeps.symm ▸ hpart)

theorem Lags.after (h : Sink.FailsForGood spell held failed)
    (hlags : Lags spell held failed before b full) {call : Call} (hcall : call ≠ .close) :
    Lags spell held failed before (b.after call) (full.after call) := by
  cases hlags with
  | behind hfailed hheld =>
    exact lags_of_failed hfailed hheld (keeps_stuck h hcall b) (keeps_grows call full)
  | inStep hstep hheld =>
    cases call with
    | writeByte byte => exact (lags_writeByte h hstep hheld byte).1
    | write bytes =>
      rw [Bridge.after, Bridge.after, perform_write, perform_write]
      exact lags_writeBytes h hstep hheld bytes
    | writeAll bytes =>
      rw [Bridge.after, Bridge.after, perform_writeAll, perform_writeAll]
      exact lags_writeBytes h hstep hheld bytes
    | decode last => exact (lags_decode h hstep hheld last).1
    | flush => exact lags_flush h hstep hheld
    | close => exact absurd rfl hcall

theorem Lags.afterAll (h : Sink.FailsForGood spell held failed)
    (hlags : Lags spell held failed before b full) {calls : List Call} (hcalls : .close ∉ calls) :
    Lags spell held failed before (b.afterAll calls) (full.afterAll calls) := by
  refine List.foldl_rel hlags fun call hmem b full hlags => ?_
  exact hlags.after h (ne_of_mem_of_not_mem hmem hcalls)

end

end Bridge

/-! ## A buffer that was closed -/

theorem TextBuffer.write_eq (buffer : TextBuffer) (c : Char) :
    Sink.write buffer c =
      if buffer.closed then (.error .sinkClosed, buffer)
      else (.ok (), { buffer with text := buffer.text.push c }) := rfl

/-- An open buffer answers as a text does. -/
theorem TextBuffer.simulation :
    Sink.Simulation fun (buffer : TextBuffer) (text : String) =>
      buffer.closed = false ∧ buffer.text = text where
  write := by
    rintro buffer text c ⟨hopen, rfl⟩
    rw [write_eq, if_neg (ne_true_of_eq_false hopen)]
    exact ⟨rfl, hopen, rfl⟩
  flush := by
    rintro buffer text ⟨hopen, rfl⟩
    exact ⟨rfl, hopen, rfl⟩

/-- A closed buffer has failed. -/
theorem TextBuffer.failsForGood :
    Sink.FailsForGood (fun c => [c]) (fun buffer : TextBuffer => buffer.text.toList)
      (fun buffer => buffer.closed = true) where
  taken buffer c h := by
    rw [write_eq] at h ⊢
    split at h
    · contradiction
    · next hopen =>
      rw [if_neg hopen]
      exact String.toList_push c
  refused buffer c e h := by
    rw [write_eq] at h ⊢
    split at h
    · next hclosed =>
      rw [if_pos hclosed]
      exact ⟨hclosed, List.prefix_append _ _⟩
    · contradiction
  stays buffer c h := by
    rw [write_eq, if_pos h]
    exact ⟨⟨.sinkClosed, rfl⟩, rfl⟩
  flush _ := ⟨id, rfl⟩

theorem TextBuffer.offer_of_closed {buffer : TextBuffer} (h : buffer.closed = true)
    {text : List Char} (htext : text ≠ []) :
    Sink.offer buffer text = (.error .sinkClosed, buffer) := by
  obtain ⟨c, rest, rfl⟩ := List.exists_cons_of_ne_nil htext
  have hwrite : Sink.write buffer c = (.error .sinkClosed, buffer) := if_pos h
  rw [Sink.offer, hwrite]

namespace Bridge

/-- `call.Decodes b d`: the channel makes a pass in the call, and the outcome is `d`.  In a write
there is a pass at each byte that the write gets to and for which one is due. -/
inductive Call.Decodes {σ : Type} [Sink σ] : Bridge σ → Call → Decoded → Prop
  | decode {b : Bridge σ} (last : Bool) :
      Decodes b (.decode last) (b.charset.decode b.pending last)
  | flush {b : Bridge σ} : Decodes b .flush (b.charset.decode b.pending true)
  | writeByte {b : Bridge σ} {byte : UInt8} (hdue : (b.receive byte).isDue byte = true) :
      Decodes b (.writeByte byte) (b.charset.decode (b.pending ++ [byte]) false)
  | write {b : Bridge σ} {bytes rest : List UInt8} {byte : UInt8} {d : Decoded}
      (hbytes : ((writeBytes bytes).run b).result = .ok ())
      (hbyte : Decodes ((writeBytes bytes).run b).state (.writeByte byte) d) :
      Decodes b (.write (bytes ++ byte :: rest)) d
  | writeAll {b : Bridge σ} {bytes rest : List UInt8} {byte : UInt8} {d : Decoded}
      (hbytes : ((writeBytes bytes).run b).result = .ok ())
      (hbyte : Decodes ((writeBytes bytes).run b).state (.writeByte byte) d) :
      Decodes b (.writeAll (bytes ++ byte :: rest)) d

section

variable {b : Bridge TextBuffer}

/-- The channel ends in a closed buffer, and no character waits. -/
structure Closed (b : Bridge TextBuffer) : Prop where
  closed : b.sink.closed = true
  noneWaits : b.ready = []

/-- The outcome is the refusal of a closed buffer, and nothing is pending but what the pass has
left. -/
structure Lost (d : Decoded) (o : Outcome IoError (Bridge TextBuffer) Unit) : Prop where
  result : o.result = .error .sinkClosed
  pending : o.state.pending = d.rest

theorem Closed.lost_decode (h : Closed b) (last : Bool)
    (htext : (b.charset.decode b.pending last).text ≠ []) :
    Lost (b.charset.decode b.pending last) ((decode last).run b) := by
  have hoffer : Sink.offer b.sink (b.ready ++ (b.charset.decode b.pending last).text) =
      (.error .sinkClosed, b.sink) := by
    rw [h.noneWaits]
    exact TextBuffer.offer_of_closed h.closed htext
  refine ⟨congrArg Prod.fst hoffer, ?_⟩
  cases last with
  | false => rfl
  | true => exact (b.charset.decode_rest b.pending true).symm

/-- A closed buffer stays closed, and keeps its text. -/
theorem keeps_closed (call : Call) :
    Keeps (OnSinks (Sink.FailsForGood.Stuck (fun buffer : TextBuffer => buffer.text.toList)
      fun buffer => buffer.closed = true))
      (perform call : Action IoError (Bridge TextBuffer) Unit) :=
  keeps_sink TextBuffer.failsForGood.stuck_write TextBuffer.failsForGood.stuck_flush
    fun _ _ _ => ⟨rfl, rfl⟩

theorem Closed.after (h : Closed b) (call : Call) : Closed (b.after call) :=
  ⟨(keeps_closed call b h.closed).1, (lasting_perform call b).noneWaits h.noneWaits⟩

theorem Closed.text_after (h : Closed b) (call : Call) :
    (b.after call).sink.text = b.sink.text :=
  String.toList_inj.1 (keeps_closed call b h.closed).2

theorem Closed.afterAll (h : Closed b) (calls : List Call) :
    Closed (b.afterAll calls) ∧ (b.afterAll calls).sink.text = b.sink.text := by
  induction calls generalizing b with
  | nil => exact ⟨h, rfl⟩
  | cons call rest ih =>
    obtain ⟨hrest, htext⟩ := ih (h.after call)
    exact ⟨hrest, htext.trans (h.text_after call)⟩

theorem writeBytes_append {σ : Type} [Sink σ] (bytes bytes' : List UInt8) :
    (writeBytes (bytes ++ bytes') : Action IoError (Bridge σ) Unit) =
      writeBytes bytes >>= fun _ => writeBytes bytes' := by
  induction bytes with
  | nil => rw [List.nil_append, writeBytes, pure_bind]
  | cons byte rest ih => rw [List.cons_append, writeBytes, writeBytes, ih, bind_assoc]

theorem Closed.lost_writeByte (h : Closed b) {byte : UInt8} {d : Decoded}
    (hd : (Call.writeByte byte).Decodes b d) (htext : d.text ≠ []) :
    Lost d ((writeByte byte).run b) := by
  cases hd with
  | writeByte hdue =>
    have hreceive : Closed (b.receive byte) := ⟨h.closed, h.noneWaits⟩
    obtain ⟨hresult, hpending⟩ := hreceive.lost_decode false htext
    rw [run_writeByte, if_pos hdue]
    exact ⟨hresult, hpending⟩

theorem Closed.lost_writeBytes (h : Closed b) {bytes rest : List UInt8} {byte : UInt8} {d : Decoded}
    (hbytes : ((writeBytes bytes).run b).result = .ok ())
    (hbyte : (Call.writeByte byte).Decodes ((writeBytes bytes).run b).state d)
    (htext : d.text ≠ []) : Lost d ((writeBytes (bytes ++ byte :: rest)).run b) := by
  have hclosed : Closed ((writeBytes bytes).run b).state := by
    rw [← perform_write]
    exact h.after (.write bytes)
  obtain ⟨hresult, hpending⟩ := hclosed.lost_writeByte hbyte htext
  rw [writeBytes_append, run_bind, andThen_of_ok hbytes, writeBytes, run_bind,
    andThen_of_error hresult]
  exact ⟨rfl, hpending⟩

/-- **A pass that decodes a character is refused,** and what it has decoded is gone. -/
theorem Closed.lost_perform (h : Closed b) {call : Call} {d : Decoded} (hd : call.Decodes b d)
    (htext : d.text ≠ []) : Lost d ((perform call).run b) := by
  cases hd with
  | decode last => exact h.lost_decode last htext
  | flush =>
    obtain ⟨hresult, hpending⟩ := h.lost_decode true htext
    rw [perform, run_flush_of_error hresult]
    exact ⟨rfl, hpending⟩
  | writeByte hdue => exact h.lost_writeByte (.writeByte hdue) htext
  | write hbytes hbyte =>
    rw [perform_write]
    exact h.lost_writeBytes hbytes hbyte htext
  | writeAll hbytes hbyte =>
    rw [perform_writeAll]
    exact h.lost_writeBytes hbytes hbyte htext

end

end Bridge

/-! ## A writer that is full -/

theorem Utf8Sink.write_bounded (writer : BoundedWriter) (c : Char) :
    Sink.write (⟨writer⟩ : Utf8Sink BoundedWriter) c =
      (if (encode c).length ≤ writer.room - writer.bytes.length then .ok () else .error .shortWrite,
        ⟨{ writer with
          bytes := writer.bytes ++ (encode c).take (writer.room - writer.bytes.length) }⟩) := by
  simp only [Sink.write, BoundedWriter.writeAll_eq]

/-- A full writer has failed, perhaps inside a character. -/
theorem BoundedWriter.failsForGood :
    Sink.FailsForGood encode (fun sink : Utf8Sink BoundedWriter => sink.writer.bytes)
      (fun sink => sink.writer.room ≤ sink.writer.bytes.length) where
  taken := by
    rintro ⟨writer⟩ c h
    rw [Utf8Sink.write_bounded] at h ⊢
    dsimp only at h ⊢
    split at h
    · next hfits => rw [List.take_of_length_le hfits]
    · contradiction
  refused := by
    rintro ⟨writer⟩ c e h
    rw [Utf8Sink.write_bounded] at h ⊢
    dsimp only at h ⊢
    split at h
    · contradiction
    · next hfull =>
      refine ⟨?_, (List.prefix_append_right_inj _).2 (List.take_prefix _ _)⟩
      rw [List.length_append, List.length_take]
      omega
  stays := by
    rintro ⟨writer⟩ c h
    have hfull : writer.room - writer.bytes.length = 0 := Nat.sub_eq_zero_of_le h
    have hlength : ¬ (encode c).length ≤ 0 := by
      rw [Nat.le_zero]
      exact fun hnil => encode_ne_nil c (List.length_eq_zero_iff.1 hnil)
    rw [Utf8Sink.write_bounded, hfull, if_neg hlength]
    exact ⟨⟨.shortWrite, rfl⟩, by rw [List.take_zero, List.append_nil]⟩
  flush _ := ⟨id, rfl⟩

/-- A writer that is not over its room stays so. -/
def BoundedWriter.Within (sink sink' : Utf8Sink BoundedWriter) : Prop :=
  sink'.writer.room = sink.writer.room ∧ (sink.writer.bytes.length ≤ sink.writer.room →
    sink'.writer.bytes.length ≤ sink'.writer.room)

instance : IsPreorder (Utf8Sink BoundedWriter) BoundedWriter.Within where
  refl _ := ⟨rfl, id⟩
  trans _ _ _ h h' := ⟨h'.1.trans h.1, h'.2 ∘ h.2⟩

theorem BoundedWriter.within_write (sink : Utf8Sink BoundedWriter) (c : Char) :
    Within sink (Sink.write sink c).2 := by
  obtain ⟨writer⟩ := sink
  rw [Utf8Sink.write_bounded]
  refine ⟨rfl, fun hle => ?_⟩
  dsimp only at hle ⊢
  rw [List.length_append, List.length_take]
  omega

/-! ## Whole runs -/

namespace Bridge

/-- The text that a run leaves in a sink which takes everything. -/
def transcript (charset : Charset) (capacity : Nat) (calls : List Call) : List Char :=
  ((withCapacity "" charset capacity).afterAll calls).sink.toList

theorem afterAll_append {σ : Type} [Sink σ] (b : Bridge σ) (calls later : List Call) :
    b.afterAll (calls ++ later) = (b.afterAll calls).afterAll later :=
  List.foldl_append

/-- A text that was there stays. -/
theorem transcript_prefix_append (charset : Charset) (capacity : Nat) (calls later : List Call) :
    transcript charset capacity calls <+: transcript charset capacity (calls ++ later) := by
  rw [transcript, transcript, afterAll_append]
  exact keeps_afterAll (fun call _ => keeps_grows call) _

theorem lags_afterAll {σ β : Type} [Sink σ] {spell : Char → List β} {held : σ → List β}
    {failed : σ → Prop} (h : Sink.FailsForGood spell held failed) (charset : Charset)
    (capacity : Nat) (sink : σ) {calls : List Call} (hcalls : .close ∉ calls) :
    Lags spell held failed (held sink) ((withCapacity sink charset capacity).afterAll calls)
      ((withCapacity "" charset capacity).afterAll calls) :=
  Lags.afterAll h (.inStep (alike_withCapacity trivial charset capacity)
    (by rw [withCapacity, withCapacity, String.toList_empty, List.flatMap_nil, List.append_nil]))
    hcalls

/-- **A bounded writer holds the first bytes of the text,** as many as there is room for. -/
theorem bytes_afterAll (charset : Charset) (capacity room : Nat) {calls : List Call}
    (hcalls : .close ∉ calls) :
    ((withCapacity (⟨{ room }⟩ : Utf8Sink BoundedWriter) charset capacity).afterAll
        calls).sink.writer.bytes =
      (encodeAll (transcript charset capacity calls)).take room := by
  have hkeeps (call : Call) : Keeps (OnSinks BoundedWriter.Within)
      (perform call : Action IoError (Bridge (Utf8Sink BoundedWriter)) Unit) :=
    keeps_sink BoundedWriter.within_write (fun _ => ⟨rfl, id⟩) fun _ _ => ⟨rfl, id⟩
  obtain ⟨hroom, hwithin⟩ := keeps_afterAll (fun call (_ : call ∈ calls) => hkeeps call)
    (withCapacity ⟨{ room }⟩ charset capacity)
  have hlags := lags_afterAll BoundedWriter.failsForGood charset capacity ⟨{ room }⟩ hcalls
  generalize
    (withCapacity (⟨{ room }⟩ : Utf8Sink BoundedWriter) charset capacity).afterAll calls = b
    at hroom hwithin hlags
  have hroom : b.sink.writer.room = room := hroom
  have hle : b.sink.writer.bytes.length ≤ room := hroom ▸ hwithin (Nat.zero_le room)
  cases hlags with
  | inStep hstep hheld =>
    rw [← List.take_of_length_le hle]
    exact congrArg (List.take room) hheld
  | behind hfailed hheld =>
    have hlength : b.sink.writer.bytes.length = room := Nat.le_antisymm hle (hroom ▸ hfailed)
    exact (List.prefix_iff_eq_take.1 hheld).trans (by rw [hlength]; rfl)

/-- **A sink that has failed for good holds a prefix** of what it would hold otherwise, after any
run of writes, passes and flushes.

A buffer that was closed keeps its text, whoever has closed it.  Each pass after that which decodes
a character is refused, and the bytes are gone.  A bounded writer holds as much of the encoded text
as there is room for, even if that cuts a character. -/
theorem held_prefix_afterAll (charset : Charset) (capacity : Nat) :
    (∀ {σ : Type} [Sink σ] (held : σ → List Char) (failed : σ → Prop),
        Sink.FailsForGood (fun c => [c]) held failed →
        ∀ (sink : σ) (calls : List Call), held sink = [] → .close ∉ calls →
          held ((withCapacity sink charset capacity).afterAll calls).sink <+:
            transcript charset capacity calls) ∧
      (∀ (buffer : TextBuffer) (calls later : List Call),
        let b := (withCapacity buffer charset capacity).afterAll calls
        let closed := b.after .close
        let now := closed.afterAll later
        closed = { b with sink := { b.sink with closed := true } } ∧
          now.sink.text = b.sink.text ∧
          (buffer = {} → .close ∉ calls →
            now.sink.text.toList = transcript charset capacity calls ∧
              now.sink.text.toList <+: transcript charset capacity (calls ++ later)) ∧
          ∀ (call : Call) (d : Decoded), call.Decodes now d → d.text ≠ [] →
            ((perform call).run now).result = .error .sinkClosed ∧
              (now.after call).sink.text = b.sink.text ∧ (now.after call).pending = d.rest) ∧
      ∀ (room : Nat) (calls : List Call), .close ∉ calls →
        ((withCapacity (⟨{ room }⟩ : Utf8Sink BoundedWriter) charset capacity).afterAll
            calls).sink.writer.bytes =
          (encodeAll (transcript charset capacity calls)).take room := by
  refine ⟨fun {σ} _ held failed h sink calls hempty hcalls => ?_, fun buffer calls later => ?_,
    fun room calls hcalls => bytes_afterAll charset capacity room hcalls⟩
  · have hprefix := (lags_afterAll h charset capacity sink hcalls).holds_beginning
    rwa [hempty, List.nil_append, List.flatMap_singleton'] at hprefix
  · intro b closed now
    have hlasting : Lasting (withCapacity buffer charset capacity) b :=
      keeps_afterAll (fun call _ => lasting_perform call) _
    have hclosed : Closed closed := ⟨rfl, hlasting.noneWaits rfl⟩
    obtain ⟨hnow, htext⟩ := hclosed.afterAll later
    refine ⟨rfl, htext, fun hbuffer hcalls => ?_, fun call d hd hne => ?_⟩
    · have hopen := alike_afterAll TextBuffer.simulation (b := withCapacity buffer charset capacity)
        (alike_withCapacity ⟨congrArg TextBuffer.closed hbuffer, congrArg TextBuffer.text hbuffer⟩
          charset capacity) hcalls
      have hheld : now.sink.text.toList = transcript charset capacity calls :=
        congrArg String.toList (htext.trans hopen.sink.2)
      exact ⟨hheld, hheld ▸ transcript_prefix_append charset capacity calls later⟩
    · obtain ⟨hresult, hpending⟩ := hnow.lost_perform hd hne
      exact ⟨hresult, (hnow.text_after call).trans htext, hpending⟩

/-- A writer that is full after the second byte of a character, and a buffer that is closed while a
byte is pending. -/
theorem held_prefix_afterAll_cut_character :
    let calls : List Call := [.write [0x61, 0xE2, 0x82, 0xAC, 0x0A], .write [0x62], .flush]
    let b := (withCapacity (⟨{ room := 3 }⟩ : Utf8Sink BoundedWriter) .utf8 0).afterAll calls
    let b' := (withCapacity ({} : TextBuffer) .utf8 0).afterAll
      [.write [0x61, 0x0A, 0x62], .close, .writeByte 0x63]
    b.sink.writer.bytes = [0x61, 0xE2, 0x82] ∧
      ((withCapacity ({} : TextBuffer) .utf8 0).afterAll calls).sink.text.toList <+:
        transcript .utf8 0 calls ∧
      b'.sink.text.toList <+: transcript .utf8 0 [.write [0x61, 0x0A, 0x62], .writeByte 0x63] ∧
      b'.sink.text.toList = ['a', '\n'] ∧
      ((perform .flush).run b').result = .error .sinkClosed ∧ (b'.after .flush).pending = [] := by
  intro calls b b'
  obtain ⟨hheld, hclosed, hwriter⟩ := held_prefix_afterAll .utf8 0
  obtain ⟨-, -, hprefix, hlost⟩ := hclosed {} [.write [0x61, 0x0A, 0x62]] [.writeByte 0x63]
  obtain ⟨htext, hlater⟩ := hprefix rfl (by decide)
  obtain ⟨hresult, -, hpending⟩ := hlost .flush _ .flush (by decide)
  exact ⟨(hwriter 3 calls (by decide)).trans (by decide),
    hheld _ _ TextBuffer.failsForGood {} calls rfl (by decide), hlater,
    htext.trans (by decide), hresult, hpending.trans (by decide)⟩

end Bridge

end ScriptHost
