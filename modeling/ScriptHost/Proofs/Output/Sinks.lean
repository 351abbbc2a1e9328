import Mathlib.Algebra.GroupWithZero.Nat
import ScriptHost.Proofs.Action.Relations
import ScriptHost.Proofs.Output.Calls

/-!
# Channels that differ in their sinks

A channel decodes its bytes in the same way whatever its sink does.  This file compares two channels
that are `Bridge.Alike`: they agree in everything but their sinks, and their sinks are related in
some way.

* `Bridge.inStep_after` — if nothing is known of the sinks, the channels still decode in step, as
  long as no call takes more than one byte.
* `Bridge.parallel_perform` — if the one sink answers just as the other one does, then so do the
  channels.

It begins with the equations that say what a call does in terms of passes, `run_writeByte` and
`run_flush_of_ok`, and with what holds across every call because it holds across every pass.
-/

set_option autoImplicit false

namespace ScriptHost

open ScriptHost.Action

namespace Bridge

variable {σ τ α β : Type}

/-! ## Calls in terms of passes -/

/-- A byte arrives. -/
def receive (b : Bridge σ) (byte : UInt8) : Bridge σ := { b with pending := b.pending ++ [byte] }

/-- What the calls of a run log. -/
def log [Sink σ] (b : Bridge σ) : List Call → List Event
  | [] => []
  | call :: rest => ((perform call).run b).events ++ (b.after call).log rest

section

variable [Sink σ] {b : Bridge σ}

theorem run_writeByte (b : Bridge σ) (byte : UInt8) :
    (writeByte byte).run b =
      if (b.receive byte).isDue byte then (decode false).run (b.receive byte)
      else ⟨.ok (), b.receive byte, []⟩ := by
  simp only [writeByte, run_bind, run_modify, run_get, andThen_ok, List.nil_append, receive]
  split
  · next h => exact (if_pos h).symm
  · next h => exact (if_neg h).symm

/-- If the last pass goes well, a flush is up to the sink. -/
theorem run_flush_of_ok (h : ((decode true).run b).result = .ok ()) :
    (flush : Action IoError (Bridge σ) Unit).run b =
      let passed := (decode true).run b
      let flushed := Sink.flush passed.state.sink
      ⟨flushed.1, { passed.state with sink := flushed.2 }, passed.events⟩ := by
  rw [flush, run_bind, andThen_of_ok h]
  simp only [onSink, List.append_nil]

/-- If it does not, the sink is not flushed. -/
theorem run_flush_of_error {e : IoError} (h : ((decode true).run b).result = .error e) :
    (flush : Action IoError (Bridge σ) Unit).run b =
      ⟨.error e, ((decode true).run b).state, ((decode true).run b).events⟩ := by
  rw [flush, run_bind, andThen_of_error h]

end

/-! ## What holds across every call -/

section

variable [Sink σ]

section

variable {R : Bridge σ → Bridge σ → Prop} [IsPreorder (Bridge σ) R]

theorem keeps_writeByte (hreceive : ∀ b byte, R b (b.receive byte))
    (hdecode : ∀ last, Keeps R (decode last : Action IoError (Bridge σ) Unit)) (byte : UInt8) :
    Keeps R (writeByte byte : Action IoError (Bridge σ) Unit) := by
  intro b
  rw [run_writeByte]
  split
  · exact IsTrans.trans _ _ _ (hreceive b byte) (hdecode false _)
  · exact hreceive b byte

theorem keeps_writeBytes
    (hwriteByte : ∀ byte, Keeps R (writeByte byte : Action IoError (Bridge σ) Unit))
    (bytes : List UInt8) : Keeps R (writeBytes bytes : Action IoError (Bridge σ) Unit) := by
  induction bytes with
  | nil => exact keeps_pure ()
  | cons byte rest ih => exact (hwriteByte byte).bind fun _ => ih

/-- **What holds across each byte and each pass holds across every call,** as long as the sink does
its part when it is flushed or closed. -/
theorem keeps_perform_of_writeByte
    (hwriteByte : ∀ byte, Keeps R (writeByte byte : Action IoError (Bridge σ) Unit))
    (hdecode : ∀ last, Keeps R (decode last : Action IoError (Bridge σ) Unit))
    (hflush : Keeps R (onSink Sink.flush : Action IoError (Bridge σ) Unit)) {call : Call}
    (hclose : call = .close → Keeps R (onSink Sink.close : Action IoError (Bridge σ) Unit)) :
    Keeps R (perform call : Action IoError (Bridge σ) Unit) := by
  have hwriteBytes := keeps_writeBytes hwriteByte
  cases call with
  | writeByte byte => exact hwriteByte byte
  | write bytes => exact perform_write (σ := σ) bytes ▸ hwriteBytes bytes
  | writeAll bytes => exact perform_writeAll (σ := σ) bytes ▸ hwriteBytes bytes
  | decode last => exact hdecode last
  | flush => exact (hdecode true).bind fun _ => hflush
  | close => exact hclose rfl

/-- **What holds across each pass holds across every call.** -/
theorem keeps_perform (hreceive : ∀ b byte, R b (b.receive byte))
    (hdecode : ∀ last, Keeps R (decode last : Action IoError (Bridge σ) Unit))
    (hsink : ∀ (b : Bridge σ) (sink : σ), R b { b with sink }) (call : Call) :
    Keeps R (perform call : Action IoError (Bridge σ) Unit) :=
  keeps_perform_of_writeByte (keeps_writeByte hreceive hdecode) hdecode (fun b => hsink b _)
    fun _ b => hsink b _

/-- **What holds across every call holds across every run.** -/
theorem keeps_afterAll {calls : List Call}
    (h : ∀ call ∈ calls, Keeps R (perform call : Action IoError (Bridge σ) Unit)) (b : Bridge σ) :
    R b (b.afterAll calls) := by
  induction calls generalizing b with
  | nil => exact refl b
  | cons call rest ih =>
    exact IsTrans.trans _ _ _ (h call List.mem_cons_self b)
      (ih (fun call hmem => h call (List.mem_cons_of_mem _ hmem)) (b.after call))

end

/-- Charset and capacity are those of the channel for good, and no character waits between two
calls if none did before. -/
structure Lasting (b b' : Bridge σ) : Prop where
  charset : b'.charset = b.charset
  capacity : b'.capacity = b.capacity
  noneWaits : b.ready = [] → b'.ready = []

instance : IsPreorder (Bridge σ) Lasting where
  refl _ := ⟨rfl, rfl, id⟩
  trans _ _ _ h h' := ⟨h'.charset.trans h.charset, h'.capacity.trans h.capacity,
    fun hnone => h'.noneWaits (h.noneWaits hnone)⟩

theorem lasting_write (bytes : List UInt8) :
    Keeps Lasting (write bytes : Action IoError (Bridge σ) Nat) :=
  (keeps_writeBytes (keeps_writeByte (fun _ _ => ⟨rfl, rfl, id⟩)
    fun _ _ => ⟨rfl, rfl, fun _ => rfl⟩) bytes).bind fun _ => keeps_pure _

theorem lasting_perform (call : Call) :
    Keeps Lasting (perform call : Action IoError (Bridge σ) Unit) :=
  keeps_perform (fun _ _ => ⟨rfl, rfl, id⟩) (fun _ _ => ⟨rfl, rfl, fun _ => rfl⟩)
    (fun _ _ => ⟨rfl, rfl, id⟩) call

end

/-! ### The warnings -/

/-- What the action logs are warnings, and they tell how many malformed sequences it has counted. -/
def Tallies (x : Action IoError (Bridge σ) α) : Prop :=
  ∀ b, ∃ counts : List Nat, (x.run b).events = counts.map (Event.malformedOutput b.charset) ∧
    (x.run b).state.malformed = b.malformed + counts.sum ∧ (x.run b).state.charset = b.charset

theorem tallies_pure (a : α) : Tallies (pure a : Action IoError (Bridge σ) α) :=
  fun _ => ⟨[], rfl, rfl, rfl⟩

theorem Tallies.bind {x : Action IoError (Bridge σ) α} {f : α → Action IoError (Bridge σ) β}
    (hx : Tallies x) (hf : ∀ a, Tallies (f a)) : Tallies (x >>= f) := by
  intro b
  obtain ⟨counts, hevents, hmalformed, hcharset⟩ := hx b
  rw [run_bind]
  generalize x.run b = o at hevents hmalformed hcharset ⊢
  obtain ⟨_ | a, b', events⟩ := o
  · exact ⟨counts, hevents, hmalformed, hcharset⟩
  · obtain ⟨counts', hevents', hmalformed', hcharset'⟩ := hf a b'
    refine ⟨counts ++ counts', ?_, ?_, hcharset'.trans hcharset⟩
    · rw [List.map_append, ← hevents, ← hcharset, ← hevents']
      rfl
    · rw [List.sum_append, ← Nat.add_assoc, ← hmalformed, ← hmalformed']
      rfl

theorem tallies_onSink (f : σ → Except IoError Unit × σ) : Tallies (onSink f) :=
  fun _ => ⟨[], rfl, rfl, rfl⟩

section

variable [Sink σ]

theorem tallies_decode (last : Bool) : Tallies (decode last : Action IoError (Bridge σ) Unit) := by
  intro b
  by_cases h : (b.charset.decode b.pending last).malformed = 0
  · exact ⟨[], if_pos h, congrArg (b.malformed + ·) h, rfl⟩
  · exact ⟨[_], if_neg h, rfl, rfl⟩

theorem tallies_writeByte (byte : UInt8) :
    Tallies (writeByte byte : Action IoError (Bridge σ) Unit) := by
  intro b
  rw [run_writeByte]
  split
  · exact tallies_decode false (b.receive byte)
  · exact tallies_pure () (b.receive byte)

theorem tallies_writeBytes (bytes : List UInt8) :
    Tallies (writeBytes bytes : Action IoError (Bridge σ) Unit) := by
  induction bytes with
  | nil => exact tallies_pure ()
  | cons byte rest ih => exact (tallies_writeByte byte).bind fun _ => ih

theorem tallies_perform (call : Call) :
    Tallies (perform call : Action IoError (Bridge σ) Unit) := by
  cases call with
  | writeByte byte => exact tallies_writeByte byte
  | write bytes => exact perform_write (σ := σ) bytes ▸ tallies_writeBytes bytes
  | writeAll bytes => exact perform_writeAll (σ := σ) bytes ▸ tallies_writeBytes bytes
  | decode last => exact tallies_decode last
  | flush => exact (tallies_decode true).bind fun _ => tallies_onSink _
  | close => exact tallies_onSink _

/-- **The warnings of a run account for the malformed sequences.** -/
theorem log_eq (b : Bridge σ) (calls : List Call) :
    ∃ counts : List Nat, b.log calls = counts.map (Event.malformedOutput b.charset) ∧
      (b.afterAll calls).malformed = b.malformed + counts.sum := by
  induction calls generalizing b with
  | nil => exact ⟨[], rfl, rfl⟩
  | cons call rest ih =>
    obtain ⟨counts, hevents, hmalformed, hcharset⟩ := tallies_perform call b
    obtain ⟨counts', hlog, hmalformed'⟩ := ih (b.after call)
    refine ⟨counts ++ counts', ?_, ?_⟩
    · rw [log, hlog, hevents, after, hcharset, List.map_append]
    · rw [List.sum_append, ← Nat.add_assoc, ← hmalformed]
      exact hmalformed'

end

/-! ## Two channels -/

/-- The channels will decode the same, and their sinks are related by `S`.  The one has counted `n`
malformed sequences and then as many as the other one, which has counted `n'` before. -/
structure Alike (S : σ → τ → Prop) (n n' : Nat) (b : Bridge σ) (b' : Bridge τ) : Prop where
  sink : S b.sink b'.sink
  charset : b.charset = b'.charset
  capacity : b.capacity = b'.capacity
  pending : b.pending = b'.pending
  ready : b.ready = b'.ready
  malformed : b.malformed + n' = b'.malformed + n

section

variable {S : σ → τ → Prop} {n n' : Nat} {b : Bridge σ} {b' : Bridge τ}

theorem alike_withCapacity {sink : σ} {sink' : τ} (h : S sink sink') (charset : Charset)
    (capacity : Nat) :
    Alike S 0 0 (withCapacity sink charset capacity) (withCapacity sink' charset capacity) :=
  ⟨h, rfl, rfl, rfl, rfl, rfl⟩

theorem Alike.receive (h : Alike S n n' b b') (byte : UInt8) :
    Alike S n n' (b.receive byte) (b'.receive byte) :=
  ⟨h.sink, h.charset, h.capacity, congrArg (· ++ [byte]) h.pending, h.ready, h.malformed⟩

/-- Passes are due at the same time. -/
theorem Alike.isDue (h : Alike S n n' b b') (byte : UInt8) : b.isDue byte = b'.isDue byte := by
  rw [Bridge.isDue, Bridge.isDue, h.capacity, h.pending]

variable [Sink σ] [Sink τ]

/-- A pass decodes the same in both, whatever the sinks make of it. -/
theorem Alike.decode (h : Alike S n n' b b') (last : Bool)
    (hsink : ∀ text, S (Sink.offer b.sink text).2 (Sink.offer b'.sink text).2) :
    Alike S n n' ((decode last).run b).state ((decode last).run b').state ∧
      ((Bridge.decode last).run b).events = ((Bridge.decode last).run b').events := by
  obtain ⟨-, hcharset, hcapacity, hpending, hready, hmalformed⟩ := h
  simp only [Bridge.decode, ← hcharset, ← hpending, ← hready]
  refine ⟨⟨hsink _, rfl, hcapacity, rfl, rfl, ?_⟩, trivial⟩
  rw [Nat.add_right_comm, hmalformed, Nat.add_right_comm]

end

/-! ### Any two sinks -/

/-- Whether the call takes one byte at most.  A sink that refuses cannot cut such a call short. -/
def Call.isSingle : Call → Bool
  | .writeByte _ | .decode _ | .flush => true
  | .write _ | .writeAll _ | .close => false

/-- The channels are in the same state but for their sinks. -/
abbrev InStep (b : Bridge σ) (b' : Bridge τ) : Prop := Alike (fun _ _ => True) 0 0 b b'

theorem InStep.symm {b : Bridge σ} {b' : Bridge τ} (h : InStep b b') : InStep b' b :=
  ⟨trivial, h.charset.symm, h.capacity.symm, h.pending.symm, h.ready.symm, h.malformed.symm⟩

theorem InStep.trans {κ : Type} {b : Bridge σ} {b' : Bridge τ} {b'' : Bridge κ} (h : InStep b b')
    (h' : InStep b' b'') : InStep b b'' :=
  ⟨trivial, h.charset.trans h'.charset, h.capacity.trans h'.capacity, h.pending.trans h'.pending,
    h.ready.trans h'.ready, h.malformed.trans h'.malformed⟩

section

variable [Sink σ] [Sink τ] {b : Bridge σ} {b' : Bridge τ}

theorem InStep.decode (h : InStep b b') (last : Bool) :
    InStep ((decode last).run b).state ((decode last).run b').state ∧
      ((Bridge.decode last).run b).events = ((Bridge.decode last).run b').events :=
  Alike.decode h last fun _ => trivial

/-- A flush is a last pass as far as decoding is concerned. -/
theorem inStep_flush (b : Bridge σ) :
    InStep ((flush : Action IoError (Bridge σ) Unit).run b).state ((decode true).run b).state ∧
      ((flush : Action IoError (Bridge σ) Unit).run b).events = ((decode true).run b).events := by
  cases h : ((decode true).run b).result with
  | ok u =>
    rw [run_flush_of_ok h]
    exact ⟨⟨trivial, rfl, rfl, rfl, rfl, rfl⟩, rfl⟩
  | error e =>
    rw [run_flush_of_error h]
    exact ⟨⟨trivial, rfl, rfl, rfl, rfl, rfl⟩, rfl⟩

/-- **Sinks do not disturb decoding.** -/
theorem inStep_after (h : InStep b b') {call : Call} (hcall : call.isSingle) :
    InStep (b.after call) (b'.after call) ∧
      ((perform call).run b).events = ((perform call).run b').events := by
  cases call with
  | writeByte byte =>
    rw [after, after, perform, perform, run_writeByte, run_writeByte, (h.receive byte).isDue]
    split
    · exact InStep.decode (h.receive byte) false
    · exact ⟨h.receive byte, rfl⟩
  | decode last => exact h.decode last
  | flush =>
    -- one of the sinks may refuse the last pass, and then only the other one is flushed
    obtain ⟨hstate, hevents⟩ := h.decode true
    obtain ⟨hflush, hlog⟩ := inStep_flush b
    obtain ⟨hflush', hlog'⟩ := inStep_flush b'
    exact ⟨hflush.trans (hstate.trans hflush'.symm), (hlog.trans hevents).trans hlog'.symm⟩
  | write bytes => contradiction
  | writeAll bytes => contradiction
  | close => contradiction

theorem inStep_afterAll (h : InStep b b') {calls : List Call}
    (hcalls : ∀ call ∈ calls, call.isSingle) :
    InStep (b.afterAll calls) (b'.afterAll calls) ∧ b.log calls = b'.log calls := by
  induction calls generalizing b b' with
  | nil => exact ⟨h, rfl⟩
  | cons call rest ih =>
    obtain ⟨hstate, hevents⟩ := inStep_after h (hcalls call List.mem_cons_self)
    obtain ⟨hrest, hlog⟩ := ih hstate fun call hmem => hcalls call (List.mem_cons_of_mem _ hmem)
    exact ⟨hrest, by rw [log, log, hevents, hlog]⟩

end

/-! ### Sinks that answer the same -/

end Bridge

section

variable {σ τ : Type} [Sink σ] [Sink τ] {S : σ → τ → Prop} {n n' : Nat}

/-- Related sinks answer the same, and are related afterwards. -/
structure Sink.Simulation (S : σ → τ → Prop) : Prop where
  write : ∀ sink sink' c, S sink sink' → (Sink.write sink c).1 = (Sink.write sink' c).1 ∧
    S (Sink.write sink c).2 (Sink.write sink' c).2
  flush : ∀ sink sink', S sink sink' → (Sink.flush sink).1 = (Sink.flush sink').1 ∧
    S (Sink.flush sink).2 (Sink.flush sink').2

theorem Sink.Simulation.offer (hS : Sink.Simulation S) (text : List Char) {sink : σ} {sink' : τ}
    (h : S sink sink') :
    (Sink.offer sink text).1 = (Sink.offer sink' text).1 ∧
      S (Sink.offer sink text).2 (Sink.offer sink' text).2 := by
  induction text generalizing sink sink' with
  | nil => exact ⟨rfl, h⟩
  | cons c rest ih =>
    obtain ⟨hanswer, hnext⟩ := hS.write sink sink' c h
    rw [Sink.offer, Sink.offer]
    generalize Sink.write sink c = written at hanswer hnext ⊢
    generalize Sink.write sink' c = written' at hanswer hnext ⊢
    obtain ⟨_ | _, next⟩ := written <;> obtain ⟨_, next'⟩ := written' <;> subst hanswer
    · exact ⟨rfl, hnext⟩
    · exact ih hnext

namespace Bridge

theorem parallel_decode (hS : Sink.Simulation S) (last : Bool) :
    Parallel (Alike S n n') (decode last : Action IoError (Bridge σ) Unit) (decode last) := by
  intro b b' h
  obtain ⟨hstate, hevents⟩ := h.decode last fun text => (hS.offer text h.sink).2
  refine ⟨?_, hevents, hstate⟩
  simp only [decode, ← h.charset, ← h.pending, ← h.ready]
  exact (hS.offer _ h.sink).1

theorem parallel_writeByte (hS : Sink.Simulation S) (byte : UInt8) :
    Parallel (Alike S n n') (writeByte byte : Action IoError (Bridge σ) Unit) (writeByte byte) := by
  intro b b' h
  rw [run_writeByte, run_writeByte, (h.receive byte).isDue]
  split
  · exact parallel_decode hS false _ _ (h.receive byte)
  · exact ⟨rfl, rfl, h.receive byte⟩

theorem parallel_writeBytes (hS : Sink.Simulation S) (bytes : List UInt8) :
    Parallel (Alike S n n') (writeBytes bytes : Action IoError (Bridge σ) Unit)
      (writeBytes bytes) := by
  induction bytes with
  | nil => exact parallel_pure ()
  | cons byte rest ih => exact (parallel_writeByte hS byte).bind fun _ => ih

theorem parallel_write (hS : Sink.Simulation S) (bytes : List UInt8) :
    Parallel (Alike S n n') (write bytes : Action IoError (Bridge σ) Nat) (write bytes) :=
  (parallel_writeBytes hS bytes).bind fun _ => parallel_pure _

theorem parallel_flush (hS : Sink.Simulation S) :
    Parallel (Alike S n n') (flush : Action IoError (Bridge σ) Unit) flush := by
  refine (parallel_decode hS true).bind fun _ b b' h => ?_
  obtain ⟨hanswer, hnext⟩ := hS.flush _ _ h.sink
  exact ⟨hanswer, rfl, hnext, h.charset, h.capacity, h.pending, h.ready, h.malformed⟩

/-- **Channels whose sinks answer the same answer the same.** -/
theorem parallel_perform (hS : Sink.Simulation S) {call : Call} (hcall : call ≠ .close) :
    Parallel (Alike S n n') (perform call : Action IoError (Bridge σ) Unit) (perform call) := by
  cases call with
  | writeByte byte => exact parallel_writeByte hS byte
  | write bytes => exact (parallel_write hS bytes).bind fun _ => parallel_pure ()
  | writeAll bytes =>
    rw [perform_writeAll, perform_writeAll]
    exact parallel_writeBytes hS bytes
  | decode last => exact parallel_decode hS last
  | flush => exact parallel_flush hS
  | close => exact absurd rfl hcall

end Bridge

end

end ScriptHost
