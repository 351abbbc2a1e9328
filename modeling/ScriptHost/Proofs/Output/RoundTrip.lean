import Mathlib.Data.List.Induction
import ScriptHost.Proofs.Output.Writers
import ScriptHost.Proofs.Utf8.Validity

/-!
# UTF-8 in, UTF-8 out

A channel for UTF-8 that ends in a writer decodes what it receives and encodes it again.  How the
bytes are cut, and which passes are made in between, leaves no trace; so valid bytes come out as
they went in, and what comes out is valid in any case.

* `Bridge.Unbroken` — the runs this is about: the sink stays open, and no session ends inside a
  character.
* `Bridge.Whole` — the invariant: the sessions that are over decode as if they were one.
* `Bridge.round_trip` — what the writer holds after a flush, and what becomes of that when it is
  sent through another channel.
-/

set_option autoImplicit false

namespace ScriptHost.Bridge

open Utf8

/-! ## Runs that break no character -/

/-- The bytes that a call sends. -/
def Call.bytes : Call → List UInt8
  | .writeByte byte => [byte]
  | .write bytes | .writeAll bytes => bytes
  | .decode _ | .flush | .close => []

/-- The bytes that a run sends. -/
def sent (calls : List Call) : List UInt8 := calls.flatMap Call.bytes

theorem sent_concat (calls : List Call) (call : Call) :
    sent (calls ++ [call]) = sent calls ++ call.bytes := by
  rw [sent, List.flatMap_append, List.flatMap_singleton]
  rfl

/-- The call ends the session. -/
def Call.EndsSession (call : Call) : Prop := call = .decode true ∨ call = .flush

instance (call : Call) : Decidable call.EndsSession :=
  inferInstanceAs (Decidable (call = .decode true ∨ call = .flush))

/-- The run does not close the sink, and ends a session only where a character ends: the bytes that
were sent before are valid. -/
inductive Unbroken : List Call → Prop
  | nil : Unbroken []
  | concat {calls : List Call} {call : Call} (h : Unbroken calls) (hopen : call ≠ .close)
      (hboundary : call.EndsSession → Valid (sent calls)) : Unbroken (calls ++ [call])

/-- Bytes that are all sent in one session may be cut anywhere. -/
theorem unbroken_of_forall {calls : List Call}
    (h : ∀ call ∈ calls, call ≠ .close ∧ ¬ call.EndsSession) : Unbroken calls := by
  induction calls using List.reverseRecOn with
  | nil => exact .nil
  | append_singleton before call ih =>
    obtain ⟨hopen, hgoesOn⟩ := h call (List.mem_append_right before List.mem_cons_self)
    exact .concat (ih fun call hmem => h call (List.mem_append_left _ hmem)) hopen
      fun hends => absurd hends hgoesOn

theorem Unbroken.close_notMem {calls : List Call} (h : Unbroken calls) : .close ∉ calls := by
  induction h with
  | nil => exact List.not_mem_nil
  | concat _ hopen _ ih =>
    rw [List.mem_append, List.mem_singleton, not_or]
    exact ⟨ih, hopen.symm⟩

/-! ## The sessions of such a run -/

/-- The bytes `all` are those of the sessions.  The ones of the sessions that are over are valid, and
decode in one piece as they do session by session. -/
def Whole (all : List UInt8) (s : Sessions) : Prop :=
  ∃ done : List UInt8, Valid done ∧ all = done ++ s.current ∧
    s.finished.flatMap pieces = pieces done

theorem Whole.receive {all : List UInt8} {s : Sessions} (h : Whole all s) (bytes : List UInt8) :
    Whole (all ++ bytes) (s.receive bytes) := by
  obtain ⟨done, hvalid, hall, hpieces⟩ := h
  exact ⟨done, hvalid, by rw [hall, List.append_assoc, Sessions.receive], hpieces⟩

/-- The last session adds its pieces, as it starts where a character does. -/
theorem Whole.flatMap_finish {all : List UInt8} {s : Sessions} (h : Whole all s) :
    s.finish.finished.flatMap pieces = pieces all := by
  obtain ⟨done, hvalid, hall, hpieces⟩ := h
  rw [Sessions.finish, List.flatMap_append, List.flatMap_singleton, hpieces, hall,
    hvalid.pieces_append]

theorem Whole.finish {all : List UInt8} {s : Sessions} (h : Whole all s) (hvalid : Valid all) :
    Whole all s.finish :=
  ⟨all, hvalid, (List.append_nil all).symm, h.flatMap_finish⟩

/-- **The sessions of a run that breaks no character** decode as if they were one. -/
theorem whole_ofCalls {calls : List Call} (h : Unbroken calls) :
    Whole (sent calls) (Sessions.ofCalls calls) := by
  induction h with
  | nil => exact ⟨[], .nil, rfl, rfl⟩
  | @concat calls call _ hopen hboundary ih =>
    rw [sent_concat, Sessions.ofCalls_concat]
    cases call with
    | writeByte byte => exact ih.receive [byte]
    | write bytes => exact ih.receive bytes
    | writeAll bytes => exact ih.receive bytes
    | decode last =>
      rw [Call.bytes, List.append_nil]
      cases last with
      | true => exact ih.finish (hboundary (.inl rfl))
      | false => exact ih
    | flush =>
      rw [Call.bytes, List.append_nil]
      exact ih.finish (hboundary (.inr rfl))
    | close => exact absurd rfl hopen

/-- With a flush at the end, everything that was sent decodes in one piece. -/
theorem pieces_ofCalls_flush {calls : List Call} (h : Unbroken calls) (pending : Nat) :
    (Sessions.ofCalls (calls ++ [.flush])).pieces .utf8 pending = pieces (sent calls) := by
  have hcurrent : Charset.utf8.reference (([] : List UInt8).take (0 - pending)) = [] := by
    rw [List.take_nil, Charset.reference_nil]
  rw [Sessions.ofCalls_concat, ← (whole_ofCalls h).flatMap_finish]
  exact (congrArg _ hcurrent).trans (List.append_nil _)

/-! ## There and back -/

section

variable {ω : Type} [ByteWriter ω]

/-- A new channel for UTF-8 that ends in the writer, after a run and a last flush. -/
def flushed (writer : ω) (capacity : Nat) (calls : List Call) : Bridge (Utf8Sink ω) :=
  (withCapacity ⟨writer⟩ .utf8 capacity).afterAll (calls ++ [.flush])

variable {held : ω → List UInt8} {ready : ω → Prop} {writer : ω}

/-- Whatever the cuts, the writer holds the text of the bytes that were sent. -/
theorem held_flushed (h : ByteWriter.TakesAll held ready) (hready : ready writer)
    (hempty : held writer = []) (capacity : Nat) {calls : List Call} (hcalls : Unbroken calls) :
    held (flushed writer capacity calls).sink.writer =
        encodeAll ((pieces (sent calls)).map Piece.char) ∧
      (flushed writer capacity calls).malformed = (pieces (sent calls)).count .malformed := by
  have hclose : .close ∉ calls ++ [.flush] := by
    rw [List.mem_append, List.mem_singleton, not_or]
    exact ⟨hcalls.close_notMem, Call.noConfusion⟩
  have hrun := written_afterAll h hready .utf8 capacity hclose
  simp only [pieces_ofCalls_flush hcalls, hempty, List.nil_append] at hrun
  exact hrun

/-- **Valid bytes come out as they went in.** -/
theorem held_flushed_of_valid (h : ByteWriter.TakesAll held ready) (hready : ready writer)
    (hempty : held writer = []) (capacity : Nat) {calls : List Call} (hcalls : Unbroken calls)
    (hsent : Valid (sent calls)) :
    held (flushed writer capacity calls).sink.writer = sent calls ∧
      (flushed writer capacity calls).malformed = 0 := by
  obtain ⟨hheld, hcount⟩ := held_flushed h hready hempty capacity hcalls
  exact ⟨hheld.trans hsent.encodeAll_pieces, hcount.trans (count_malformed_eq_zero_iff.2 hsent)⟩

/-- **There and back.**  A channel for UTF-8 ends in a writer that takes everything and is empty at
the start.  After a run that breaks no character, and a flush:

* if the bytes that were sent are those of a text, the writer holds them, and none was malformed;
* in any case, what the writer holds is valid;
* none was malformed exactly if the bytes that were sent are valid, and then the writer holds them;
* sent through another such channel, what the writer holds comes out as it is, and nothing is
  malformed any more. -/
theorem round_trip (h : ByteWriter.TakesAll held ready) (hready : ready writer)
    (hempty : held writer = []) (capacity : Nat) {calls : List Call} (hcalls : Unbroken calls) :
    let b := flushed writer capacity calls
    let written := held b.sink.writer
    (∀ text : List Char, sent calls = encodeAll text →
        written = encodeAll text ∧ b.malformed = 0) ∧
      Valid written ∧
      (b.malformed = 0 ↔ Valid (sent calls)) ∧ (Valid (sent calls) → written = sent calls) ∧
      ∀ (writer' : ω) (capacity' : Nat) (calls' : List Call), ready writer' → held writer' = [] →
        Unbroken calls' → sent calls' = written →
        let b' := flushed writer' capacity' calls'
        held b'.sink.writer = written ∧ b'.malformed = 0 := by
  intro b written
  obtain ⟨hheld, hcount⟩ := held_flushed h hready hempty capacity hcalls
  have hwritten : Valid written := by
    rw [show written = _ from hheld]
    exact valid_encodeAll _
  have hvalid (hsent : Valid (sent calls)) : written = sent calls ∧ b.malformed = 0 :=
    held_flushed_of_valid h hready hempty capacity hcalls hsent
  refine ⟨fun text htext => ?_, hwritten, ?_, fun hsent => (hvalid hsent).1, ?_⟩
  · rw [← htext]
    exact hvalid (htext ▸ valid_encodeAll text)
  · rw [show b.malformed = _ from hcount]
    exact count_malformed_eq_zero_iff
  · intro writer' capacity' calls' hready' hempty' hcalls' hsame
    rw [← hsame]
    exact held_flushed_of_valid h hready' hempty' capacity' hcalls' (hsame ▸ hwritten)

/-- An overlong form, a U+FFFD that was really sent, a character in two parts and one that is broken
off at the end.  What the writer holds then is sent once more, with a flush in between. -/
theorem round_trip_overlong :
    let calls : List Call := [.write [0x61, 0xC0, 0xAF, 0xEF, 0xBF, 0xBD, 0xE2], .decode false,
      .writeAll [0x82, 0xAC, 0xF0, 0x9F]]
    let calls' : List Call := [.write [0x61], .flush,
      .writeAll (encodeAll [replacement, replacement, replacement, '€', replacement])]
    let b := flushed ([] : List UInt8) 0 calls
    let b' := flushed ([] : List UInt8) 5 calls'
    b.sink.writer = sent calls' ∧ b.malformed = 3 ∧ ¬ Valid (sent calls) ∧
      b'.sink.writer = sent calls' ∧ b'.malformed = 0 := by
  intro calls calls' b b'
  have hcalls : Unbroken calls := unbroken_of_forall (by decide)
  have hfirst : Unbroken [.write [0x61]] := unbroken_of_forall (by decide)
  have hflush : Unbroken ([.write [0x61]] ++ [.flush]) :=
    hfirst.concat (by decide) fun _ => valid_encodeAll ['a']
  have hcalls' : Unbroken calls' := hflush.concat (by decide) fun hends => absurd hends (by decide)
  obtain ⟨hheld, hcount⟩ := held_flushed ByteWriter.takesAll_list trivial rfl 0 hcalls
  have hwritten : b.sink.writer = sent calls' := hheld.trans (by decide)
  have hmalformed : b.malformed = 3 := hcount.trans (by decide)
  obtain ⟨-, -, hzero, -, hback⟩ :=
    round_trip ByteWriter.takesAll_list trivial rfl 0 hcalls
  obtain ⟨hheld', hnone'⟩ := hback [] 5 calls' trivial rfl hcalls' hwritten.symm
  refine ⟨hwritten, hmalformed, fun hvalid => ?_, hheld'.trans hwritten, hnone'⟩
  exact absurd (hmalformed.symm.trans (hzero.2 hvalid)) (by decide)

end

end ScriptHost.Bridge
