import ScriptHost.Output.Writer
import ScriptHost.Proofs.Output.Sinks
import ScriptHost.Proofs.Output.Transcript

/-!
# Channels that end in a writer of bytes

A `Utf8Sink` writes each character as UTF-8, and the writer behind it may take the bytes in any
portions, or run out of room between two of them.

* `ByteWriter.TakesAll` — writers that take everything, in whatever portions.  A list of bytes is
  one.  A channel that ends in one cannot be told from a channel that ends in a `String`, and the
  bytes are those of the text (`Bridge.written_afterAll`).
* `BoundedWriter.writeAll_eq` — a bounded writer takes as many of the bytes as fit, in one portion.
-/

set_option autoImplicit false

namespace ScriptHost

open Utf8

/-! ## Writers that take everything -/

/-- As long as it is `ready`, a writer takes at least one of the bytes that it is given, from the
front, and stays `ready` doing so. -/
structure ByteWriter.TakesAll {ω : Type} [ByteWriter ω] (bytes : ω → List UInt8)
    (ready : ω → Prop) : Prop where
  write : ∀ (writer : ω) (chunk : List UInt8), ready writer → chunk ≠ [] →
    ∃ n writer', ByteWriter.write writer chunk = (.ok n, writer') ∧ 0 < n ∧ n ≤ chunk.length ∧
      ready writer' ∧ bytes writer' = bytes writer ++ chunk.take n
  flush : ∀ writer : ω, ready writer →
    ∃ writer', ByteWriter.flush writer = (.ok (), writer') ∧ ready writer' ∧
      bytes writer' = bytes writer

/-- A list of bytes takes everything. -/
instance : ByteWriter (List UInt8) where
  write bytes chunk := (.ok chunk.length, bytes ++ chunk)

theorem ByteWriter.takesAll_list :
    ByteWriter.TakesAll (fun bytes : List UInt8 => bytes) fun _ => True where
  write bytes chunk _ hne :=
    ⟨chunk.length, bytes ++ chunk, rfl, List.length_pos_iff.2 hne, Nat.le_refl _, trivial, by
      rw [List.take_length]⟩
  flush bytes _ := ⟨bytes, rfl, trivial, rfl⟩

variable {ω : Type} [ByteWriter ω] {bytes : ω → List UInt8} {ready : ω → Prop}

/-- In as many portions as it takes, all of the bytes go through. -/
theorem ByteWriter.TakesAll.writeAll (h : ByteWriter.TakesAll bytes ready) (chunk : List UInt8)
    {writer : ω} (hready : ready writer) :
    ∃ writer', ByteWriter.writeAll writer chunk = (.ok (), writer') ∧ ready writer' ∧
      bytes writer' = bytes writer ++ chunk := by
  induction hlength : chunk.length using Nat.strongRecOn generalizing chunk writer with
  | ind length ih =>
    rw [ByteWriter.writeAll]
    split
    · next hnil =>
      exact ⟨writer, rfl, hready, by rw [hnil, List.append_nil]⟩
    · next hne =>
      obtain ⟨n, writer₁, hwrite, hpos, hle, hready₁, hbytes₁⟩ := h.write writer chunk hready hne
      obtain ⟨m, rfl⟩ : ∃ m, n = m + 1 := ⟨n - 1, by omega⟩
      have hshort : (chunk.drop (m + 1)).length < length := by
        rw [List.length_drop]
        omega
      obtain ⟨writer₂, hrest, hready₂, hbytes₂⟩ := ih _ hshort _ hready₁ rfl
      rw [hwrite]
      refine ⟨writer₂, hrest, hready₂, ?_⟩
      rw [hbytes₂, hbytes₁, List.append_assoc, List.take_append_drop]

/-- A text takes every character. -/
theorem Sink.takesAll_string : Sink.TakesAll String.toList fun _ => True where
  write text c _ := ⟨text.push c, rfl, trivial, String.toList_push c⟩
  flush text _ := ⟨text, rfl, trivial, rfl⟩

theorem Sink.offer_string (text : String) (cs : List Char) :
    ∃ text' : String, Sink.offer text cs = (.ok (), text') ∧ text'.toList = text.toList ++ cs := by
  obtain ⟨text', hoffer, -, htext⟩ := Sink.takesAll_string.offer cs trivial
  exact ⟨text', hoffer, htext⟩

/-- A writer that takes everything answers as a text does, and holds its bytes. -/
theorem Utf8Sink.simulation (h : ByteWriter.TakesAll bytes ready) (before : List UInt8) :
    Sink.Simulation fun (sink : Utf8Sink ω) (text : String) =>
      ready sink.writer ∧ bytes sink.writer = before ++ encodeAll text.toList where
  write := by
    rintro ⟨writer⟩ text c ⟨hready, hbytes⟩
    obtain ⟨writer', hwrite, hready', hbytes'⟩ := h.writeAll (encode c) hready
    simp only [Sink.write, hwrite, true_and]
    refine ⟨hready', ?_⟩
    rw [hbytes', hbytes, String.toList_push, encodeAll, encodeAll, List.flatMap_append,
      List.flatMap_singleton, List.append_assoc]
  flush := by
    rintro ⟨writer⟩ text ⟨hready, hbytes⟩
    obtain ⟨writer', hflush, hready', hbytes'⟩ := h.flush writer hready
    simp only [Sink.flush, hflush, true_and]
    exact ⟨hready', hbytes'.trans hbytes⟩

namespace Bridge

theorem alike_afterAll {σ τ : Type} [Sink σ] [Sink τ] {S : σ → τ → Prop} (hS : Sink.Simulation S)
    {n n' : Nat} {b : Bridge σ} {b' : Bridge τ} (h : Alike S n n' b b') {calls : List Call}
    (hcalls : .close ∉ calls) : Alike S n n' (b.afterAll calls) (b'.afterAll calls) := by
  refine List.foldl_rel h fun call hmem b b' halike => ?_
  exact (parallel_perform hS (ne_of_mem_of_not_mem hmem hcalls) b b' halike).state

/-- **The bytes of a run are those of its text,** if the writer takes everything. -/
theorem written_afterAll (h : ByteWriter.TakesAll bytes ready) {writer : ω} (hready : ready writer)
    (charset : Charset) (capacity : Nat) {calls : List Call} (hcalls : .close ∉ calls) :
    let b := (withCapacity (⟨writer⟩ : Utf8Sink ω) charset capacity).afterAll calls
    let s := Sessions.ofCalls calls
    bytes b.sink.writer =
        bytes writer ++ encodeAll ((s.pieces charset b.pending.length).map Piece.char) ∧
      b.malformed = (s.pieces charset b.pending.length).count .malformed := by
  intro b s
  have hstart : Alike (fun (sink : Utf8Sink ω) (text : String) => ready sink.writer ∧
      bytes sink.writer = bytes writer ++ encodeAll text.toList) 0 0
      (withCapacity ⟨writer⟩ charset capacity) (withCapacity "" charset capacity) :=
    alike_withCapacity ⟨hready, (List.append_nil _).symm⟩ charset capacity
  obtain ⟨⟨-, hbytes⟩, -, -, hpending, -, hmalformed⟩ :=
    alike_afterAll (Utf8Sink.simulation h (bytes writer)) hstart hcalls
  have htracks : Tracks String.toList (fun _ => True) charset "".toList {}
      (withCapacity "" charset capacity) := tracks_withCapacity charset capacity trivial
  obtain ⟨-, htext, hcount⟩ := (htracks.afterAll Sink.takesAll_string calls hcalls).pieces_eq
  rw [htext, ← hpending, String.toList_empty, List.nil_append] at hbytes
  rw [← hpending] at hcount
  exact ⟨hbytes, hmalformed.trans hcount⟩

end Bridge

/-! ## Writers with bounded room -/

namespace BoundedWriter

theorem write_eq (writer : BoundedWriter) (chunk : List UInt8) :
    ByteWriter.write writer chunk =
      let n := min (writer.room - writer.bytes.length) chunk.length
      (.ok n, { writer with bytes := writer.bytes ++ chunk.take n }) := rfl

theorem writeAll_nil (writer : BoundedWriter) :
    ByteWriter.writeAll writer [] = (.ok (), writer) := by
  rw [ByteWriter.writeAll, if_pos rfl]

/-- A full writer takes nothing. -/
theorem writeAll_of_full {writer : BoundedWriter} {chunk : List UInt8}
    (hfull : writer.room ≤ writer.bytes.length) (hne : chunk ≠ []) :
    ByteWriter.writeAll writer chunk = (.error .shortWrite, writer) := by
  rw [ByteWriter.writeAll, if_neg hne, write_eq, Nat.sub_eq_zero_of_le hfull, Nat.zero_min]
  simp only [List.take_zero, List.append_nil]

/-- **As many of the bytes as fit go through.** -/
theorem writeAll_eq (writer : BoundedWriter) (chunk : List UInt8) :
    ByteWriter.writeAll writer chunk =
      (if chunk.length ≤ writer.room - writer.bytes.length then .ok () else .error .shortWrite,
        { writer with
          bytes := writer.bytes ++ chunk.take (writer.room - writer.bytes.length) }) := by
  by_cases hne : chunk = []
  · rw [hne, writeAll_nil, List.take_nil, List.append_nil]
    rfl
  have hpos : 0 < chunk.length := List.length_pos_iff.2 hne
  generalize hfree : writer.room - writer.bytes.length = free
  obtain _ | free := free
  · rw [writeAll_of_full (Nat.le_of_sub_eq_zero hfree) hne, if_neg (by omega)]
    simp only [List.take_zero, List.append_nil]
  · rw [ByteWriter.writeAll, if_neg hne, write_eq, hfree]
    by_cases hfits : chunk.length ≤ free + 1
    · -- all of them go through at once
      obtain ⟨n, hn⟩ : ∃ n, chunk.length = n + 1 := ⟨chunk.length - 1, by omega⟩
      have hmin : min (free + 1) chunk.length = n + 1 := by omega
      simp only [hmin, if_pos hfits]
      rw [← hn, List.drop_length, writeAll_nil, List.take_length, List.take_of_length_le hfits]
    · -- the first portion fills the writer, and then there are bytes left
      have hmin : min (free + 1) chunk.length = free + 1 := by omega
      simp only [hmin, if_neg hfits]
      refine writeAll_of_full ?_ fun hnil => hfits (List.drop_eq_nil_iff.1 hnil)
      simp only [List.length_append, List.length_take]
      omega

end BoundedWriter

end ScriptHost
