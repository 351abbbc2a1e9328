import ScriptHost.Proofs.Output.Sinks
import ScriptHost.Proofs.Output.Transcript

/-!
# What stays in the buffer

Whatever is asked of a channel, and whether its sink takes the characters or not, the bytes that it
holds back between two calls are few and harmless.

* `Charset.Unfinished` — the bytes that a pass may leave: the beginning of a character, which is
  none in Latin-1.  They are all above the ASCII range, so there is no line break among them, and a
  pass that ends with a line break leaves nothing (`scan_rest_of_isLineBreak`).
* `Bridge.Buffered` — what holds after every call.  A pass brings it about by itself
  (`buffered_decode`), so it does not matter what has failed before.
* `Bridge.buffered_afterAll` — all of this about runs, with what is visible after a line break.
-/

set_option autoImplicit false

namespace ScriptHost

open Utf8 ScriptHost.Action

/-! ## What a pass leaves -/

/-- The byte ends a line. -/
def IsLineBreak (byte : UInt8) : Prop := byte = 0x0A ∨ byte = 0x0D

namespace Charset

/-- The bytes begin a character and do not complete it. -/
def Unfinished (charset : Charset) (bytes : List UInt8) : Prop :=
  match charset with
  | .utf8 => ∃ (more : List UInt8) (n : Nat), more ≠ [] ∧ WellFormed (bytes ++ more) n
  | .latin1 => bytes = []

variable {charset : Charset}

theorem unfinished_scan_rest (charset : Charset) (bytes : List UInt8) :
    charset.Unfinished (charset.scan bytes).rest ∧ (charset.scan bytes).rest.length ≤ 3 ∧
      ∀ byte ∈ (charset.scan bytes).rest, ¬ IsLineBreak byte := by
  cases charset with
  | utf8 =>
    have hpass : Utf8.Unfinished (Utf8.scan [] bytes).rest :=
      (pass_scan unfinished_nil bytes).unfinished
    refine ⟨hpass.exists_wellFormed, hpass.length_le, fun byte hmem hbreak => ?_⟩
    have hle := hpass.le_toNat_of_mem hmem
    rcases hbreak with rfl | rfl <;> exact absurd hle (by decide)
  | latin1 => exact ⟨rfl, Nat.zero_le 3, fun byte hmem => absurd hmem List.not_mem_nil⟩

/-- A pass leaves the last ones of its bytes. -/
theorem scan_rest_suffix (charset : Charset) (bytes : List UInt8) :
    (charset.scan bytes).rest <:+ bytes := by
  obtain ⟨done, hdone, -⟩ := charset.exists_done bytes
  exact ⟨done, hdone.symm⟩

/-- **A line break is never held back.** -/
theorem scan_rest_of_isLineBreak {byte : UInt8} (h : IsLineBreak byte) (bytes : List UInt8) :
    (charset.scan (bytes ++ [byte])).rest = [] := by
  obtain ⟨-, -, hnone⟩ := charset.unfinished_scan_rest (bytes ++ [byte])
  -- unless nothing is left, it ends as the bytes do
  rcases List.suffix_concat_iff.1 (charset.scan_rest_suffix (bytes ++ [byte])) with
    hnil | ⟨rest, hrest, -⟩
  · exact hnil
  · exact absurd h (hnone byte (hrest ▸ List.mem_append_right rest List.mem_cons_self))

end Charset

namespace Bridge

variable {σ : Type}

/-! ## Calls that make a pass -/

/-- The call leaves nothing pending. -/
def Call.Empties (call : Call) : Prop :=
  call = .decode true ∨ call = .flush ∨ ∃ byte, call = .writeByte byte ∧ IsLineBreak byte

/-- The call makes a pass that is not the last one. -/
def Call.MakesPass (call : Call) (b : Bridge σ) : Prop :=
  call = .decode false ∨ ∃ byte, call = .writeByte byte ∧ (b.receive byte).isDue byte = true

theorem isDue_of_isLineBreak {byte : UInt8} (h : IsLineBreak byte) (b : Bridge σ) :
    b.isDue byte = true := by
  simp only [isDue, Bool.or_eq_true, decide_eq_true_iff]
  exact h.elim (fun hline => .inl (.inr hline)) .inr

/-! ## The invariant -/

/-- What holds between two calls. -/
structure Buffered (b : Bridge σ) : Prop where
  /-- There is room for one byte more. -/
  length_le : b.pending.length ≤ b.capacity - 1
  /-- No line is held back that has ended. -/
  noBreak : ∀ byte ∈ b.pending, ¬ IsLineBreak byte
  /-- Each character that was decoded has been offered to the sink. -/
  noneWaits : b.ready = []

theorem buffered_withCapacity (sink : σ) (charset : Charset) (capacity : Nat) :
    Buffered (withCapacity sink charset capacity) :=
  ⟨Nat.zero_le _, fun _ hmem => absurd hmem List.not_mem_nil, rfl⟩

/-- A byte for which no pass is due can wait. -/
theorem Buffered.receive {b : Bridge σ} (h : Buffered b) {byte : UInt8}
    (hdue : ¬ (b.receive byte).isDue byte) : Buffered (b.receive byte) := by
  simp only [isDue, Bool.or_eq_true, decide_eq_true_iff, not_or, Nat.not_le] at hdue
  obtain ⟨⟨hroom, hline⟩, hreturn⟩ := hdue
  refine ⟨Nat.le_sub_one_of_lt hroom, fun byte' hmem => ?_, h.noneWaits⟩
  rcases List.mem_append.1 hmem with hold | hnew
  · exact h.noBreak byte' hold
  · rw [List.mem_singleton.1 hnew]
    exact fun hbreak => hbreak.elim hline hreturn

variable [Sink σ]

theorem pending_decode (b : Bridge σ) (last : Bool) :
    ((decode last).run b).state.pending =
      if last then [] else (b.charset.scan b.pending).rest := by
  cases last with
  | false => exact b.charset.decode_rest b.pending false
  | true => rfl

/-- **A pass makes room,** whatever was in the buffer and whatever the sink makes of it. -/
theorem buffered_decode (b : Bridge σ) (last : Bool) : Buffered ((decode last).run b).state := by
  obtain ⟨-, hlength, hnone⟩ := b.charset.unfinished_scan_rest b.pending
  have hfour := b.four_le_capacity
  refine ⟨?_, ?_, rfl⟩
  · rw [pending_decode]
    change _ ≤ b.capacity - 1
    split
    · exact Nat.zero_le _
    · omega
  · rw [pending_decode]
    split
    · exact fun _ hmem => absurd hmem List.not_mem_nil
    · exact hnone

theorem Buffered.writeByte {b : Bridge σ} (h : Buffered b) (byte : UInt8) :
    Buffered ((writeByte byte).run b).state := by
  rw [run_writeByte]
  split
  · exact buffered_decode _ false
  · next hdue => exact h.receive hdue

instance : IsPreorder (Bridge σ) fun b b' => Buffered b → Buffered b' where
  refl _ := id
  trans _ _ _ h h' := h' ∘ h

theorem keeps_buffered (call : Call) :
    Keeps (fun b b' => Buffered b → Buffered b')
      (perform call : Action IoError (Bridge σ) Unit) := by
  have hsink (b : Bridge σ) (sink : σ) (h : Buffered b) : Buffered { b with sink } :=
    ⟨h.length_le, h.noBreak, h.noneWaits⟩
  exact keeps_perform_of_writeByte (R := fun b b' => Buffered b → Buffered b')
    (fun byte _ h => h.writeByte byte) (fun last b _ => buffered_decode b last)
    (fun b => hsink b _) (fun _ b => hsink b _)

/-! ## After a pass -/

theorem after_writeByte_of_isDue {b : Bridge σ} {byte : UInt8}
    (hdue : (b.receive byte).isDue byte = true) :
    b.after (.writeByte byte) = ((decode false).run (b.receive byte)).state := by
  rw [after, perform, run_writeByte, if_pos hdue]

theorem pending_after_of_empties {call : Call} (h : call.Empties) (b : Bridge σ) :
    (b.after call).pending = [] := by
  rcases h with rfl | rfl | ⟨byte, rfl, hbreak⟩
  · exact pending_decode b true
  · exact (inStep_flush b).1.pending.trans (pending_decode b true)
  · rw [after_writeByte_of_isDue (isDue_of_isLineBreak hbreak _), pending_decode]
    exact Charset.scan_rest_of_isLineBreak hbreak b.pending

theorem unfinished_after {b : Bridge σ} {call : Call} (h : call.MakesPass b) :
    b.charset.Unfinished (b.after call).pending ∧ (b.after call).pending.length ≤ 3 := by
  have hpass (b : Bridge σ) : b.charset.Unfinished ((decode false).run b).state.pending ∧
      ((decode false).run b).state.pending.length ≤ 3 := by
    rw [pending_decode]
    obtain ⟨hrest, hlength, -⟩ := b.charset.unfinished_scan_rest b.pending
    exact ⟨hrest, hlength⟩
  rcases h with rfl | ⟨byte, rfl, hdue⟩
  · exact hpass b
  · rw [after_writeByte_of_isDue hdue]
    exact hpass (b.receive byte)

/-! ## Whole runs -/

/-- **The buffer between two calls.**  After any run, whatever the sink has refused: there is room
for one byte more, no line break is pending, and no character waits to be offered.  A last pass, a
flush and a line break leave nothing pending.  Any other pass leaves at most three bytes, the
beginning of a character; the bytes that it does not leave are those in front, and a full buffer has
room again.

So when the sink takes everything, it has the whole text up to a line break as soon as that has been
written. -/
theorem buffered_afterAll (sink : σ) (charset : Charset) (capacity : Nat) (calls : List Call) :
    let b := (withCapacity sink charset capacity).afterAll calls
    b.capacity = max capacity 4 ∧ Buffered b ∧
      (∀ call : Call, call.Empties → (b.after call).pending = []) ∧
      (∀ call : Call, call.MakesPass b → charset.Unfinished (b.after call).pending ∧
        (b.after call).pending.length ≤ 3) ∧
      (∀ (bytes : List UInt8) (last : Bool), (charset.decode bytes last).rest <:+ bytes ∧
        (b.capacity ≤ bytes.length → (charset.decode bytes last).rest.length < b.capacity)) ∧
      ∀ (text : σ → List Char) (ready : σ → Prop), Sink.TakesAll text ready → ready sink →
        .close ∉ calls → ∀ byte, IsLineBreak byte →
        text (b.after (.writeByte byte)).sink = text sink ++
          ((Sessions.ofCalls (calls ++ [.writeByte byte])).pieces charset 0).map Piece.char := by
  intro b
  obtain ⟨hcharset, hcapacity, -⟩ : Lasting (withCapacity sink charset capacity) b :=
    keeps_afterAll (fun call _ => lasting_perform call) _
  have hbuffered : Buffered b := keeps_afterAll (fun call _ => keeps_buffered call) _
    (buffered_withCapacity sink charset capacity)
  refine ⟨hcapacity, hbuffered, fun call h => pending_after_of_empties h b,
    fun call h => ?_, fun bytes last => ?_, ?_⟩
  · have hcharset : b.charset = charset := hcharset
    exact hcharset ▸ unfinished_after h
  · have hfour := b.four_le_capacity
    obtain ⟨-, hlength, -⟩ := charset.unfinished_scan_rest bytes
    rw [charset.decode_rest]
    cases last with
    | false => exact ⟨charset.scan_rest_suffix bytes, fun _ => Nat.lt_of_le_of_lt hlength hfour⟩
    | true => exact ⟨List.nil_suffix, fun _ => Nat.lt_of_lt_of_le (Nat.zero_lt_succ 3) hfour⟩
  · intro text ready hsink hready hcalls byte hbreak
    have hnone := pending_after_of_empties (.inr (.inr ⟨byte, rfl, hbreak⟩)) b
    have htracks := (tracks_withCapacity charset capacity hready).afterAll hsink calls hcalls
    have hcall : Call.writeByte byte ≠ .close := Call.noConfusion
    obtain ⟨-, htext, -⟩ := (htracks.after hsink hcall).pieces_eq
    rw [Sessions.ofCalls_concat]
    rwa [hnone] at htext

/-- A character is broken off by a line feed: nothing is pending afterwards, in a channel whose sink
has room for one character only just as in one whose sink has the whole line now. -/
theorem buffered_afterAll_line_feed :
    let calls : List Call := [.write [0x61, 0x62, 0xE2, 0x82], .decode false]
    let b := (withCapacity ({ room := 1 } : LimitedText) .utf8 0).afterAll calls
    let b' := (withCapacity ({} : TextBuffer) .utf8 0).afterAll calls
    b.pending = [0xE2, 0x82] ∧ Charset.utf8.Unfinished b.pending ∧
      (b.after (.writeByte 0x0A)).pending = [] ∧
      (b'.after (.writeByte 0x0A)).sink.text.toList = ['a', 'b', replacement, '\n'] := by
  intro calls b b'
  obtain ⟨-, -, -, hpass, -⟩ := buffered_afterAll ({ room := 1 } : LimitedText) .utf8 0
    [.write [0x61, 0x62, 0xE2, 0x82]]
  obtain ⟨-, -, hempties, -⟩ := buffered_afterAll ({ room := 1 } : LimitedText) .utf8 0 calls
  obtain ⟨-, -, -, -, -, hvisible⟩ := buffered_afterAll ({} : TextBuffer) .utf8 0 calls
  refine ⟨by decide, (hpass _ (.inl rfl)).1, hempties _ (.inr (.inr ⟨0x0A, rfl, .inl rfl⟩)), ?_⟩
  exact (hvisible _ _ TextBuffer.takesAll rfl (by decide) 0x0A (.inl rfl)).trans (by decide)

end Bridge

end ScriptHost
