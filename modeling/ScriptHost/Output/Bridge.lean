import ScriptHost.Action
import ScriptHost.Output.Decoded
import ScriptHost.Output.Sink

/-!
# Output channels: from bytes to text

The interpreter writes bytes, the host wants text.  A `Bridge` stands between them.  It collects
bytes and decodes them, pass by pass, into characters that it offers to its sink.

* **When a pass runs.**  When the buffer is full, and when a line feed or carriage return arrives, so
  that lines show up promptly; also on request, by `decode` and `flush`.
* **What a pass leaves.**  The bytes of a character that has not fully arrived stay pending.  A last
  pass leaves none, so whatever is written next starts afresh.
* **Malformed bytes** are replaced, counted and logged; they are never an error.
* **A sink that refuses** a character ends the pass.  The refusal is the error of the operation, and
  the characters that the pass had decoded but not yet offered are lost.

The buffer holds at least four bytes, so a pass over a full buffer always makes room: no more than
three bytes can be the beginning of a character.
-/

set_option autoImplicit false

namespace ScriptHost

/-- An output channel: bytes in, characters out to a sink. -/
structure Bridge (σ : Type) where
  sink : σ
  charset : Charset
  /-- How many bytes may be pending. -/
  capacity : Nat
  /-- The longest UTF-8 sequence fits. -/
  four_le_capacity : 4 ≤ capacity
  /-- The bytes that were received and not yet decoded. -/
  pending : List UInt8 := []
  /-- The characters that were decoded and not yet offered to the sink. -/
  ready : List Char := []
  /-- How many malformed sequences have been replaced. -/
  malformed : Nat := 0

namespace Bridge

variable {σ : Type}

/-- A channel with a buffer of the given capacity, or of four bytes if that is less. -/
def withCapacity (sink : σ) (charset : Charset) (capacity : Nat) : Bridge σ where
  sink := sink
  charset := charset
  capacity := max capacity 4
  four_le_capacity := Nat.le_max_right capacity 4

/-- A channel with the usual capacity. -/
def new (sink : σ) (charset : Charset) : Bridge σ :=
  withCapacity sink charset (default : Settings).bufferCapacity

/-- How the channel shows itself in diagnostics. -/
def describe (b : Bridge σ) : String :=
  let charset := match b.charset with
    | .utf8 => "Utf8"
    | .latin1 => "Latin1"
  "OutputBridge \x7b charset: " ++ charset ++ ", capacity: " ++ toString b.capacity ++
    ", pending: " ++ toString b.pending.length ++ ", malformed: " ++ toString b.malformed ++ " \x7d"

/-- Works on the sink directly, past the channel. -/
def onSink (f : σ → Except IoError Unit × σ) : Action IoError (Bridge σ) Unit where
  run b :=
    let done := f b.sink
    ⟨done.1, { b with sink := done.2 }, []⟩

variable [Sink σ]

/-- Makes one pass: decodes the pending bytes and offers the characters to the sink.  A `last` pass
leaves no byte pending. -/
def decode (last : Bool) : Action IoError (Bridge σ) Unit where
  run b :=
    let decoded := b.charset.decode b.pending last
    let offered := Sink.offer b.sink (b.ready ++ decoded.text)
    { result := offered.1
      state := { b with
        sink := offered.2
        pending := if last then [] else decoded.rest
        ready := []
        malformed := b.malformed + decoded.malformed }
      events :=
        if decoded.malformed = 0 then [] else [.malformedOutput b.charset decoded.malformed] }

/-- Whether a pass is due right after `byte` has arrived. -/
def isDue (b : Bridge σ) (byte : UInt8) : Bool :=
  b.capacity ≤ b.pending.length || byte = 0x0A || byte = 0x0D

/-- Takes one byte, and makes a pass if one is due. -/
def writeByte (byte : UInt8) : Action IoError (Bridge σ) Unit := do
  modify fun b => { b with pending := b.pending ++ [byte] }
  if (← get).isDue byte then decode false

/-- Takes the bytes one after the other, up to the first error. -/
def writeBytes : List UInt8 → Action IoError (Bridge σ) Unit
  | [] => pure ()
  | byte :: rest => do
    writeByte byte
    writeBytes rest

/-- Writes the bytes and answers how many they are. -/
def write (bytes : List UInt8) : Action IoError (Bridge σ) Nat := do
  writeBytes bytes
  return bytes.length

/-- Writes all of the bytes, in as many writes as it takes.  A write that takes no byte is an
error.  A standard library would try an interrupted write again; that is left out, and every error
of the channel ends the attempt. -/
def writeAll (bytes : List UInt8) : Action IoError (Bridge σ) Unit :=
  if bytes = [] then pure ()
  else do
    let n ← write bytes
    if n = 0 then throw .shortWrite else writeAll (bytes.drop n)
termination_by bytes.length
decreasing_by
  have : 0 < bytes.length := List.length_pos_iff.mpr (by assumption)
  rw [List.length_drop]
  omega

/-- A channel takes all bytes in the first write, or fails. -/
theorem writeAll_eq (bytes : List UInt8) :
    (writeAll bytes : Action IoError (Bridge σ) Unit) = writeBytes bytes := by
  rw [writeAll]
  split
  · next h => rw [h, writeBytes]
  · next h =>
    have hlen : bytes.length ≠ 0 := fun hl => h (List.length_eq_zero_iff.1 hl)
    have hdone : (writeAll [] : Action IoError (Bridge σ) Unit) = pure () := by
      rw [writeAll, if_pos rfl]
    rw [write, bind_assoc]
    simp only [pure_bind, if_neg hlen, List.drop_length, hdone, bind_pure_unit]

/-- Makes a last pass and, if that went well, flushes the sink. -/
def flush : Action IoError (Bridge σ) Unit := do
  decode true
  onSink Sink.flush

/-- Closes the sink.  Bytes still pending are not decoded. -/
def close : Action IoError (Bridge σ) Unit := onSink Sink.close

end Bridge

end ScriptHost
