import ScriptHost.Output.Sink
import ScriptHost.Text.Utf8

/-!
# Destinations for bytes

A `ByteWriter` takes bytes, perhaps fewer than it is given.  `ByteWriter.writeAll` keeps offering
the bytes that are left, and gives up when the writer takes none of them.

A `Utf8Sink` makes a sink of a writer: it writes each character as UTF-8.  When the writer runs out
of room inside a character, the bytes that went through stay written.
-/

set_option autoImplicit false

namespace ScriptHost

/-- A destination for bytes. -/
class ByteWriter (ω : Type) where
  /-- Takes some of the bytes from the front, and answers how many. -/
  write : ω → List UInt8 → Except IoError Nat × ω
  /-- Passes on what the writer may still hold back. -/
  flush : ω → Except IoError Unit × ω := fun writer => (.ok (), writer)

/-- Writes all of the bytes, in as many writes as it takes.  A write that takes no byte is an
error.  A standard library would try an interrupted write again; that is left out, and every error
of the writer ends the attempt. -/
def ByteWriter.writeAll {ω : Type} [ByteWriter ω] (writer : ω) (bytes : List UInt8) :
    Except IoError Unit × ω :=
  if bytes = [] then (.ok (), writer)
  else
    match write writer bytes with
    | (.error e, writer) => (.error e, writer)
    | (.ok 0, writer) => (.error .shortWrite, writer)
    | (.ok (n + 1), writer) => writeAll writer (bytes.drop (n + 1))
termination_by bytes.length
decreasing_by
  have : 0 < bytes.length := List.length_pos_iff.mpr (by assumption)
  rw [List.length_drop]
  omega

/-- A sink that writes its text as UTF-8. -/
structure Utf8Sink (ω : Type) where
  writer : ω
  deriving DecidableEq, Repr

instance {ω : Type} [ByteWriter ω] : Sink (Utf8Sink ω) where
  write sink c :=
    let written := ByteWriter.writeAll sink.writer (Utf8.encode c)
    (written.1, ⟨written.2⟩)
  flush sink :=
    let flushed := ByteWriter.flush sink.writer
    (flushed.1, ⟨flushed.2⟩)

/-- A writer with room for a fixed number of bytes. -/
structure BoundedWriter where
  /-- How many bytes fit in all. -/
  room : Nat
  /-- The bytes written so far. -/
  bytes : List UInt8 := []
  /-- How often the writer was flushed. -/
  flushes : Nat := 0
  deriving DecidableEq, Repr

/-- A bounded writer takes as many bytes as still fit. -/
instance : ByteWriter BoundedWriter where
  write writer bytes :=
    let n := min (writer.room - writer.bytes.length) bytes.length
    (.ok n, { writer with bytes := writer.bytes ++ bytes.take n })
  flush writer := (.ok (), { writer with flushes := writer.flushes + 1 })

end ScriptHost
