import ScriptHost.Settings
import ScriptHost.Text.Utf8

/-!
# Decoding the bytes of an output channel

`Charset.decode` makes one pass over the bytes that a channel holds.  A pass keeps no state of its own:
what it cannot decode yet, the beginning of a character whose other bytes have not arrived, it
gives back as `Decoded.rest`, and the caller puts these bytes in front of the next ones.

In the last pass nothing more will arrive, so the beginning of a character is malformed too.
-/

set_option autoImplicit false

namespace ScriptHost

/-- The outcome of one pass over some bytes. -/
structure Decoded where
  /-- The characters, with U+FFFD for each malformed sequence. -/
  text : List Char
  /-- The number of malformed sequences. -/
  malformed : Nat
  /-- The bytes left over, which start a character that is not yet complete. -/
  rest : List UInt8
  deriving DecidableEq, Repr

/-- Makes one pass over `bytes`. -/
def Charset.decode (charset : Charset) (bytes : List UInt8) (last : Bool) : Decoded :=
  match charset with
  | .utf8 =>
    let s := Utf8.scan [] bytes
    let s := if last then s.finish else s
    ⟨s.text, s.malformed, s.rest⟩
  | .latin1 => ⟨bytes.map fun byte => Char.ofNat byte.toNat, 0, []⟩

end ScriptHost
