import ScriptHost.Output.Decoded
import ScriptHost.Proofs.Utf8.Decoding

/-!
# Decoding in one piece

A channel decodes in passes, and the passes cut the bytes anywhere.  What they are measured against
is decoding a whole byte string in one piece:

* `Charset.Decodes` says what the pieces of a byte string are, for either charset;
* `Charset.reference` computes them (`decodes_iff`);
* `Charset.scan` is what one pass does, with the bytes that it leaves (`decode_eq`).

**Passes compose.**  `Charset.scan_append`: a pass over the bytes that the last one left and the
bytes that came after them goes on exactly where the last one stopped.  So it does not matter where
the bytes are cut (`decode_append`).

`decode_utf8` puts together what a pass over UTF-8 does with any byte string.
-/

set_option autoImplicit false

namespace ScriptHost.Charset

open Utf8

/-- `charset.Decodes bytes ps`: decoded in one piece, the bytes are the pieces `ps`.  In Latin-1
each byte is the code point of one character. -/
def Decodes (charset : Charset) (bytes : List UInt8) (ps : List Piece) : Prop :=
  match charset with
  | .utf8 => Reads [] bytes ps
  | .latin1 => ∃ text : List Char, ps = text.map .scalar ∧
      text.map Char.toNat = bytes.map UInt8.toNat

/-- What a pass over the bytes reads, and what it leaves. -/
def scan (charset : Charset) (bytes : List UInt8) : Scan :=
  match charset with
  | .utf8 => Utf8.scan [] bytes
  | .latin1 => ⟨bytes.map fun byte => .scalar (Char.ofNat byte.toNat), []⟩

/-- The pieces of a byte string that is decoded in one piece. -/
def reference (charset : Charset) (bytes : List UInt8) : List Piece :=
  (charset.scan bytes).finish.pieces

theorem scan_nil (charset : Charset) : charset.scan [] = ⟨[], []⟩ := by
  cases charset <;> rfl

theorem reference_nil (charset : Charset) : charset.reference [] = [] := by
  cases charset <;> rfl

theorem toNat_ofNat_byte (byte : UInt8) : (Char.ofNat byte.toNat).toNat = byte.toNat :=
  toNat_ofNat_of_isValidChar (.inl (Nat.lt_trans byte.toNat_lt (by decide)))

theorem reference_latin1 (bytes : List UInt8) :
    latin1.reference bytes = (bytes.map fun byte => Char.ofNat byte.toNat).map .scalar := by
  rw [List.map_map]
  rfl

/-- **Every byte string decodes in exactly one way.** -/
theorem decodes_iff {charset : Charset} {bytes : List UInt8} {ps : List Piece} :
    charset.Decodes bytes ps ↔ ps = charset.reference bytes := by
  cases charset with
  | utf8 => exact reads_iff
  | latin1 =>
    rw [reference_latin1]
    constructor
    · rintro ⟨text, rfl, htext⟩
      congr 1
      have hback : (text.map Char.toNat).map Char.ofNat = text := by
        rw [List.map_map]
        exact List.map_id'' Char.ofNat_toNat text
      rw [← hback, htext, List.map_map]
      rfl
    · rintro rfl
      refine ⟨_, rfl, ?_⟩
      rw [List.map_map]
      exact List.map_congr_left fun byte _ => toNat_ofNat_byte byte

/-- A pass, in terms of the scan. -/
theorem decode_eq (charset : Charset) (bytes : List UInt8) (last : Bool) :
    charset.decode bytes last =
      let s := if last then (charset.scan bytes).finish else charset.scan bytes
      ⟨s.text, s.malformed, s.rest⟩ := by
  cases charset with
  | utf8 => rfl
  | latin1 =>
    have hfinish : (latin1.scan bytes).finish = latin1.scan bytes := if_pos rfl
    have htext : (latin1.scan bytes).text = bytes.map fun byte => Char.ofNat byte.toNat := by
      rw [Scan.text, scan, List.map_map]
      rfl
    have hcount : (latin1.scan bytes).malformed = 0 := List.count_eq_zero.2 (by simp [scan])
    simp only [hfinish, ite_self, htext, hcount]
    rfl

theorem decode_rest (charset : Charset) (bytes : List UInt8) (last : Bool) :
    (charset.decode bytes last).rest = if last then [] else (charset.scan bytes).rest := by
  rw [decode_eq]
  cases last with
  | false => rfl
  | true => exact finish_rest _

/-- **Passes compose.** -/
theorem scan_append (charset : Charset) (a b : List UInt8) :
    charset.scan (a ++ b) =
      ⟨(charset.scan a).pieces ++ (charset.scan ((charset.scan a).rest ++ b)).pieces,
        (charset.scan ((charset.scan a).rest ++ b)).rest⟩ := by
  cases charset with
  | utf8 =>
    rw [scan, Utf8.scan_append, scan_eq_scan_nil (reading_scan_rest rfl a)]
    rfl
  | latin1 => simp only [scan, List.map_append, List.nil_append]

/-- The last pass reads to the end. -/
theorem reference_append (charset : Charset) (a b : List UInt8) :
    charset.reference (a ++ b) =
      (charset.scan a).pieces ++ charset.reference ((charset.scan a).rest ++ b) := by
  rw [reference, scan_append]
  exact finish_append _ _ _

/-- **What a pass leaves is at the end,** and what comes before it is decoded as if nothing
followed. -/
theorem exists_done (charset : Charset) (bytes : List UInt8) :
    ∃ done : List UInt8, bytes = done ++ (charset.scan bytes).rest ∧
      charset.reference done = (charset.scan bytes).pieces := by
  cases charset with
  | utf8 => exact Utf8.exists_done bytes
  | latin1 => exact ⟨bytes, by simp [scan], rfl⟩

/-! ## One pass -/

/-- **It does not matter where the bytes are cut.** -/
theorem decode_append (charset : Charset) (a b : List UInt8) (last : Bool) :
    charset.decode (a ++ b) last =
      let first := charset.decode a false
      let second := charset.decode (first.rest ++ b) last
      ⟨first.text ++ second.text, first.malformed + second.malformed, second.rest⟩ := by
  simp only [decode_eq, scan_append charset a b, Bool.false_eq_true, if_false]
  cases last with
  | false =>
    simp only [Bool.false_eq_true, if_false, Scan.text, Scan.malformed, List.map_append,
      List.count_append]
  | true =>
    simp only [if_true, Scan.text, Scan.malformed, finish_append, finish_rest, List.map_append,
      List.count_append]

/-- A pass that ends inside a sequence counts it as malformed if it is the last one. -/
theorem decode_utf8_last (bytes : List UInt8) :
    utf8.decode bytes true =
      let d := utf8.decode bytes false
      if d.rest = [] then ⟨d.text, d.malformed, []⟩
      else ⟨d.text ++ [replacement], d.malformed + 1, []⟩ := by
  simp only [decode_eq, Bool.false_eq_true, if_false, if_true, Scan.finish]
  split
  · next h => exact congrArg (Decoded.mk _ _) h
  · simp only [Scan.text, Scan.malformed, List.map_append, List.count_append]
    rfl

/-- **What a pass over UTF-8 does.**  Whether or not it is the last one, its text is that of the
pieces that the bytes before the rest read as: the scalar value of each well-formed one, and U+FFFD
for each malformed one.

There is exactly one way to pass over the bytes until their end, and what a pass leaves that is not
the last one is the sequence that the end cuts short: at most three bytes, which some well-formed
sequence continues.  The last pass takes them for one malformed piece.

Passing over the bytes in parts has the same outcome.  And sequences are those of the table. -/
theorem decode_utf8 (bytes : List UInt8) :
    let text : List Piece → List Char := List.map fun
      | .scalar c => c
      | .malformed => '\uFFFD'
    (∀ last : Bool, ∃ (done : List UInt8) (ps : List Piece),
        bytes = done ++ (utf8.decode bytes last).rest ∧
        Reads (utf8.decode bytes last).rest done ps ∧
        (utf8.decode bytes last).text = text ps ∧
        (utf8.decode bytes last).malformed = ps.count .malformed) ∧
      (∃ (ps : List Piece) (held : List UInt8),
        (∀ ps' held', Pass bytes ps' held' ↔ ps' = ps ∧ held' = held) ∧
        held.length ≤ 3 ∧
        (∃ (more : List UInt8) (n : Nat), more ≠ [] ∧ WellFormed (held ++ more) n) ∧
        utf8.decode bytes false = ⟨text ps, ps.count .malformed, held⟩ ∧
        utf8.decode bytes true =
          if held = [] then ⟨text ps, ps.count .malformed, []⟩
          else ⟨text ps ++ ['\uFFFD'], ps.count .malformed + 1, []⟩) ∧
      (∀ (more : List UInt8) (last : Bool),
        utf8.decode (bytes ++ more) last =
          let first := utf8.decode bytes false
          let second := utf8.decode (first.rest ++ more) last
          ⟨first.text ++ second.text, first.malformed + second.malformed, second.rest⟩) ∧
      (∀ (sequence : List UInt8) (n : Nat),
        WellFormed sequence n ↔ ∃ c : Char, c.toNat = n ∧ encode c = sequence) := by
  intro text
  have hpass : Pass bytes (Utf8.scan [] bytes).pieces (Utf8.scan [] bytes).rest :=
    pass_scan unfinished_nil bytes
  refine ⟨fun last => ?_, ?_, decode_append utf8 bytes, fun _ _ => wellFormed_iff⟩
  · cases last with
    | false =>
      obtain ⟨done, hdone, hreads⟩ := hpass.reads
      exact ⟨done, _, hdone, hreads, rfl, rfl⟩
    | true =>
      have hrest : (utf8.decode bytes true).rest = [] := finish_rest _
      refine ⟨bytes, pieces bytes, ?_, ?_, rfl, rfl⟩
      · rw [hrest, List.append_nil]
      · rw [hrest]
        exact reads_iff.2 rfl
  · refine ⟨(Utf8.scan [] bytes).pieces, (Utf8.scan [] bytes).rest, fun ps' held' => ?_,
      hpass.unfinished.length_le, hpass.unfinished.exists_wellFormed, rfl, decode_utf8_last bytes⟩
    rw [pass_iff, ← Scan.mk.injEq, eq_comm]

example : utf8.decode [0xE2, 0x82, 0x41, 0xC0, 0xC3] false =
    ⟨['\uFFFD', 'A', '\uFFFD'], 2, [0xC3]⟩ := by
  decide

end ScriptHost.Charset
