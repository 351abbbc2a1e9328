/-!
# UTF-8, byte by byte

A byte string that claims to be UTF-8 may be cut anywhere and may be malformed anywhere.  This
file reads such strings one byte at a time.

* `Utf8.rows` is the table of well-formed byte sequences (Table 3-7 of the Unicode standard): which
  second byte may follow which first byte, and how long the sequence is.  It leaves out overlong
  forms, surrogates and everything above U+10FFFF.
* `Utf8.reading` classifies the bytes of *one* sequence: they spell a scalar value, they are a
  proper beginning of some well-formed sequence, or neither.
* `Utf8.scan` runs over a byte string with the bytes of the sequence it is inside of in hand.  Its
  answer is a list of `Piece`s, each a scalar value or a malformed sequence, and the bytes of an
  unfinished sequence at the end.

**A malformed sequence is a longest one.**  When a byte does not continue the sequence in hand,
the bytes in hand are one malformed piece and the byte starts afresh; a byte that can start nothing
is a malformed piece by itself.  Because the scan decides at each byte from the bytes in hand
alone, it does not matter how a byte string is cut into parts: `Utf8.scan_append`.
-/

set_option autoImplicit false

namespace ScriptHost.Utf8

/-! ## One sequence -/

/-- A row of the table of well-formed sequences: sequences of `length` bytes whose first byte lies
between `firstLow` and `firstHigh` and whose second byte lies between `secondLow` and `secondHigh`.
All later bytes are trailing bytes. -/
structure Row where
  firstLow : UInt8
  firstHigh : UInt8
  secondLow : UInt8
  secondHigh : UInt8
  length : Nat

/-- The well-formed sequences of more than one byte. -/
def rows : List Row := [
  ⟨0xC2, 0xDF, 0x80, 0xBF, 2⟩,
  ⟨0xE0, 0xE0, 0xA0, 0xBF, 3⟩,
  ⟨0xE1, 0xEC, 0x80, 0xBF, 3⟩,
  ⟨0xED, 0xED, 0x80, 0x9F, 3⟩,
  ⟨0xEE, 0xEF, 0x80, 0xBF, 3⟩,
  ⟨0xF0, 0xF0, 0x90, 0xBF, 4⟩,
  ⟨0xF1, 0xF3, 0x80, 0xBF, 4⟩,
  ⟨0xF4, 0xF4, 0x80, 0x8F, 4⟩]

/-- The row of the sequences that start with `first`. -/
def Row.of? (first : UInt8) : Option Row :=
  rows.find? fun row => row.firstLow ≤ first && first ≤ row.firstHigh

/-- Whether `byte` is a trailing byte, one of `80` to `BF`. -/
def isTrailing (byte : UInt8) : Bool := 0x80 ≤ byte && byte ≤ 0xBF

/-- Whether the bytes after the first one agree with the row, as far as they go. -/
def Row.admits (row : Row) : List UInt8 → Bool
  | [] => true
  | second :: trail =>
    row.secondLow ≤ second && second ≤ row.secondHigh && trail.all isTrailing

/-- The code point that a complete sequence of the row spells: the payload bits of the first byte,
then six bits from each later one. -/
def Row.codePoint (row : Row) (first : UInt8) (rest : List UInt8) : Nat :=
  rest.foldl (fun n byte => n * 64 + byte.toNat % 64) (first.toNat % (0x80 >>> row.length))

/-- What the bytes of one sequence amount to. -/
inductive Reading where
  /-- They are the well-formed sequence of this scalar value. -/
  | scalar (c : Char)
  /-- They are a proper beginning of some well-formed sequence. -/
  | incomplete
  /-- They are not the beginning of any well-formed sequence. -/
  | illFormed
  deriving DecidableEq, Repr

/-- Reads the bytes of one sequence. -/
def reading : List UInt8 → Reading
  | [] => .incomplete
  | first :: rest =>
    if first < 0x80 then
      if rest = [] then .scalar (Char.ofNat first.toNat) else .illFormed
    else
      match Row.of? first with
      | none => .illFormed
      | some row =>
        if row.admits rest then
          if rest.length + 1 < row.length then .incomplete
          else if rest.length + 1 = row.length then
            .scalar (Char.ofNat (row.codePoint first rest))
          else .illFormed
        else .illFormed

/-! ## A string of sequences -/

/-- A part of a byte string that has been read. -/
inductive Piece where
  /-- A well-formed sequence. -/
  | scalar (c : Char)
  /-- A malformed sequence. -/
  | malformed
  deriving DecidableEq, Repr

/-- The character U+FFFD, which stands in the text for a malformed sequence. -/
def replacement : Char := '\uFFFD'

/-- The character that a piece contributes to the text. -/
def Piece.char : Piece → Char
  | .scalar c => c
  | .malformed => replacement

/-- What has been read of a byte string, and the bytes of the sequence that the end cuts short. -/
structure Scan where
  pieces : List Piece
  rest : List UInt8
  deriving DecidableEq, Repr

/-- Takes one byte more, with the bytes of the current sequence in hand. -/
def step (held : List UInt8) (byte : UInt8) : Scan :=
  match reading (held ++ [byte]) with
  | .scalar c => ⟨[.scalar c], []⟩
  | .incomplete => ⟨[], held ++ [byte]⟩
  | .illFormed =>
    if held = [] then ⟨[.malformed], []⟩
    else
      -- the sequence in hand ends here, and the byte starts the next one
      match reading [byte] with
      | .scalar c => ⟨[.malformed, .scalar c], []⟩
      | .incomplete => ⟨[.malformed], [byte]⟩
      | .illFormed => ⟨[.malformed, .malformed], []⟩

/-- Reads a byte string from left to right, with the bytes `held` of a sequence begun before. -/
def scan (held : List UInt8) : List UInt8 → Scan
  | [] => ⟨[], held⟩
  | byte :: bytes =>
    let here := step held byte
    let later := scan here.rest bytes
    ⟨here.pieces ++ later.pieces, later.rest⟩

/-- Ends the byte string: an unfinished sequence counts as one malformed piece. -/
def Scan.finish (s : Scan) : Scan :=
  if s.rest = [] then s else ⟨s.pieces ++ [.malformed], []⟩

/-- The text of the pieces. -/
def Scan.text (s : Scan) : List Char := s.pieces.map Piece.char

/-- The number of malformed sequences among the pieces. -/
def Scan.malformed (s : Scan) : Nat := s.pieces.count .malformed

/-- **Cuts do not matter.**  Reading `a ++ b` is reading `a` and then `b`, with the unfinished
sequence of `a` in hand. -/
theorem scan_append (held a b : List UInt8) :
    scan held (a ++ b) =
      ⟨(scan held a).pieces ++ (scan (scan held a).rest b).pieces,
        (scan (scan held a).rest b).rest⟩ := by
  induction a generalizing held with
  | nil => simp [scan]
  | cons byte bytes ih => simp [scan, ih]

/-! ## Writing -/

/-- The well-formed sequence of a scalar value. -/
def encode (c : Char) : List UInt8 := String.utf8EncodeChar c

/-- The bytes of a text. -/
def encodeAll (text : List Char) : List UInt8 := text.flatMap encode

/-- Reads a byte string that has to be well formed throughout. -/
def decode? (bytes : List UInt8) : Option (List Char) :=
  let s := (scan [] bytes).finish
  if s.malformed = 0 then some s.text else none

end ScriptHost.Utf8
