import ScriptHost.Proofs.Utf8.Sequence

/-!
# What a byte string decodes to

`Utf8.Reads` says what the pieces of a byte string are, without a machine that finds them: it goes
from left to right, takes what is written for a scalar value as that value, and takes as one
malformed piece each beginning of a sequence that is not continued, and each byte that begins
nothing.  Sequences are the ones that `Utf8.encode` writes; the table of byte ranges does not occur.

`Utf8.Pass` says the same of a byte string that may go on later.  Its end may cut a sequence short,
and then the bytes of that sequence are no piece yet but are held.

* `pass_iff` — the byte-by-byte scan makes the one pass there is over a byte string;
* `Pass.reads` — the bytes before those that a pass holds read as its pieces;
* `reads_iff` — ending the scan gives the pieces of the whole byte string, so that every byte string
  has pieces, and only one list of them.

**The bytes in hand are a clean cut.**  `scan_held`: scanning the bytes that are still held finds
no piece and holds them again.  So a pass may forget everything else, and start on them afresh.
-/

set_option autoImplicit false

namespace ScriptHost.Utf8

/-! ## Pieces, declaratively -/

/-- The bytes begin the sequence of some scalar value. -/
def Begins (bytes : List UInt8) : Prop := ∃ c : Char, bytes <+: encode c

/-- The bytes begin the sequence of some scalar value and do not complete it. -/
def Unfinished (bytes : List UInt8) : Prop :=
  ∃ (c : Char) (more : List UInt8), more ≠ [] ∧ bytes ++ more = encode c

/-- `Reads next bytes pieces`: the bytes, with the bytes `next` after them, read as the pieces. -/
inductive Reads (next : List UInt8) : List UInt8 → List Piece → Prop
  | nil : Reads next [] []
  /-- A well-formed sequence is its scalar value. -/
  | scalar (c : Char) {rest : List UInt8} {pieces : List Piece} (h : Reads next rest pieces) :
      Reads next (encode c ++ rest) (.scalar c :: pieces)
  /-- The beginning of a sequence that the following byte, if there is one, does not continue is
  one malformed piece.  So it is a longest such beginning. -/
  | cut {held rest : List UInt8} {pieces : List Piece} (hne : held ≠ []) (hheld : Unfinished held)
      (hstop : ∀ byte ∈ (rest ++ next).head?, ¬ Begins (held ++ [byte]))
      (h : Reads next rest pieces) : Reads next (held ++ rest) (.malformed :: pieces)
  /-- A byte that begins nothing is a malformed piece by itself. -/
  | stray {byte : UInt8} {rest : List UInt8} {pieces : List Piece} (hstray : ¬ Begins [byte])
      (h : Reads next rest pieces) : Reads next (byte :: rest) (.malformed :: pieces)

/-- `Pass bytes pieces held`: read from left to right, the bytes are the pieces, and their end is
met inside the sequence that the bytes `held` begin.  If the last sequence is complete, nothing is
held. -/
inductive Pass : List UInt8 → List Piece → List UInt8 → Prop
  | stop {held : List UInt8} (hheld : Unfinished held) : Pass held [] held
  | scalar (c : Char) {rest held : List UInt8} {pieces : List Piece} (h : Pass rest pieces held) :
      Pass (encode c ++ rest) (.scalar c :: pieces) held
  /-- The beginning of a sequence is malformed only where another byte follows. -/
  | cut {start rest held : List UInt8} {byte : UInt8} {pieces : List Piece} (hne : start ≠ [])
      (hstart : Unfinished start) (hstop : ¬ Begins (start ++ [byte]))
      (h : Pass (byte :: rest) pieces held) :
      Pass (start ++ byte :: rest) (.malformed :: pieces) held
  | stray {byte : UInt8} {rest held : List UInt8} {pieces : List Piece} (hstray : ¬ Begins [byte])
      (h : Pass rest pieces held) : Pass (byte :: rest) (.malformed :: pieces) held

theorem unfinished_iff {bytes : List UInt8} : Unfinished bytes ↔ reading bytes = .incomplete :=
  reading_eq_incomplete_iff.symm

theorem not_begins_iff {bytes : List UInt8} : ¬ Begins bytes ↔ reading bytes = .illFormed := by
  rw [reading_eq_illFormed_iff, Begins, not_exists]

theorem unfinished_nil : Unfinished [] := unfinished_iff.2 rfl

theorem Unfinished.length_le {bytes : List UInt8} (h : Unfinished bytes) : bytes.length ≤ 3 := by
  obtain ⟨c, more, hmore, hc⟩ := h
  have hlen : (bytes ++ more).length ≤ 4 := hc ▸ length_encode_le c
  have hpos : 0 < more.length := List.length_pos_iff.2 hmore
  rw [List.length_append] at hlen
  omega

theorem Unfinished.exists_wellFormed {bytes : List UInt8} (h : Unfinished bytes) :
    ∃ (more : List UInt8) (n : Nat), more ≠ [] ∧ WellFormed (bytes ++ more) n := by
  obtain ⟨c, more, hmore, hc⟩ := h
  exact ⟨more, c.toNat, hmore, wellFormed_iff.2 ⟨c, rfl, hc.symm⟩⟩

/-- The bytes below 0x80 are whole sequences, so none of them waits for more. -/
theorem Unfinished.le_toNat_of_mem {bytes : List UInt8} (h : Unfinished bytes) {byte : UInt8}
    (hmem : byte ∈ bytes) : 0x80 ≤ byte.toNat := by
  obtain ⟨more, n, hmore, hall⟩ := h.exists_wellFormed
  generalize hbytes : bytes ++ more = all at hall
  cases hall with
  | one ha =>
    have hlength : bytes.length + more.length = 1 := by
      rw [← List.length_append, hbytes]
      rfl
    have hpos := List.length_pos_of_mem hmem
    have hpos' := List.length_pos_iff.2 hmore
    omega
  | more h => exact h.le_toNat_of_mem byte (hbytes ▸ List.mem_append_left more hmem)

/-- What reads in front of `next` also reads by itself. -/
theorem Reads.alone {next bytes : List UInt8} {pieces : List Piece} (h : Reads next bytes pieces) :
    Reads [] bytes pieces := by
  induction h with
  | nil => exact .nil
  | scalar c _ ih => exact .scalar c ih
  | @cut held rest pieces hne hheld hstop _ ih =>
    refine .cut hne hheld (fun byte hb => hstop byte ?_) ih
    rw [List.append_nil] at hb
    rw [List.head?_append, Option.mem_def.1 hb]
    rfl
  | stray hstray _ ih => exact .stray hstray ih

theorem Reads.append {next a b : List UInt8} {pieces pieces' : List Piece}
    (h : Reads (b ++ next) a pieces) (h' : Reads next b pieces') :
    Reads next (a ++ b) (pieces ++ pieces') := by
  induction h with
  | nil => exact h'
  | scalar c _ ih =>
    rw [List.append_assoc]
    exact .scalar c ih
  | cut hne hheld hstop _ ih =>
    rw [List.append_assoc]
    exact .cut hne hheld (by rwa [List.append_assoc]) ih
  | stray hstray _ ih => exact .stray hstray ih

/-- What a pass holds is at the end, and what comes before it reads as the pieces. -/
theorem Pass.reads {bytes held : List UInt8} {pieces : List Piece} (h : Pass bytes pieces held) :
    ∃ done : List UInt8, bytes = done ++ held ∧ Reads held done pieces := by
  induction h with
  | stop => exact ⟨[], rfl, .nil⟩
  | scalar c _ ih =>
    obtain ⟨done, rfl, hreads⟩ := ih
    exact ⟨encode c ++ done, (List.append_assoc _ _ _).symm, .scalar c hreads⟩
  | @cut start rest held byte pieces hne hstart hstop _ ih =>
    obtain ⟨done, hdone, hreads⟩ := ih
    refine ⟨start ++ done, by rw [hdone, List.append_assoc], .cut hne hstart ?_ hreads⟩
    intro next hnext
    rw [← hdone, List.head?_cons, Option.mem_some] at hnext
    exact hnext ▸ hstop
  | stray hstray _ ih =>
    obtain ⟨done, rfl, hreads⟩ := ih
    exact ⟨_ :: done, rfl, .stray hstray hreads⟩

theorem Pass.unfinished {bytes held : List UInt8} {pieces : List Piece}
    (h : Pass bytes pieces held) : Unfinished held := by
  induction h with
  | stop hheld => exact hheld
  | scalar _ _ ih => exact ih
  | cut _ _ _ _ ih => exact ih
  | stray _ _ ih => exact ih

/-! ## The scan makes a pass -/

/-- A byte that does not continue the bytes in hand ends them, and is then read afresh. -/
theorem step_of_illFormed {held : List UInt8} {byte : UInt8} (hne : held ≠ [])
    (h : reading (held ++ [byte]) = .illFormed) :
    step held byte = ⟨.malformed :: (step [] byte).pieces, (step [] byte).rest⟩ := by
  rw [step, h]
  simp only [if_neg hne, step, List.nil_append]
  cases reading [byte] <;> rfl

theorem scan_of_illFormed {held : List UInt8} {byte : UInt8} (bytes : List UInt8) (hne : held ≠ [])
    (h : reading (held ++ [byte]) = .illFormed) :
    scan held (byte :: bytes) =
      ⟨.malformed :: (scan [] (byte :: bytes)).pieces, (scan [] (byte :: bytes)).rest⟩ := by
  simp only [scan, step_of_illFormed hne h, List.cons_append]

theorem scan_of_stray {byte : UInt8} (h : reading [byte] = .illFormed) (bytes : List UInt8) :
    scan [] (byte :: bytes) = ⟨.malformed :: (scan [] bytes).pieces, (scan [] bytes).rest⟩ := by
  have hs : step [] byte = ⟨[.malformed], []⟩ := by simp [step, h]
  rw [scan, hs]
  rfl

/-- **The scan makes a pass**, which starts with the bytes in hand. -/
theorem pass_scan {held : List UInt8} (hheld : Unfinished held) (bytes : List UInt8) :
    Pass (held ++ bytes) (scan held bytes).pieces (scan held bytes).rest := by
  induction bytes generalizing held with
  | nil =>
    rw [List.append_nil]
    exact .stop hheld
  | cons byte bytes ih =>
    -- the byte goes on with the bytes in hand, if there are any
    have goesOn (held : List UInt8) (hheld : Unfinished held)
        (hcont : held = [] ∨ reading (held ++ [byte]) ≠ .illFormed) :
        Pass (held ++ byte :: bytes) (scan held (byte :: bytes)).pieces
          (scan held (byte :: bytes)).rest := by
      rw [List.append_cons]
      cases hr : reading (held ++ [byte]) with
      | scalar c =>
        have hs : step held byte = ⟨[.scalar c], []⟩ := by simp [step, hr]
        rw [reading_eq_scalar_iff.1 hr, scan, hs]
        exact .scalar c (ih unfinished_nil)
      | incomplete =>
        have hs : step held byte = ⟨[], held ++ [byte]⟩ := by simp [step, hr]
        rw [scan, hs]
        exact ih (unfinished_iff.2 hr)
      | illFormed =>
        obtain rfl : held = [] := hcont.resolve_right (not_not_intro hr)
        rw [scan_of_stray hr]
        exact .stray (not_begins_iff.2 hr) (ih unfinished_nil)
    by_cases hr : reading (held ++ [byte]) = .illFormed
    · by_cases hne : held = []
      · exact goesOn held hheld (.inl hne)
      · -- the byte ends them, and is then read afresh
        rw [scan_of_illFormed bytes hne hr]
        exact .cut hne hheld (not_begins_iff.2 hr) (goesOn [] unfinished_nil (.inl rfl))
    · exact goesOn held hheld (.inr hr)

theorem reading_scan_rest {held : List UInt8} (h : reading held = .incomplete)
    (bytes : List UInt8) : reading (scan held bytes).rest = .incomplete :=
  unfinished_iff.1 (pass_scan (unfinished_iff.2 h) bytes).unfinished

/-! ## Starting afresh on the bytes in hand -/

/-- As long as the bytes are incomplete they are held. -/
theorem scan_of_incomplete {held bytes : List UInt8} (h : reading (held ++ bytes) = .incomplete) :
    scan held bytes = ⟨[], held ++ bytes⟩ := by
  induction bytes generalizing held with
  | nil => rw [scan, List.append_nil]
  | cons byte bytes ih =>
    have hb : reading (held ++ [byte]) = .incomplete := by
      by_cases hbytes : bytes = []
      · rwa [← hbytes]
      · refine @reading_of_append _ bytes ?_ hbytes
        rw [List.append_assoc, List.singleton_append, h]
        exact Reading.noConfusion
    have hs : step held byte = ⟨[], held ++ [byte]⟩ := by rw [step, hb]
    rw [scan, hs, ih (by rwa [List.append_assoc]), List.append_assoc]
    rfl

/-- **The bytes in hand are a clean cut.** -/
theorem scan_held {held : List UInt8} (h : reading held = .incomplete) :
    scan [] held = ⟨[], held⟩ :=
  scan_of_incomplete h

/-- Going on with the bytes in hand is starting afresh in front of them. -/
theorem scan_eq_scan_nil {held : List UInt8} (h : reading held = .incomplete)
    (bytes : List UInt8) : scan held bytes = scan [] (held ++ bytes) := by
  rw [scan_append, scan_held h]
  rfl

theorem scan_encode (c : Char) (bytes : List UInt8) :
    scan [] (encode c ++ bytes) = ⟨.scalar c :: (scan [] bytes).pieces, (scan [] bytes).rest⟩ := by
  rcases List.eq_nil_or_concat (encode c) with h | ⟨held, byte, h⟩
  · exact absurd h (encode_ne_nil c)
  · have hheld : reading held = .incomplete :=
      reading_eq_incomplete_iff.2
        ⟨c, [byte], List.cons_ne_nil _ _, by rw [h, List.concat_eq_append]⟩
    have hs : step held byte = ⟨[.scalar c], []⟩ := by
      rw [step, ← List.concat_eq_append, ← h, reading_encode]
    rw [h, List.concat_eq_append, List.append_assoc, ← scan_eq_scan_nil hheld,
      List.singleton_append, scan, hs]
    rfl

/-- **Every byte string has exactly one pass**, and the scan makes it. -/
theorem pass_iff {bytes held : List UInt8} {ps : List Piece} :
    Pass bytes ps held ↔ scan [] bytes = ⟨ps, held⟩ := by
  constructor
  · intro h
    induction h with
    | stop hheld => exact scan_held (unfinished_iff.1 hheld)
    | scalar c _ ih => rw [scan_encode, ih]
    | cut hne hstart hstop _ ih =>
      rw [← scan_eq_scan_nil (unfinished_iff.1 hstart),
        scan_of_illFormed _ hne (not_begins_iff.1 hstop), ih]
    | stray hstray _ ih => rw [scan_of_stray (not_begins_iff.1 hstray), ih]
  · intro h
    have hpass : Pass bytes (scan [] bytes).pieces (scan [] bytes).rest :=
      pass_scan unfinished_nil bytes
    rwa [h] at hpass

/-! ## The pieces of a whole byte string -/

/-- The pieces of a byte string that is read to its end. -/
def pieces (bytes : List UInt8) : List Piece := (scan [] bytes).finish.pieces

/-- Ending a scan concerns only the bytes in hand, not what was read before. -/
theorem finish_append (before ps : List Piece) (rest : List UInt8) :
    (Scan.mk (before ++ ps) rest).finish.pieces = before ++ (Scan.mk ps rest).finish.pieces := by
  simp only [Scan.finish]
  split
  · rfl
  · exact List.append_assoc _ _ _

theorem finish_rest (s : Scan) : s.finish.rest = [] := by
  rw [Scan.finish]
  split
  · assumption
  · rfl

theorem pieces_encode_append (c : Char) (bytes : List UInt8) :
    pieces (encode c ++ bytes) = .scalar c :: pieces bytes := by
  rw [pieces, scan_encode]
  exact finish_append [.scalar c] _ _

theorem pieces_stray {byte : UInt8} (h : reading [byte] = .illFormed) (bytes : List UInt8) :
    pieces (byte :: bytes) = .malformed :: pieces bytes := by
  rw [pieces, scan_of_stray h]
  exact finish_append [.malformed] _ _

theorem pieces_cut {held rest : List UInt8} (hne : held ≠ []) (hheld : reading held = .incomplete)
    (hstop : ∀ byte ∈ rest.head?, reading (held ++ [byte]) = .illFormed) :
    pieces (held ++ rest) = .malformed :: pieces rest := by
  match rest with
  | [] =>
    rw [List.append_nil, pieces, scan_held hheld, Scan.finish, if_neg hne]
    rfl
  | byte :: bytes =>
    rw [pieces, ← scan_eq_scan_nil hheld,
      scan_of_illFormed bytes hne (hstop byte (List.head?_cons ▸ rfl))]
    exact finish_append [.malformed] _ _

/-- **Every byte string has exactly one list of pieces**, and ending the scan finds it. -/
theorem reads_iff {bytes : List UInt8} {ps : List Piece} :
    Reads [] bytes ps ↔ ps = pieces bytes := by
  constructor
  · intro h
    induction h with
    | nil => rfl
    | scalar c _ ih => rw [pieces_encode_append, ih]
    | cut hne hheld hstop _ ih =>
      rw [List.append_nil] at hstop
      rw [pieces_cut hne (unfinished_iff.1 hheld)
        (fun byte hb => not_begins_iff.1 (hstop byte hb)), ih]
    | stray hstray _ ih => rw [pieces_stray (not_begins_iff.1 hstray), ih]
  · rintro rfl
    have hpass : Pass bytes (scan [] bytes).pieces (scan [] bytes).rest :=
      pass_scan unfinished_nil bytes
    obtain ⟨done, hd, hreads⟩ := hpass.reads
    rw [pieces, Scan.finish]
    split
    · next h =>
      rw [h, List.append_nil] at hd
      rw [hd] at hreads ⊢
      exact hreads.alone
    · next h =>
      -- the bytes still held are one more piece, cut short by the end
      have hcut : Reads [] (scan [] bytes).rest [.malformed] := by
        rw [← List.append_nil (scan [] bytes).rest]
        exact .cut h hpass.unfinished (by simp) .nil
      have hall := Reads.append (by rwa [List.append_nil]) hcut
      rwa [← hd] at hall

/-- What the scan has read before the bytes in hand is read to its end: no piece of it hangs on the
bytes that follow. -/
theorem exists_done (bytes : List UInt8) :
    ∃ done : List UInt8, bytes = done ++ (scan [] bytes).rest ∧
      pieces done = (scan [] bytes).pieces := by
  obtain ⟨done, hd, hreads⟩ := (pass_scan unfinished_nil bytes).reads
  exact ⟨done, hd, (reads_iff.1 hreads.alone).symm⟩

end ScriptHost.Utf8
