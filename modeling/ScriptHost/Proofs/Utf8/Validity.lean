import ScriptHost.Proofs.Utf8.Decoding

/-!
# Valid byte strings

A byte string is `Valid` if it is made of well-formed sequences and nothing else.  Said so, validity
knows neither of writing nor of reading; here it is compared with both.

* `valid_iff` — the valid byte strings are those that are written for some text.
* `pieces_encodeAll_append` — writing and then reading a text gives it back, whatever follows it.
* `decode?_eq_some_iff` — reading and then writing gives the bytes back, if none of them is
  malformed.
* `count_malformed_eq_zero_iff` — and that is so exactly when they are valid.
-/

set_option autoImplicit false

namespace ScriptHost.Utf8

/-- The byte string is made of well-formed sequences. -/
inductive Valid : List UInt8 → Prop
  | nil : Valid []
  | append {sequence rest : List UInt8} {n : Nat} (hsequence : WellFormed sequence n)
      (hrest : Valid rest) : Valid (sequence ++ rest)

theorem valid_encodeAll (text : List Char) : Valid (encodeAll text) := by
  induction text with
  | nil => exact .nil
  | cons c rest ih => exact .append (wellFormed_iff.2 ⟨c, rfl, rfl⟩) ih

/-- **The valid byte strings are those that are written for some text.** -/
theorem valid_iff {bytes : List UInt8} :
    Valid bytes ↔ ∃ text : List Char, bytes = encodeAll text := by
  constructor
  · intro h
    induction h with
    | nil => exact ⟨[], rfl⟩
    | append hsequence _ ih =>
      obtain ⟨c, -, rfl⟩ := wellFormed_iff.1 hsequence
      obtain ⟨text, rfl⟩ := ih
      exact ⟨c :: text, rfl⟩
  · rintro ⟨text, rfl⟩
    exact valid_encodeAll text

/-! ## Reading what was written -/

/-- **A text is read as it was written,** and reading then goes on behind it. -/
theorem pieces_encodeAll_append (text : List Char) (bytes : List UInt8) :
    pieces (encodeAll text ++ bytes) = text.map .scalar ++ pieces bytes := by
  induction text with
  | nil => rfl
  | cons c rest ih =>
    calc pieces (encodeAll (c :: rest) ++ bytes)
        = pieces (encode c ++ (encodeAll rest ++ bytes)) :=
          congrArg pieces (List.append_assoc _ _ _)
      _ = .scalar c :: pieces (encodeAll rest ++ bytes) := pieces_encode_append c _
      _ = .scalar c :: (rest.map .scalar ++ pieces bytes) := congrArg _ ih

theorem pieces_encodeAll (text : List Char) : pieces (encodeAll text) = text.map .scalar := by
  have h := pieces_encodeAll_append text []
  rwa [List.append_nil, show pieces [] = [] from rfl, List.append_nil] at h

/-- What was written is not malformed anywhere. -/
theorem count_malformed_encodeAll (text : List Char) :
    (pieces (encodeAll text)).count .malformed = 0 := by
  rw [pieces_encodeAll, List.count_eq_zero, List.mem_map]
  rintro ⟨c, -, hc⟩
  exact Piece.noConfusion hc

/-- Behind a valid byte string, reading starts afresh. -/
theorem Valid.pieces_append {bytes : List UInt8} (h : Valid bytes) (more : List UInt8) :
    pieces (bytes ++ more) = pieces bytes ++ pieces more := by
  obtain ⟨text, rfl⟩ := valid_iff.1 h
  rw [pieces_encodeAll_append, pieces_encodeAll]

/-! ## Writing what was read -/

/-- Without malformed pieces, the bytes are those of the characters. -/
theorem Reads.eq_encodeAll {next bytes : List UInt8} {ps : List Piece} (h : Reads next bytes ps)
    (hnone : .malformed ∉ ps) : bytes = encodeAll (ps.map Piece.char) := by
  induction h with
  | nil => rfl
  | scalar c _ ih => exact congrArg (encode c ++ ·) (ih (List.not_mem_of_not_mem_cons hnone))
  | cut => exact absurd List.mem_cons_self hnone
  | stray => exact absurd List.mem_cons_self hnone

/-- **A byte string that has to be well formed is read exactly if it was written.** -/
theorem decode?_eq_some_iff {bytes : List UInt8} {text : List Char} :
    decode? bytes = some text ↔ bytes = encodeAll text := by
  have hdecode : decode? bytes =
      if (pieces bytes).count .malformed = 0 then some ((pieces bytes).map Piece.char) else none :=
    rfl
  rw [hdecode]
  constructor
  · intro h
    split at h
    · next hnone =>
      obtain rfl := Option.some.inj h
      exact (reads_iff.2 rfl).eq_encodeAll (List.count_eq_zero.1 hnone)
    · contradiction
  · rintro rfl
    have htext : (text.map Piece.scalar).map Piece.char = text := by
      rw [List.map_map]
      exact List.map_id text
    rw [if_pos (count_malformed_encodeAll text), pieces_encodeAll, htext]

/-- **No piece is malformed exactly when the byte string is valid.** -/
theorem count_malformed_eq_zero_iff {bytes : List UInt8} :
    (pieces bytes).count .malformed = 0 ↔ Valid bytes := by
  constructor
  · intro h
    exact valid_iff.2 ⟨_, decode?_eq_some_iff.1 (if_pos h)⟩
  · intro h
    obtain ⟨text, rfl⟩ := valid_iff.1 h
    exact count_malformed_encodeAll text

/-- **A valid byte string is written again as it was read.** -/
theorem Valid.encodeAll_pieces {bytes : List UInt8} (h : Valid bytes) :
    encodeAll ((pieces bytes).map Piece.char) = bytes :=
  (decode?_eq_some_iff.1 (if_pos (count_malformed_eq_zero_iff.2 h))).symm

end ScriptHost.Utf8
