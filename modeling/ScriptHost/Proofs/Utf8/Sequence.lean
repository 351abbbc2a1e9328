import ScriptHost.Text.Utf8

/-!
# The table of well-formed sequences is exact

`Utf8.reading` decides from a table of byte ranges what the bytes of one sequence amount to.  Here
that is compared with writing, `Utf8.encode`, which knows no table:

* `reading_eq_scalar_iff` — bytes spell a scalar value exactly when they are what is written for it;
* `reading_eq_incomplete_iff` — they are incomplete exactly when they are a proper beginning of
  what is written for some scalar value;
* `reading_eq_illFormed_iff` — and ill-formed exactly when they begin nothing that is ever written.

Between the table and the arithmetic of writing stands `Multibyte`, the sequences of more than one
byte with the numbers that they spell: three shapes, each with the bounds on its first two bytes.
With the single bytes below 0x80 they are all of the `WellFormed` sequences (`wellFormed_iff`).
-/

set_option autoImplicit false

namespace ScriptHost.Utf8

/-! ## Sequences of more than one byte -/

theorem isTrailing_iff {byte : UInt8} :
    isTrailing byte = true ↔ 0x80 ≤ byte.toNat ∧ byte.toNat ≤ 0xBF := by
  simp [isTrailing, UInt8.le_iff_toNat_le]

theorem toNat_ofNat_of_isValidChar {n : Nat} (h : n.isValidChar) : (Char.ofNat n).toNat = n := by
  rw [Char.ofNat, dif_pos h]
  rfl

/-- `Multibyte bytes n`: the bytes are a well-formed sequence of two or more bytes, and spell the
scalar value `n`.  The bounds on the second byte keep out overlong forms, surrogates and what lies
above U+10FFFF. -/
inductive Multibyte : List UInt8 → Nat → Prop
  | two {a b : UInt8} (ha : 0xC2 ≤ a.toNat ∧ a.toNat ≤ 0xDF) (hb : isTrailing b = true) :
      Multibyte [a, b] (a.toNat % 32 * 64 + b.toNat % 64)
  | three {a b c : UInt8} (ha : 0xE0 ≤ a.toNat ∧ a.toNat ≤ 0xEF) (hb : isTrailing b = true)
      (hc : isTrailing c = true) (overlong : a.toNat = 0xE0 → 0xA0 ≤ b.toNat)
      (surrogate : a.toNat = 0xED → b.toNat ≤ 0x9F) :
      Multibyte [a, b, c] (a.toNat % 16 * 4096 + b.toNat % 64 * 64 + c.toNat % 64)
  | four {a b c d : UInt8} (ha : 0xF0 ≤ a.toNat ∧ a.toNat ≤ 0xF4) (hb : isTrailing b = true)
      (hc : isTrailing c = true) (hd : isTrailing d = true)
      (overlong : a.toNat = 0xF0 → 0x90 ≤ b.toNat) (top : a.toNat = 0xF4 → b.toNat ≤ 0x8F) :
      Multibyte [a, b, c, d]
        (a.toNat % 8 * 262144 + b.toNat % 64 * 4096 + c.toNat % 64 * 64 + d.toNat % 64)

theorem Multibyte.cast {bytes : List UInt8} {m n : Nat} (h : Multibyte bytes m) (hmn : m = n) :
    Multibyte bytes n := hmn ▸ h

/-- No sequence spells a surrogate or a number above U+10FFFF. -/
theorem Multibyte.isValidChar {bytes : List UInt8} {n : Nat} (h : Multibyte bytes n) :
    n.isValidChar := by
  unfold Nat.isValidChar
  cases h with
  | two ha hb => omega
  | three ha hb hc overlong surrogate =>
    rw [isTrailing_iff] at hb
    omega
  | four ha hb hc hd overlong top =>
    rw [isTrailing_iff] at hb
    omega

/-- What is spelled can be written, and writing it gives back the bytes. -/
theorem Multibyte.encode_ofNat {bytes : List UInt8} {n : Nat} (h : Multibyte bytes n) :
    encode (Char.ofNat n) = bytes := by
  have key : (Char.ofNat n).val.toNat = n := toNat_ofNat_of_isValidChar h.isValidChar
  rw [encode, String.utf8EncodeChar, key]
  cases h with
  | two ha hb =>
    rw [isTrailing_iff] at hb
    rw [if_neg (by omega), if_pos (by omega)]
    simp only [List.cons.injEq, ← UInt8.toNat_inj, UInt8.toNat_ofNat', and_true]
    omega
  | three ha hb hc overlong surrogate =>
    rw [isTrailing_iff] at hb hc
    rw [if_neg (by omega), if_neg (by omega), if_pos (by omega)]
    simp only [List.cons.injEq, ← UInt8.toNat_inj, UInt8.toNat_ofNat', and_true]
    omega
  | four ha hb hc hd overlong top =>
    rw [isTrailing_iff] at hb hc hd
    rw [if_neg (by omega), if_neg (by omega), if_neg (by omega)]
    simp only [List.cons.injEq, ← UInt8.toNat_inj, UInt8.toNat_ofNat', and_true]
    omega

/-- No byte of such a sequence is below 0x80. -/
theorem Multibyte.le_toNat_of_mem {bytes : List UInt8} {n : Nat} (h : Multibyte bytes n) :
    ∀ byte ∈ bytes, 0x80 ≤ byte.toNat := by
  cases h with
  | two ha hb =>
    rw [isTrailing_iff] at hb
    simp only [List.forall_mem_cons, List.not_mem_nil, false_implies, implies_true, and_true]
    omega
  | three ha hb hc overlong surrogate =>
    rw [isTrailing_iff] at hb hc
    simp only [List.forall_mem_cons, List.not_mem_nil, false_implies, implies_true, and_true]
    omega
  | four ha hb hc hd overlong top =>
    rw [isTrailing_iff] at hb hc hd
    simp only [List.forall_mem_cons, List.not_mem_nil, false_implies, implies_true, and_true]
    omega

/-- What is written for a scalar value beyond U+007F is a sequence of more than one byte. -/
theorem multibyte_encode {c : Char} (h : 0x80 ≤ c.toNat) : Multibyte (encode c) c.toNat := by
  have hv : c.toNat < 0xD800 ∨ (0xDFFF < c.toNat ∧ c.toNat < 0x110000) := c.valid
  have ht : ∀ v : Nat, isTrailing (UInt8.ofNat (v % 64 + 0x80)) = true := by
    intro v
    rw [isTrailing_iff, UInt8.toNat_ofNat']
    omega
  simp only [encode, String.utf8EncodeChar, show c.val.toNat = c.toNat from rfl]
  generalize c.toNat = v at h hv
  rw [if_neg (by omega)]
  split
  · refine (Multibyte.two ⟨?_, ?_⟩ (ht v)).cast ?_
    all_goals simp only [UInt8.toNat_ofNat']; omega
  · split
    · refine (Multibyte.three ⟨?_, ?_⟩ (ht (v / 64)) (ht v) ?_ ?_).cast ?_
      all_goals simp only [UInt8.toNat_ofNat']; omega
    · refine (Multibyte.four ⟨?_, ?_⟩ (ht (v / 4096)) (ht (v / 64)) (ht v) ?_ ?_).cast ?_
      all_goals simp only [UInt8.toNat_ofNat']; omega

/-! ## All well-formed sequences -/

/-- `WellFormed bytes n`: the bytes are a well-formed sequence, and spell the scalar value `n`. -/
inductive WellFormed : List UInt8 → Nat → Prop
  | one {a : UInt8} (ha : a.toNat ≤ 0x7F) : WellFormed [a] a.toNat
  | more {bytes : List UInt8} {n : Nat} (h : Multibyte bytes n) : WellFormed bytes n

theorem encode_of_le {c : Char} (h : c.toNat ≤ 0x7F) : encode c = [UInt8.ofNat c.toNat] :=
  if_pos h

theorem encode_ofNat_byte {a : UInt8} (h : a.toNat ≤ 0x7F) : encode (Char.ofNat a.toNat) = [a] := by
  have ha : (Char.ofNat a.toNat).toNat = a.toNat :=
    toNat_ofNat_of_isValidChar (.inl (by omega))
  rw [encode_of_le (ha.symm ▸ h), ha, UInt8.ofNat_toNat]

/-- **The well-formed sequences are those that are ever written.** -/
theorem wellFormed_iff {bytes : List UInt8} {n : Nat} :
    WellFormed bytes n ↔ ∃ c : Char, c.toNat = n ∧ encode c = bytes := by
  constructor
  · rintro (ha | h)
    · exact ⟨_, toNat_ofNat_of_isValidChar (.inl (by omega)), encode_ofNat_byte ha⟩
    · exact ⟨_, toNat_ofNat_of_isValidChar h.isValidChar, h.encode_ofNat⟩
  · rintro ⟨c, rfl, rfl⟩
    by_cases h : 0x80 ≤ c.toNat
    · exact .more (multibyte_encode h)
    · have hbyte : (UInt8.ofNat c.toNat).toNat = c.toNat :=
        UInt8.toNat_ofNat_of_lt' (Nat.lt_trans (Nat.not_le.1 h) (by decide))
      have hone : WellFormed [UInt8.ofNat c.toNat] (UInt8.ofNat c.toNat).toNat :=
        .one (by omega)
      rwa [hbyte, ← encode_of_le (by omega)] at hone

theorem length_encode_le (c : Char) : (encode c).length ≤ 4 := by
  rw [encode, String.length_utf8EncodeChar]
  exact Char.utf8Size_le_four c

/-! ## Rows of the table -/

/-- A first byte has at most one row: the rows do not overlap. -/
theorem Row.of?_eq_some_iff {first : UInt8} {row : Row} :
    Row.of? first = some row ↔ row ∈ rows ∧ row.firstLow ≤ first ∧ first ≤ row.firstHigh := by
  constructor
  · intro h
    have hp := List.find?_some h
    simp only [Bool.and_eq_true, decide_eq_true_eq] at hp
    exact ⟨List.mem_of_find?_eq_some h, hp⟩
  · rintro ⟨hm, hl, hh⟩
    have hsorted : rows.Pairwise fun row row' => row.firstHigh < row'.firstLow := by decide
    obtain ⟨before, after, hrows⟩ := List.append_of_mem hm
    rw [hrows, List.pairwise_append] at hsorted
    refine List.find?_eq_some_iff_append.2 ⟨by simp [hl, hh], before, after, hrows, ?_⟩
    intro row' hrow'
    have hlt : row'.firstHigh < first :=
      UInt8.lt_of_lt_of_le (hsorted.2.2 row' hrow' row List.mem_cons_self) hl
    simp [UInt8.not_le.2 hlt]

/-- The bytes agree with a row of the table, as far as they go. -/
structure Row.Starts (row : Row) (first : UInt8) (rest : List UInt8) : Prop where
  /-- It is a row of the table. -/
  mem : row ∈ rows
  low : row.firstLow ≤ first
  high : first ≤ row.firstHigh
  /-- The later bytes are in the ranges of the row. -/
  admits : row.admits rest = true

/-- A complete sequence of a row is one of the three shapes. -/
theorem Row.Starts.multibyte {row : Row} {first : UInt8} {rest : List UInt8}
    (h : row.Starts first rest) (hlen : rest.length + 1 = row.length) :
    Multibyte (first :: rest) (row.codePoint first rest) := by
  obtain ⟨hm, hl, hh, ha⟩ := h
  simp only [rows, List.mem_cons, List.not_mem_nil, or_false] at hm
  rw [UInt8.le_iff_toNat_le] at hl hh
  match rest with
  | [] => rcases hm with rfl | rfl | rfl | rfl | rfl | rfl | rfl | rfl <;> simp at hlen
  | [b] =>
    rcases hm with rfl | rfl | rfl | rfl | rfl | rfl | rfl | rfl <;>
      simp [Row.admits, UInt8.le_iff_toNat_le] at hlen hl hh ha
    rw [Row.codePoint]
    exact .two ⟨hl, hh⟩ (isTrailing_iff.2 ha)
  | [b, c] =>
    rcases hm with rfl | rfl | rfl | rfl | rfl | rfl | rfl | rfl <;>
      simp [Row.admits, UInt8.le_iff_toNat_le] at hlen hl hh ha <;>
      refine (Multibyte.three ⟨by omega, by omega⟩ (isTrailing_iff.2 (by omega)) ha.2
        (by omega) (by omega)).cast ?_ <;>
      simp [Row.codePoint, Nat.add_mul, Nat.mul_assoc]
  | [b, c, d] =>
    rcases hm with rfl | rfl | rfl | rfl | rfl | rfl | rfl | rfl <;>
      simp [Row.admits, UInt8.le_iff_toNat_le] at hlen hl hh ha <;>
      refine (Multibyte.four ⟨by omega, by omega⟩ (isTrailing_iff.2 (by omega)) ha.2.1 ha.2.2
        (by omega) (by omega)).cast ?_ <;>
      simp [Row.codePoint, Nat.add_mul, Nat.mul_assoc]
  | _ :: _ :: _ :: _ :: _ =>
    rcases hm with rfl | rfl | rfl | rfl | rfl | rfl | rfl | rfl <;> simp at hlen

/-- The first bytes of the table lie above the one-byte sequences. -/
theorem Row.Starts.not_lt {row : Row} {first : UInt8} {rest : List UInt8}
    (h : row.Starts first rest) : ¬ first < 0x80 := by
  have hl : ∀ row ∈ rows, 0x80 ≤ row.firstLow := by decide
  exact UInt8.not_lt.2 (UInt8.le_trans (hl row h.mem) h.low)

/-! ## Readings -/

theorem reading_of_starts {row : Row} {first : UInt8} {rest : List UInt8}
    (h : row.Starts first rest) :
    reading (first :: rest) =
      if rest.length + 1 < row.length then .incomplete
      else if rest.length + 1 = row.length then .scalar (Char.ofNat (row.codePoint first rest))
      else .illFormed := by
  have hrow : Row.of? first = some row := Row.of?_eq_some_iff.2 ⟨h.mem, h.low, h.high⟩
  simp only [reading, if_neg h.not_lt, hrow, h.admits, if_true]

/-- Bytes that are not ill-formed are a single byte below 0x80, or agree with a row. -/
theorem starts_of_reading_ne {first : UInt8} {rest : List UInt8}
    (h : reading (first :: rest) ≠ .illFormed) :
    (first < 0x80 ∧ rest = []) ∨ ∃ row : Row, row.Starts first rest := by
  by_cases hf : first < 0x80
  · by_cases hr : rest = []
    · exact .inl ⟨hf, hr⟩
    · simp [reading, hf, hr] at h
  · cases hrow : Row.of? first with
    | none => simp [reading, hf, hrow] at h
    | some row =>
      by_cases ha : row.admits rest = true
      · obtain ⟨hm, hl, hh⟩ := Row.of?_eq_some_iff.1 hrow
        exact .inr ⟨row, hm, hl, hh, ha⟩
      · simp [reading, hf, hrow, ha] at h

/-- The table has a row for each of the three shapes, and the row spells the same number. -/
theorem Multibyte.reading_eq {bytes : List UInt8} {n : Nat} (h : Multibyte bytes n) :
    reading bytes = .scalar (Char.ofNat n) := by
  cases h with
  | @two a b ha hb =>
    have hs : Row.Starts ⟨0xC2, 0xDF, 0x80, 0xBF, 2⟩ a [b] := by
      refine ⟨by simp [rows], ?_, ?_, ?_⟩
      all_goals simp [Row.admits, UInt8.le_iff_toNat_le, ← isTrailing_iff, ha, hb]
    rw [reading_of_starts hs]
    rfl
  | @three a b c ha hb hc overlong surrogate =>
    have found (row : Row) (hs : row.Starts a [b, c]) (hlen : row.length = 3) :
        reading [a, b, c] =
          .scalar (Char.ofNat (a.toNat % 16 * 4096 + b.toNat % 64 * 64 + c.toNat % 64)) := by
      rw [reading_of_starts hs]
      simp [Row.codePoint, hlen, Nat.add_mul, Nat.mul_assoc]
    rw [isTrailing_iff] at hb
    rcases (by omega : a.toNat = 0xE0 ∨ (0xE1 ≤ a.toNat ∧ a.toNat ≤ 0xEC) ∨ a.toNat = 0xED ∨
      0xEE ≤ a.toNat) with h | h | h | h
    · refine found ⟨0xE0, 0xE0, 0xA0, 0xBF, 3⟩ ⟨by simp [rows], ?_, ?_, ?_⟩ rfl
      all_goals simp [Row.admits, UInt8.le_iff_toNat_le, hc]; omega
    · refine found ⟨0xE1, 0xEC, 0x80, 0xBF, 3⟩ ⟨by simp [rows], ?_, ?_, ?_⟩ rfl
      all_goals simp [Row.admits, UInt8.le_iff_toNat_le, hc]; omega
    · refine found ⟨0xED, 0xED, 0x80, 0x9F, 3⟩ ⟨by simp [rows], ?_, ?_, ?_⟩ rfl
      all_goals simp [Row.admits, UInt8.le_iff_toNat_le, hc]; omega
    · refine found ⟨0xEE, 0xEF, 0x80, 0xBF, 3⟩ ⟨by simp [rows], ?_, ?_, ?_⟩ rfl
      all_goals simp [Row.admits, UInt8.le_iff_toNat_le, hc]; omega
  | @four a b c d ha hb hc hd overlong top =>
    have found (row : Row) (hs : row.Starts a [b, c, d]) (hlen : row.length = 4) :
        reading [a, b, c, d] =
          .scalar (Char.ofNat
            (a.toNat % 8 * 262144 + b.toNat % 64 * 4096 + c.toNat % 64 * 64 + d.toNat % 64)) := by
      rw [reading_of_starts hs]
      simp [Row.codePoint, hlen, Nat.add_mul, Nat.mul_assoc]
    rw [isTrailing_iff] at hb
    rcases (by omega : a.toNat = 0xF0 ∨ (0xF1 ≤ a.toNat ∧ a.toNat ≤ 0xF3) ∨ a.toNat = 0xF4)
      with h | h | h
    · refine found ⟨0xF0, 0xF0, 0x90, 0xBF, 4⟩ ⟨by simp [rows], ?_, ?_, ?_⟩ rfl
      all_goals simp [Row.admits, UInt8.le_iff_toNat_le, hc, hd]; omega
    · refine found ⟨0xF1, 0xF3, 0x80, 0xBF, 4⟩ ⟨by simp [rows], ?_, ?_, ?_⟩ rfl
      all_goals simp [Row.admits, UInt8.le_iff_toNat_le, hc, hd]; omega
    · refine found ⟨0xF4, 0xF4, 0x80, 0x8F, 4⟩ ⟨by simp [rows], ?_, ?_, ?_⟩ rfl
      all_goals simp [Row.admits, UInt8.le_iff_toNat_le, hc, hd]; omega

/-- What is written for a scalar value reads as that value. -/
theorem reading_encode (c : Char) : reading (encode c) = .scalar c := by
  by_cases h : 0x80 ≤ c.toNat
  · rw [(multibyte_encode h).reading_eq, Char.ofNat_toNat]
  · have hv : c.toNat ≤ 0x7F := by omega
    have hn : (UInt8.ofNat c.toNat).toNat = c.toNat :=
      UInt8.toNat_ofNat_of_lt' (Nat.lt_trans (Nat.not_le.1 h) (by decide))
    have hlt : UInt8.ofNat c.toNat < 0x80 := UInt8.lt_iff_toNat_lt.2 (hn.symm ▸ Nat.not_le.1 h)
    rw [encode_of_le hv, reading, if_pos hlt, if_pos rfl, hn, Char.ofNat_toNat]

/-- **Bytes spell a scalar value exactly when they are what is written for it.** -/
theorem reading_eq_scalar_iff {bytes : List UInt8} {c : Char} :
    reading bytes = .scalar c ↔ bytes = encode c := by
  refine ⟨fun h => ?_, fun h => h ▸ reading_encode c⟩
  match bytes with
  | [] => simp [reading] at h
  | first :: rest =>
    rcases starts_of_reading_ne (by rw [h]; exact Reading.noConfusion) with ⟨hf, rfl⟩ | ⟨row, hs⟩
    · rw [reading, if_pos hf, if_pos rfl, Reading.scalar.injEq] at h
      rw [← h]
      exact (encode_ofNat_byte (Nat.le_of_lt_succ (UInt8.lt_iff_toNat_lt.1 hf))).symm
    · rw [reading_of_starts hs] at h
      split at h
      · simp at h
      · split at h
        · rw [Reading.scalar.injEq] at h
          rw [← h]
          exact (hs.multibyte ‹_›).encode_ofNat.symm
        · simp at h

/-- What agrees with a row and is too short for it can be continued to a complete sequence. -/
theorem Row.Starts.exists_completion {row : Row} {first : UInt8} {rest : List UInt8}
    (h : row.Starts first rest) (hlen : rest.length + 1 < row.length) :
    ∃ more : List UInt8, more ≠ [] ∧ row.Starts first (rest ++ more) ∧
      (rest ++ more).length + 1 = row.length := by
  have hrange : ∀ row ∈ rows, row.secondLow ≤ row.secondHigh := by decide
  have htrail : ∀ n, (List.replicate n (0x80 : UInt8)).all isTrailing = true := by
    intro n
    rw [List.all_replicate]
    split <;> rfl
  match rest, h.admits with
  | [], _ =>
    refine ⟨row.secondLow :: List.replicate (row.length - 2) 0x80, List.cons_ne_nil _ _,
      ⟨h.mem, h.low, h.high, ?_⟩, ?_⟩
    · simp [Row.admits, hrange row h.mem, htrail]
    · simp only [List.length_nil] at hlen
      simp only [List.nil_append, List.length_cons, List.length_replicate]
      omega
  | second :: trail, ha =>
    refine ⟨List.replicate (row.length - (trail.length + 2)) 0x80, ?_,
      ⟨h.mem, h.low, h.high, ?_⟩, ?_⟩
    · simp only [List.length_cons] at hlen
      rw [Ne, List.replicate_eq_nil_iff]
      omega
    · simp only [Row.admits, Bool.and_eq_true] at ha
      simp [Row.admits, ha, htrail]
    · simp only [List.length_cons] at hlen
      simp only [List.length_append, List.length_cons, List.length_replicate]
      omega

/-- Every proper beginning of something that is not ill-formed is incomplete. -/
theorem reading_of_append {bytes more : List UInt8} (h : reading (bytes ++ more) ≠ .illFormed)
    (hmore : more ≠ []) : reading bytes = .incomplete := by
  match bytes with
  | [] => rfl
  | first :: rest =>
    rw [List.cons_append] at h
    rcases starts_of_reading_ne h with ⟨-, hr⟩ | ⟨row, hs⟩
    · exact absurd (List.append_eq_nil_iff.1 hr).2 hmore
    · have hpos : 0 < more.length := List.length_pos_iff.2 hmore
      have hlen : (rest ++ more).length + 1 ≤ row.length := by
        rw [reading_of_starts hs] at h
        split at h
        · omega
        · split at h
          · omega
          · exact absurd rfl h
      have ha : row.admits rest = true := by
        match rest, hs.admits with
        | [], _ => rfl
        | second :: trail, ha =>
          simp only [List.cons_append, Row.admits, List.all_append, Bool.and_eq_true] at ha ⊢
          exact ⟨ha.1, ha.2.1⟩
      rw [List.length_append] at hlen
      rw [reading_of_starts ⟨hs.mem, hs.low, hs.high, ha⟩, if_pos (by omega)]

theorem encode_ne_nil (c : Char) : encode c ≠ [] := String.utf8EncodeChar_ne_nil

/-- **Bytes are incomplete exactly when they are a proper beginning of what is written for some
scalar value.** -/
theorem reading_eq_incomplete_iff {bytes : List UInt8} :
    reading bytes = .incomplete ↔ ∃ (c : Char) (more : List UInt8), more ≠ [] ∧
      bytes ++ more = encode c := by
  constructor
  · intro h
    match bytes with
    | [] => exact ⟨'a', encode 'a', encode_ne_nil 'a', rfl⟩
    | first :: rest =>
      rcases starts_of_reading_ne (by rw [h]; exact Reading.noConfusion) with
        ⟨hf, rfl⟩ | ⟨row, hs⟩
      · simp [reading, hf] at h
      · have hlen : rest.length + 1 < row.length := by
          rw [reading_of_starts hs] at h
          split at h
          · assumption
          · split at h <;> exact Reading.noConfusion h
        obtain ⟨more, hmore, hs', hlen'⟩ := hs.exists_completion hlen
        exact ⟨_, more, hmore, (hs'.multibyte hlen').encode_ofNat.symm⟩
  · rintro ⟨c, more, hmore, hc⟩
    exact reading_of_append (by rw [hc, reading_encode]; exact Reading.noConfusion) hmore

/-- **Bytes are ill-formed exactly when they begin nothing that is ever written.** -/
theorem reading_eq_illFormed_iff {bytes : List UInt8} :
    reading bytes = .illFormed ↔ ∀ c : Char, ¬ bytes <+: encode c := by
  constructor
  · rintro h c ⟨more, hc⟩
    by_cases hmore : more = []
    · rw [hmore, List.append_nil] at hc
      rw [hc, reading_encode] at h
      exact Reading.noConfusion h
    · rw [reading_of_append (by rw [hc, reading_encode]; exact Reading.noConfusion) hmore] at h
      exact Reading.noConfusion h
  · intro h
    cases hr : reading bytes with
    | scalar c => exact absurd (reading_eq_scalar_iff.1 hr ▸ List.prefix_rfl) (h c)
    | incomplete =>
      obtain ⟨c, more, -, hc⟩ := reading_eq_incomplete_iff.1 hr
      exact absurd ⟨more, hc⟩ (h c)
    | illFormed => rfl

end ScriptHost.Utf8
