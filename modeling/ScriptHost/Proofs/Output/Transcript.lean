import ScriptHost.Proofs.Output.Calls
import ScriptHost.Proofs.Output.Decoding

/-!
# What a run leaves in the sink

A channel makes its passes when they are due, and so cuts the bytes that it receives at places that
depend on its capacity, on line breaks and on what is called when.  None of this shows in the text:
if the sink takes everything, the text is that of the sessions, each decoded in one piece, up to the
bytes that are still pending.

* `Sink.TakesAll` — the sinks this is about, with the text that they hold.
* `Bridge.Tracks` — the invariant.  The current session is split into what the passes have *seen*
  and the *fresh* bytes after the last pass; pending are the bytes that decoding left of the former,
  and the latter.
* `Bridge.text_afterAll` — the text and the count of malformed sequences after any run, also when
  the run has not ended its last session.
-/

set_option autoImplicit false

namespace ScriptHost

open Utf8

/-! ## Sinks that take everything -/

/-- As long as it is `ready`, a sink takes every character at the end of its text and keeps its text
when it is flushed, and stays `ready` doing so. -/
structure Sink.TakesAll {σ : Type} [Sink σ] (text : σ → List Char) (ready : σ → Prop) : Prop where
  write : ∀ (sink : σ) (c : Char), ready sink →
    ∃ sink', Sink.write sink c = (.ok (), sink') ∧ ready sink' ∧ text sink' = text sink ++ [c]
  flush : ∀ sink : σ, ready sink →
    ∃ sink', Sink.flush sink = (.ok (), sink') ∧ ready sink' ∧ text sink' = text sink

theorem Sink.TakesAll.offer {σ : Type} [Sink σ] {text : σ → List Char} {ready : σ → Prop}
    (hsink : Sink.TakesAll text ready) (cs : List Char) {sink : σ} (h : ready sink) :
    ∃ sink', Sink.offer sink cs = (.ok (), sink') ∧ ready sink' ∧ text sink' = text sink ++ cs := by
  induction cs generalizing sink with
  | nil => exact ⟨sink, rfl, h, (List.append_nil _).symm⟩
  | cons c cs ih =>
    obtain ⟨sink₁, hw, h₁, ht₁⟩ := hsink.write sink c h
    obtain ⟨sink₂, ho, h₂, ht₂⟩ := ih h₁
    refine ⟨sink₂, ?_, h₂, ?_⟩
    · rw [Sink.offer, hw]
      exact ho
    · rw [ht₂, ht₁, List.append_assoc, List.singleton_append]

/-- A buffer in memory takes everything until it is closed. -/
theorem TextBuffer.takesAll :
    Sink.TakesAll (fun buffer : TextBuffer => buffer.text.toList)
      (fun buffer => buffer.closed = false) where
  write buffer c h := by
    refine ⟨{ buffer with text := buffer.text.push c }, ?_, h, String.toList_push c⟩
    simp [Sink.write, h]
  flush buffer h := ⟨{ buffer with flushes := buffer.flushes + 1 }, rfl, h, rfl⟩

/-! ## The invariant -/

/-- The pieces of the finished sessions, and of what the passes have seen of the current one. -/
def Sessions.piecesSeen (s : Sessions) (charset : Charset) (seen : List UInt8) : List Piece :=
  s.finished.flatMap charset.reference ++ (charset.scan seen).pieces

/-- The pieces of the finished sessions and of the current one, the last `pending` bytes of which
are left out.  Each session is decoded in one piece. -/
def Sessions.pieces (s : Sessions) (charset : Charset) (pending : Nat) : List Piece :=
  s.finished.flatMap charset.reference ++
    charset.reference (s.current.take (s.current.length - pending))

namespace Bridge

variable {σ : Type} {text : σ → List Char} {ready : σ → Prop}

/-- A channel and its sink agree with the sessions so far; `before` is the text that the sink held
at the start. -/
structure Tracks (text : σ → List Char) (ready : σ → Prop) (charset : Charset)
    (before : List Char) (s : Sessions) (b : Bridge σ) : Prop where
  charset_eq : b.charset = charset
  isReady : ready b.sink
  /-- No character waits between two calls. -/
  noneWaits : b.ready = []
  split : ∃ seen fresh : List UInt8, s.current = seen ++ fresh ∧
    b.pending = (charset.scan seen).rest ++ fresh ∧
    text b.sink = before ++ (s.piecesSeen charset seen).map Piece.char ∧
    b.malformed = (s.piecesSeen charset seen).count .malformed

variable {charset : Charset} {before : List Char} {s : Sessions} {b : Bridge σ}

/-- A new channel has received nothing. -/
theorem tracks_withCapacity (charset : Charset) (capacity : Nat) {sink : σ} (hready : ready sink) :
    Tracks text ready charset (text sink) {} (withCapacity sink charset capacity) := by
  have hnone : Sessions.piecesSeen {} charset [] = [] := by
    rw [Sessions.piecesSeen, Charset.scan_nil]
    rfl
  refine ⟨rfl, hready, rfl, [], [], rfl, ?_, ?_, ?_⟩
  · rw [Charset.scan_nil]
    rfl
  · rw [hnone]
    exact (List.append_nil _).symm
  · rw [hnone]
    rfl

/-- A byte is fresh when it arrives. -/
theorem Tracks.append (h : Tracks text ready charset before s b) (byte : UInt8) :
    Tracks text ready charset before (s.receive [byte])
      { b with pending := b.pending ++ [byte] } := by
  obtain ⟨rfl, hready, hnone, seen, fresh, hcur, hpend, htext, hcount⟩ := h
  refine ⟨rfl, hready, hnone, seen, fresh ++ [byte], ?_, ?_, htext, hcount⟩
  · rw [Sessions.receive, hcur, List.append_assoc]
  · rw [hpend, List.append_assoc]

/-- Where the passes have cut the bytes leaves no trace: the text is that of the bytes that are not
pending. -/
theorem Tracks.pieces_eq (h : Tracks text ready charset before s b) :
    b.pending <:+ s.current ∧
      text b.sink = before ++ (s.pieces charset b.pending.length).map Piece.char ∧
      b.malformed = (s.pieces charset b.pending.length).count .malformed := by
  obtain ⟨rfl, -, -, seen, fresh, hcur, hpend, htext, hcount⟩ := h
  obtain ⟨done, hdone, href⟩ := b.charset.exists_done seen
  have hsplit : s.current = done ++ b.pending := by
    rw [hcur, hpend, ← List.append_assoc, ← hdone]
  have htake : s.current.take (s.current.length - b.pending.length) = done := by
    rw [hsplit, List.length_append, Nat.add_sub_cancel, List.take_left]
  have hpieces : s.pieces b.charset b.pending.length = s.piecesSeen b.charset seen := by
    rw [Sessions.pieces, htake, href]
    rfl
  rw [hpieces]
  exact ⟨⟨done, hsplit.symm⟩, htext, hcount⟩

/-! ## Passes -/

variable [Sink σ]

/-- A pass, when the sink takes the characters. -/
theorem run_decode_of_offer (last : Bool) {sink' : σ} {scanned : Scan} (hnone : b.ready = [])
    (hs : (if last then (b.charset.scan b.pending).finish else b.charset.scan b.pending) = scanned)
    (ho : Sink.offer b.sink scanned.text = (.ok (), sink')) :
    ((decode last).run b).result = .ok () ∧
      ((decode last).run b).state =
        { b with
          sink := sink'
          pending := if last then [] else scanned.rest
          ready := []
          malformed := b.malformed + scanned.malformed } := by
  simp only [decode, b.charset.decode_eq, hnone, List.nil_append, hs, ho, and_self]

/-- A pass that is not the last one has seen the whole session so far. -/
theorem Tracks.pass (hsink : Sink.TakesAll text ready) (h : Tracks text ready charset before s b) :
    ((decode false).run b).result = .ok () ∧
      Tracks text ready charset before s ((decode false).run b).state := by
  obtain ⟨rfl, hready, hnone, seen, fresh, hcur, hpend, htext, hcount⟩ := h
  have hall := b.charset.scan_append seen fresh
  rw [← hpend, ← hcur] at hall
  have hpieces : s.piecesSeen b.charset s.current =
      s.piecesSeen b.charset seen ++ (b.charset.scan b.pending).pieces := by
    rw [Sessions.piecesSeen, hall, ← List.append_assoc]
    rfl
  obtain ⟨sink', ho, hready', htext'⟩ := hsink.offer (b.charset.scan b.pending).text hready
  obtain ⟨hok, hstate⟩ := run_decode_of_offer false hnone rfl ho
  rw [hstate]
  refine ⟨hok, rfl, hready', rfl, s.current, [], (List.append_nil _).symm, ?_, ?_, ?_⟩
  · rw [hall, List.append_nil]
    rfl
  · rw [htext', htext, hpieces, List.map_append, List.append_assoc]
    rfl
  · rw [hcount, hpieces, List.count_append]
    rfl

/-- The last pass ends the session. -/
theorem Tracks.lastPass (hsink : Sink.TakesAll text ready)
    (h : Tracks text ready charset before s b) :
    ((decode true).run b).result = .ok () ∧
      Tracks text ready charset before s.finish ((decode true).run b).state := by
  obtain ⟨rfl, hready, hnone, seen, fresh, hcur, hpend, htext, hcount⟩ := h
  have hall := b.charset.reference_append seen fresh
  rw [← hpend, ← hcur] at hall
  have hpieces : s.finish.piecesSeen b.charset [] =
      s.piecesSeen b.charset seen ++ b.charset.reference b.pending := by
    simp only [Sessions.piecesSeen, Sessions.finish, List.flatMap_append, List.flatMap_singleton,
      hall, Charset.scan_nil, List.append_nil, List.append_assoc]
  obtain ⟨sink', ho, hready', htext'⟩ :=
    hsink.offer (b.charset.scan b.pending).finish.text hready
  obtain ⟨hok, hstate⟩ := run_decode_of_offer true hnone rfl ho
  rw [hstate]
  refine ⟨hok, rfl, hready', rfl, [], [], rfl, ?_, ?_, ?_⟩
  · rw [Charset.scan_nil]
    rfl
  · rw [htext', htext, hpieces, List.map_append, List.append_assoc]
    rfl
  · rw [hcount, hpieces, List.count_append]
    rfl

/-! ## One call after the other -/

theorem Tracks.writeByte (hsink : Sink.TakesAll text ready)
    (h : Tracks text ready charset before s b) (byte : UInt8) :
    ((writeByte byte).run b).result = .ok () ∧
      Tracks text ready charset before (s.receive [byte]) ((writeByte byte).run b).state := by
  have happend := h.append byte
  simp only [Bridge.writeByte, Action.run_bind, Action.run_modify, Action.andThen_ok,
    Action.run_get]
  split
  · exact happend.pass hsink
  · exact ⟨rfl, happend⟩

theorem Tracks.writeBytes (hsink : Sink.TakesAll text ready) (bytes : List UInt8)
    (h : Tracks text ready charset before s b) :
    ((writeBytes bytes).run b).result = .ok () ∧
      Tracks text ready charset before (s.receive bytes) ((writeBytes bytes).run b).state := by
  induction bytes generalizing s b with
  | nil =>
    rw [s.receive_nil]
    exact ⟨rfl, h⟩
  | cons byte rest ih =>
    obtain ⟨hok, hbyte⟩ := h.writeByte hsink byte
    have hrest := ih hbyte
    rw [Sessions.receive_append] at hrest
    rw [Bridge.writeBytes, Action.run_bind, Action.andThen_of_ok hok]
    exact hrest

theorem Tracks.flush (hsink : Sink.TakesAll text ready) (h : Tracks text ready charset before s b) :
    Tracks text ready charset before s.finish
      ((flush : Action IoError (Bridge σ) Unit).run b).state := by
  obtain ⟨hok, hlast⟩ := h.lastPass hsink
  obtain ⟨hcharset, hready, hnone, hsplit⟩ := hlast
  obtain ⟨sink', hf, hready', htext'⟩ := hsink.flush _ hready
  rw [Bridge.flush, Action.run_bind, Action.andThen_of_ok hok]
  simp only [onSink, hf]
  exact ⟨hcharset, hready', hnone, by rwa [htext']⟩

theorem Tracks.after (hsink : Sink.TakesAll text ready) (h : Tracks text ready charset before s b)
    {call : Call} (hcall : call ≠ .close) :
    Tracks text ready charset before (s.after call) (b.after call) := by
  match call with
  | .writeByte byte => exact (h.writeByte hsink byte).2
  | .write bytes =>
    rw [Bridge.after, perform_write]
    exact (h.writeBytes hsink bytes).2
  | .writeAll bytes =>
    rw [Bridge.after, perform_writeAll]
    exact (h.writeBytes hsink bytes).2
  | .decode true => exact (h.lastPass hsink).2
  | .decode false => exact (h.pass hsink).2
  | .flush => exact h.flush hsink
  | .close => exact absurd rfl hcall

/-! ## Whole runs -/

theorem Tracks.afterAll (hsink : Sink.TakesAll text ready) (calls : List Call)
    (hcalls : .close ∉ calls) (h : Tracks text ready charset before s b) :
    Tracks text ready charset before (calls.foldl Sessions.after s) (b.afterAll calls) := by
  induction calls generalizing s b with
  | nil => exact h
  | cons call rest ih =>
    rw [List.mem_cons, not_or] at hcalls
    exact ih hcalls.2 (h.after hsink fun heq => hcalls.1 heq.symm)

/-- **The text of a run is that of its sessions.**  For a sink that takes everything, after any run
of writes, passes and flushes: the pending bytes are the last ones of the current session, and the
text and the count of malformed sequences are those of the finished sessions and of what the current
one has besides, each decoded in one piece.  After a last pass or a flush nothing is pending, and
only finished sessions are left. -/
theorem text_afterAll (hsink : Sink.TakesAll text ready) (charset : Charset) (capacity : Nat)
    {sink : σ} (hready : ready sink) (calls : List Call) (hcalls : .close ∉ calls) :
    let b := (withCapacity sink charset capacity).afterAll calls
    let s := Sessions.ofCalls calls
    (∀ bytes ps, charset.Decodes bytes ps ↔ ps = charset.reference bytes) ∧
      (b.pending <:+ s.current ∧
        text b.sink = text sink ++ (s.pieces charset b.pending.length).map Piece.char ∧
        b.malformed = (s.pieces charset b.pending.length).count .malformed) ∧
      (calls.getLast? = some (.decode true) ∨ calls.getLast? = some .flush →
        b.pending = [] ∧
          text b.sink =
            text sink ++ (s.finished.flatMap charset.reference).map Piece.char ∧
          b.malformed = (s.finished.flatMap charset.reference).count .malformed) := by
  intro b s
  have hall := ((tracks_withCapacity charset capacity hready).afterAll hsink calls hcalls).pieces_eq
  refine ⟨fun _ _ => Charset.decodes_iff, hall, fun hlast => ?_⟩
  have hcurrent : s.current = [] := by
    rcases hlast with h | h
    · obtain ⟨before, rfl⟩ := List.getLast?_eq_some_iff.1 h
      exact congrArg Sessions.current (Sessions.ofCalls_concat before (.decode true))
    · obtain ⟨before, rfl⟩ := List.getLast?_eq_some_iff.1 h
      exact congrArg Sessions.current (Sessions.ofCalls_concat before .flush)
  have hpieces : s.pieces charset b.pending.length = s.finished.flatMap charset.reference := by
    rw [Sessions.pieces, hcurrent, List.take_nil, Charset.reference_nil, List.append_nil]
  obtain ⟨hpend, htext, hcount⟩ := hall
  rw [← hpieces]
  exact ⟨List.suffix_nil.1 (hcurrent ▸ hpend), htext, hcount⟩

/-- A character that arrives in two parts, and one that is broken off. -/
theorem text_afterAll_euro :
    let b := (withCapacity ({} : TextBuffer) .utf8 0).afterAll
      [.write [0x61, 0xE2], .write [0x82, 0xAC, 0xF0, 0x9F, 0x61], .flush]
    b.sink.text.toList = ['a', '€', replacement, 'a'] ∧ b.malformed = 1 := by
  have hrun := @text_afterAll TextBuffer _ _ _ TextBuffer.takesAll .utf8 0 {} rfl
    [.write [0x61, 0xE2], .write [0x82, 0xAC, 0xF0, 0x9F, 0x61], .flush] (by decide)
  obtain ⟨-, htext, hcount⟩ := hrun.2.2 (.inr rfl)
  exact ⟨htext.trans (by decide), hcount.trans (by decide)⟩

end Bridge

end ScriptHost
