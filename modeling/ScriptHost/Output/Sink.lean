/-!
# Destinations for text

A `Sink` takes text one character at a time.  It may refuse a character, and then says why; the
same goes for flushing and closing.  Whatever it answers, it may have changed.

`Sink.offer` offers a sink several characters, up to the first one that it refuses.  An `IoError` is
why a sink, or anything else that text goes to or comes from, refuses.

* A `String` takes everything.
* A `TextBuffer` takes everything until it is closed, counts how often it was flushed, and lets the
  host look at what has arrived.
* A `LimitedText` takes a fixed number of characters, and may be unable to flush.
* One of two sinks is a sink, so that a host can choose while the program runs.
-/

set_option autoImplicit false

namespace ScriptHost

/-! ## Errors of sinks, writers and readers -/

/-- Why text could not be moved to its destination or from its origin.  No reason stands for an
interruption: a standard library would try an interrupted write again, and that is left out. -/
inductive IoError where
  /-- The sink takes no more text since it was closed. -/
  | sinkClosed
  /-- A writer took none of the bytes that were left. -/
  | shortWrite
  /-- A source does not hold well-formed UTF-8. -/
  | malformedSource
  /-- The host's own reason. -/
  | other (message : String)
  deriving DecidableEq, Repr

/-- The text of the error. -/
def IoError.message : IoError → String
  | .sinkClosed => "sink is closed"
  | .shortWrite => "failed to write whole buffer"
  | .malformedSource => "stream did not contain valid UTF-8"
  | .other message => message

/-! ## Sinks -/

/-- A destination for text.  Each operation answers whether it went well, and with the sink as it is
afterwards. -/
class Sink (σ : Type) where
  /-- Takes a character, or refuses it. -/
  write : σ → Char → Except IoError Unit × σ
  /-- Passes on what the sink may still hold back. -/
  flush : σ → Except IoError Unit × σ := fun sink => (.ok (), sink)
  /-- Ends the text. -/
  close : σ → Except IoError Unit × σ := flush

namespace Sink

variable {σ : Type} [Sink σ]

/-- Offers the characters in order, up to and including the first one that is refused. -/
def offer (sink : σ) : List Char → Except IoError Unit × σ
  | [] => (.ok (), sink)
  | c :: rest =>
    match write sink c with
    | (.ok (), sink) => offer sink rest
    | refused => refused

end Sink

/-- A text takes every character. -/
instance : Sink String where
  write text c := (.ok (), text.push c)

/-- A text in memory that the host can look at while an output channel writes to it. -/
structure TextBuffer where
  /-- What has arrived and was not taken out. -/
  text : String := ""
  /-- How often the buffer was flushed. -/
  flushes : Nat := 0
  /-- Whether the buffer takes no more text. -/
  closed : Bool := false
  deriving DecidableEq, Repr

namespace TextBuffer

instance : Inhabited TextBuffer := ⟨{}⟩

/-- A closed buffer refuses every character; closing is not flushing. -/
instance : Sink TextBuffer where
  write buffer c :=
    if buffer.closed then (.error .sinkClosed, buffer)
    else (.ok (), { buffer with text := buffer.text.push c })
  flush buffer := (.ok (), { buffer with flushes := buffer.flushes + 1 })
  close buffer := (.ok (), { buffer with closed := true })

/-- Takes the text out of the buffer. -/
def take (buffer : TextBuffer) : String × TextBuffer := (buffer.text, { buffer with text := "" })

end TextBuffer

/-- A text with room for a fixed number of characters. -/
structure LimitedText where
  /-- How many characters fit in all. -/
  room : Nat
  /-- Whether every attempt to flush the text fails. -/
  failsToFlush : Bool := false
  /-- What has arrived. -/
  text : String := ""
  deriving DecidableEq, Repr

/-- A limited text refuses what does not fit. -/
instance : Sink LimitedText where
  write sink c :=
    if sink.text.length < sink.room then (.ok (), { sink with text := sink.text.push c })
    else (.error (.other "sink is full"), sink)
  flush sink := (if sink.failsToFlush then .error (.other "flush failed") else .ok (), sink)

/-- One of two sinks does what the sink does that it is. -/
instance {σ τ : Type} [Sink σ] [Sink τ] : Sink (σ ⊕ τ) where
  write
    | .inl sink, c => (Sink.write sink c).map id .inl
    | .inr sink, c => (Sink.write sink c).map id .inr
  flush
    | .inl sink => (Sink.flush sink).map id .inl
    | .inr sink => (Sink.flush sink).map id .inr
  close
    | .inl sink => (Sink.close sink).map id .inl
    | .inr sink => (Sink.close sink).map id .inr

end ScriptHost
