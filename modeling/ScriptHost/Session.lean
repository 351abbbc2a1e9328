import ScriptHost.Bindings
import ScriptHost.Output.Bridge

/-!
# What an interpreter does while it runs

The interpreter is not part of this library.  While it runs it can do two things that the host
sees: it can use the scopes and stores, and it can write to the two output channels.  A
`Session α` is a run of an interpreter in these terms.  It is a tree: each node is a request to the
host, with a branch for each answer that the host may give, and each leaf is the result of the run.

So a session can be as clever as it likes about what it does next, but it only ever reaches a channel
by writing to it or flushing it, never its buffer or its sink.

A `Context` is what the session runs in: the scope that belongs to it, and the two channels.
`Session.run` plays the session against a context.
-/

set_option autoImplicit false

namespace ScriptHost

/-- The two output channels of an interpreter. -/
inductive Channel where
  | out
  | err
  deriving DecidableEq, Repr

/-- A run of an interpreter that ends with an `α`. -/
inductive Session (α : Type) : Type 1 where
  /-- The run is over. -/
  | done (a : α)
  /-- Uses scopes, links and stores. -/
  | host {ε β : Type} (x : Action ε World β) (next : Except ε β → Session α)
  /-- Writes bytes to a channel. -/
  | write (channel : Channel) (bytes : List UInt8) (next : Except IoError Nat → Session α)
  /-- Flushes a channel. -/
  | flush (channel : Channel) (next : Except IoError Unit → Session α)

namespace Session

variable {α β : Type}

/-- Goes on with the result of a run. -/
protected def bind : Session α → (α → Session β) → Session β
  | .done a, f => f a
  | .host x next, f => .host x fun r => (next r).bind f
  | .write channel bytes next, f => .write channel bytes fun r => (next r).bind f
  | .flush channel next, f => .flush channel fun r => (next r).bind f

instance : Monad Session where
  pure := .done
  bind := Session.bind

/-- Uses scopes, links and stores, and takes the answer or the error. -/
def perform {ε : Type} (x : Action ε World β) : Session (Except ε β) := .host x .done

/-- Writes all of the bytes to a channel.  A channel takes all of them or fails. -/
def writeAll (channel : Channel) (bytes : List UInt8) : Session (Except IoError Unit) :=
  .write channel bytes fun r => .done (r.map fun _ => ())

/-- Flushes a channel. -/
def flushChannel (channel : Channel) : Session (Except IoError Unit) := .flush channel .done

end Session

/-! ## The context of a run -/

/-- What belongs to one execution context besides the cells of the world: its settings, the names of
its scope and its link, and its output channels. -/
structure Context (σ τ : Type) where
  settings : Settings
  link : LinkRef
  scope : ScopeRef
  stdout : Bridge σ
  stderr : Bridge τ

namespace Context

variable {ε α σ τ : Type}

/-- A context of its own: a link that leads nowhere yet, a scope on it, and two channels to the given
sinks. -/
def new (settings : Settings) (out : σ) (err : τ) : Action ε World (Context σ τ) := do
  let link ← newLink none
  let scope ← newScope settings.scopeName link
  return {
    settings, link, scope
    stdout := .withCapacity out settings.charset settings.bufferCapacity
    stderr := .withCapacity err settings.charset settings.bufferCapacity }

/-- The bindings of the context's scope. -/
def bindings (c : Context σ τ) : Bindings := ⟨c.scope⟩

/-- Makes another scope without locals over the same store. -/
def newScope (c : Context σ τ) : Action ε World ScopeRef :=
  ScriptHost.newScope c.settings.scopeName c.link

/-- Works on the channel for output. -/
def onStdout (x : Action ε (Bridge σ) α) : Action ε (Context σ τ) α :=
  .zoom Context.stdout (fun stdout c => { c with stdout }) x

/-- Works on the channel for error messages. -/
def onStderr (x : Action ε (Bridge τ) α) : Action ε (Context σ τ) α :=
  .zoom Context.stderr (fun stderr c => { c with stderr }) x

/-- Works on both channels, output first, and on the second even if the first one fails.  The error
of the first one counts. -/
def onBoth (x : Action IoError (Bridge σ) Unit) (y : Action IoError (Bridge τ) Unit) :
    Action IoError (Context σ τ) Unit := do
  let out ← (onStdout x).attempt
  let err ← (onStderr y).attempt
  Action.ofExcept (out.bind fun _ => err)

variable [Sink σ] [Sink τ]

/-- Flushes both channels. -/
def flushOutput : Action IoError (Context σ τ) Unit := onBoth Bridge.flush Bridge.flush

/-- Closes both channels. -/
def closeOutput : Action IoError (Context σ τ) Unit := onBoth Bridge.close Bridge.close

/-- Writes to one of the channels. -/
def write (bytes : List UInt8) : Channel → Action IoError (Context σ τ) Nat
  | .out => onStdout (Bridge.write bytes)
  | .err => onStderr (Bridge.write bytes)

/-- Flushes one of the channels. -/
def flush : Channel → Action IoError (Context σ τ) Unit
  | .out => onStdout Bridge.flush
  | .err => onStderr Bridge.flush

end Context

/-! ## Playing a session -/

/-- An action on the world, beside something else. -/
def onWorld {ε α κ : Type} (x : Action ε World α) : Action ε (World × κ) α :=
  .zoom Prod.fst (fun w s => (w, s.2)) x

/-- An action on something beside the world. -/
def besideWorld {ε α κ : Type} (x : Action ε κ α) : Action ε (World × κ) α :=
  .zoom Prod.snd (fun k s => (s.1, k)) x

/-- Plays a session in a context.  Whatever goes wrong on the way is an answer to the session, so
playing it never fails. -/
def Session.run {ε α σ τ : Type} [Sink σ] [Sink τ] :
    Session α → Action ε (World × Context σ τ) α
  | .done a => pure a
  | .host x next => do
    let r ← (onWorld x).attempt
    (next r).run
  | .write channel bytes next => do
    let r ← (besideWorld (Context.write bytes channel)).attempt
    (next r).run
  | .flush channel next => do
    let r ← (besideWorld (Context.flush channel)).attempt
    (next r).run

end ScriptHost
