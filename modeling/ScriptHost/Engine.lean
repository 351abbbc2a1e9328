import ScriptHost.Session

/-!
# Engines

An `Engine` is an interpreter together with the context that it runs in.  It is what a host talks to:
it evaluates scripts, calls their functions, and gives access to their variables.

**Every call ends its output.**  However a call went, both output channels are flushed after it, so
the bytes of one call never run into those of the next.  A failure of the interpreter is reported as
a script error, whether the flushing went well or not; if the interpreter had a value, an error of
the flushing is reported instead of it.

The store of global variables can be exchanged, the scope of a context cannot.
-/

set_option autoImplicit false

namespace ScriptHost

/-- An evaluator of scripts.  Each run also tells what has become of the evaluator. -/
class Interpreter (ι : Type) where
  /-- Evaluates a script. -/
  eval : ι → ScopeRef → String → Session (Except Failure Value × ι)
  /-- Calls a function of the scripts that were evaluated before. -/
  invoke : ι → ScopeRef → String → List Value → Session (Except Failure Value × ι)

/-- An interpreter in a context. -/
structure Engine (ι σ τ : Type) where
  interpreter : ι
  context : Context σ τ

/-! ## The store of global variables -/

/-- Why the variables of a context could not be exchanged. -/
inductive SwapError where
  /-- The scope belongs to the context for good. -/
  | engineScopeLocked
  /-- Another caller holds the link to the store. -/
  | linkHeld
  deriving DecidableEq, Repr

/-- The text of the error. -/
def SwapError.message : SwapError → String
  | .engineScopeLocked => "the engine scope of an execution context cannot be replaced"
  | .linkHeld => "the global store link is held by another caller"

namespace Context

variable {σ τ : Type}

/-- The store that the context is linked to. -/
def globalStore (c : Context σ τ) : Action SwapError World (Option StoreRef) :=
  (readLink c.link).mapError fun _ => .linkHeld

/-- Links the context, with all of its scopes, to another store or to none. -/
def setGlobalStore (c : Context σ τ) (store : Option StoreRef) : Action SwapError World Unit where
  run w :=
    if (w.links c.link).guard.canWrite then ⟨.ok (), w.setLink c.link store, []⟩
    else ⟨.error .linkHeld, w, []⟩

/-- Exchanges the variables of one level. -/
def setBindings (c : Context σ τ) (level : Level) (store : Option StoreRef) :
    Action SwapError World Unit :=
  match level with
  | .own => throw .engineScopeLocked
  | .global => c.setGlobalStore store

end Context

/-! ## Calls -/

/-- Why a call of an engine failed. -/
inductive Engine.Error where
  /-- The script failed. -/
  | script (e : ScriptError)
  /-- The variables could not be used. -/
  | binding (e : BindingError)
  /-- The output could not be written, or the script not be read. -/
  | io (e : IoError)
  deriving DecidableEq, Repr

/-- The text of the error. -/
def Engine.Error.message : Engine.Error → String
  | .script e => e.message
  | .binding e => e.message
  | .io e => "I/O error: " ++ e.message

/-- A source of bytes that a script is read from. -/
structure Source where
  bytes : List UInt8
  /-- The error that comes after the bytes, if one does. -/
  failure : Option IoError := none

/-- Reads a source to its end.  An error of the source counts more than malformed bytes. -/
def Source.readText (source : Source) : Except IoError String :=
  match source.failure, Utf8.decode? source.bytes with
  | some e, _ => .error e
  | none, some text => .ok (String.ofList text)
  | none, none => .error .malformedSource

namespace Engine

variable {ε α ι σ τ : Type}

/-- Works on the context. -/
def onContext (x : Action ε (World × Context σ τ) α) : Action ε (World × Engine ι σ τ) α :=
  .zoom (fun s => (s.1, s.2.context)) (fun s' s => (s'.1, { s.2 with context := s'.2 })) x

/-- The bindings of the context's scope. -/
def bindings (engine : Engine ι σ τ) : Bindings := engine.context.bindings

/-- Bindings of a new scope over the same store. -/
def createBindings (engine : Engine ι σ τ) : Action ε World Bindings := do
  return ⟨← engine.context.newScope⟩

/-- The value of a variable. -/
def get (engine : Engine ι σ τ) (name : String) : Action Error World (Option Value) :=
  (engine.bindings.get (.name name)).mapError .binding

/-- Gives a variable a value.  Answers its former value. -/
def put (engine : Engine ι σ τ) (name : String) (value : Value) :
    Action Error World (Option Value) :=
  (engine.bindings.put (.name name) value).mapError .binding

variable [Sink σ] [Sink τ]

/-- Lets the interpreter run, flushes the output, and reports how it went. -/
def call (session : ι → ScopeRef → Session (Except Failure Value × ι)) :
    Action Error (World × Engine ι σ τ) Value := do
  let (_, engine) ← MonadState.get
  let (outcome, interpreter) ← onContext (session engine.interpreter engine.context.scope).run
  modify fun s => (s.1, { s.2 with interpreter })
  let flushed ← (onContext (besideWorld Context.flushOutput)).attempt
  match outcome, flushed with
  | .ok value, .ok () => return value
  | .ok _, .error e => throw (.io e)
  | .error failure, flushed => do
    if let .error e := flushed then Action.emit (.flushFailed e)
    throw (.script (← report failure))

variable [Interpreter ι]

/-- Evaluates a script. -/
def eval (source : String) : Action Error (World × Engine ι σ τ) Value := do
  let (_, engine) ← MonadState.get
  Action.emit (.evaluating engine.context.settings.scopeName source.utf8ByteSize)
  call fun interpreter scope => Interpreter.eval interpreter scope source

/-- Evaluates a script that has to be read first.  If it cannot be read, nothing runs. -/
def evalSource (source : Source) : Action Error (World × Engine ι σ τ) Value := do
  match source.readText with
  | .ok text => eval text
  | .error e => throw (.io e)

/-- Calls a function of the scripts that were evaluated before. -/
def invoke (function : String) (arguments : List Value) :
    Action Error (World × Engine ι σ τ) Value := do
  Action.emit (.invoking function arguments.length)
  call fun interpreter scope => Interpreter.invoke interpreter scope function arguments

end Engine

end ScriptHost
