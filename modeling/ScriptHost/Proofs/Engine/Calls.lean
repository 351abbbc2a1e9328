import ScriptHost.Engine
import ScriptHost.Proofs.Output.Sinks

/-!
# What comes of a call of an engine

An `Engine.Call` is a call that lets the interpreter run: the evaluation of a script, or the call of
a function.  `Engine.run_perform` says in one equation what comes of it.  The interpreter's run is
played to its end, which never fails; then both channels are flushed, and `Engine.verdict` weighs the
result of the run against that of the flushing.

What is true of a session is proved by going through its requests, whatever the answers are:
`Session.run_congr`.
-/

set_option autoImplicit false

namespace ScriptHost

open ScriptHost.Action

variable {ε ε' α ι σ τ σ' τ' : Type}

/-! ## Sessions -/

section

variable [Sink σ] [Sink τ] [Sink σ'] [Sink τ']

/-- **What holds of each request of a session holds of the session.** -/
theorem Session.run_congr
    {P : ∀ {ε α : Type}, Action ε (World × Context σ τ) α → Action ε (World × Context σ' τ') α → Prop}
    (hP : Compositional P)
    (hhost : ∀ {ε α : Type} (x : Action ε World α), P (onWorld x) (onWorld x))
    (hwrite : ∀ channel bytes,
      P (besideWorld (Context.write bytes channel)) (besideWorld (Context.write bytes channel)))
    (hflush : ∀ channel,
      P (besideWorld (Context.flush channel)) (besideWorld (Context.flush channel)))
    (session : Session α) :
    P (session.run : Action ε (World × Context σ τ) α) session.run := by
  induction session with
  | done a => exact hP.pure a
  | host x next ih => exact hP.bind (hP.attempt (hhost x)) ih
  | write channel bytes next ih => exact hP.bind (hP.attempt (hwrite channel bytes)) ih
  | flush channel next ih => exact hP.bind (hP.attempt (hflush channel)) ih

/-- A session is played to its end, whatever kind of error could have come of it. -/
theorem Session.run_eq (session : Session α) (s : World × Context σ τ) :
    (session.run : Action ε (World × Context σ τ) α).run s =
      let played := (session.run : Action Empty (World × Context σ τ) α).run s
      ⟨.ok played.answer, played.state, played.events⟩ := by
  induction session generalizing s with
  | done a => rfl
  | host x next ih =>
    simp only [Session.run, run_bind, run_attempt, andThen_ok, ih]
    rfl
  | write channel bytes next ih =>
    simp only [Session.run, run_bind, run_attempt, andThen_ok, ih]
    rfl
  | flush channel next ih =>
    simp only [Session.run, run_bind, run_attempt, andThen_ok, ih]
    rfl

end

/-! ## Flushing both channels -/

section

variable [Sink σ] [Sink τ]

/-- Nothing waits on the channel. -/
structure Bridge.Quiet (b : Bridge σ) : Prop where
  pending : b.pending = []
  ready : b.ready = []

/-- After a flush nothing does, whatever the sink made of it. -/
theorem Bridge.quiet_flush (b : Bridge σ) :
    Quiet ((flush : Action IoError (Bridge σ) Unit).run b).state :=
  ⟨(inStep_flush b).1.pending, (inStep_flush b).1.ready⟩

/-- Both channels are flushed, whether the first one fails or not. -/
theorem Context.run_flushOutput (c : Context σ τ) :
    (flushOutput : Action IoError (Context σ τ) Unit).run c =
      let out := (Bridge.flush : Action IoError (Bridge σ) Unit).run c.stdout
      let err := (Bridge.flush : Action IoError (Bridge τ) Unit).run c.stderr
      ⟨out.result.bind fun _ => err.result, { c with stdout := out.state, stderr := err.state },
        out.events ++ err.events⟩ := by
  simp only [flushOutput, onBoth, onStdout, onStderr, run_bind, run_attempt, run_zoom, andThen_ok,
    run_ofExcept, List.append_nil]

end

namespace Engine

/-! ## Calls -/

/-- A call that lets the interpreter run. -/
inductive Call where
  | eval (source : String)
  | invoke (function : String) (arguments : List Value)

/-- What the interpreter does in a call. -/
def Call.session [Interpreter ι] (engine : Engine ι σ τ) :
    Call → Session (Except Failure Value × ι)
  | .eval source => Interpreter.eval engine.interpreter engine.context.scope source
  | .invoke function arguments =>
    Interpreter.invoke engine.interpreter engine.context.scope function arguments

/-- What is logged at the beginning of a call. -/
def Call.event (engine : Engine ι σ τ) : Call → Event
  | .eval source => .evaluating engine.context.settings.scopeName source.utf8ByteSize
  | .invoke function arguments => .invoking function arguments.length

/-- Makes a call. -/
def perform [Interpreter ι] [Sink σ] [Sink τ] : Call → Action Error (World × Engine ι σ τ) Value
  | .eval source => eval source
  | .invoke function arguments => invoke function arguments

/-- The result of a call.  A failure of the interpreter counts more than one of the flushing. -/
def verdict : Except Failure Value → Except IoError Unit → Except Error Value
  | .ok value, .ok () => .ok value
  | .ok _, .error e => .error (.io e)
  | .error failure, _ => .error (.script (ScriptError.ofFailure failure))

/-- What is logged at the end of a call. -/
def remarks : Except Failure Value → Except IoError Unit → List Event
  | .ok _, _ => []
  | .error failure, flushed =>
    (match flushed with
      | .ok () => []
      | .error e => [.flushFailed e]) ++
    [.reported (ScriptError.ofFailure failure).kind failure.chain.length]

variable [Sink σ] [Sink τ]

theorem run_call (session : ι → ScopeRef → Session (Except Failure Value × ι)) (w : World)
    (engine : Engine ι σ τ) :
    (call session).run (w, engine) =
      let played := ((session engine.interpreter engine.context.scope).run :
        Action Empty (World × Context σ τ) (Except Failure Value × ι)).run (w, engine.context)
      let flushed := (Context.flushOutput : Action IoError (Context σ τ) Unit).run played.state.2
      ⟨verdict played.answer.1 flushed.result,
        (played.state.1, ⟨played.answer.2, flushed.state⟩),
        played.events ++ flushed.events ++ remarks played.answer.1 flushed.result⟩ := by
  -- a session cannot fail, so it does not matter which errors the call may have
  have hplayed := Session.run_eq (ε := Error)
    (session engine.interpreter engine.context.scope) (w, engine.context)
  generalize ((session engine.interpreter engine.context.scope).run :
    Action Empty (World × Context σ τ) (Except Failure Value × ι)).run (w, engine.context) = played
    at hplayed ⊢
  simp only [call, run_bind, run_get, andThen_ok, onContext, run_zoom, hplayed, run_modify,
    run_attempt, besideWorld, List.nil_append]
  generalize (Context.flushOutput : Action IoError (Context σ τ) Unit).run played.state.2 = flushed
  obtain ⟨outcome, interpreter⟩ := played.answer
  obtain ⟨result, c, events⟩ := flushed
  cases outcome with
  | ok value => cases result <;> simp [verdict, remarks]
  | error failure => cases result <;> simp [verdict, remarks, report]

/-- **What comes of a call.** -/
theorem run_perform [Interpreter ι] (call : Call) (w : World) (engine : Engine ι σ τ) :
    (perform call).run (w, engine) =
      let played := ((call.session engine).run :
        Action Empty (World × Context σ τ) (Except Failure Value × ι)).run (w, engine.context)
      let flushed := (Context.flushOutput : Action IoError (Context σ τ) Unit).run played.state.2
      ⟨verdict played.answer.1 flushed.result,
        (played.state.1, ⟨played.answer.2, flushed.state⟩),
        call.event engine :: (played.events ++ flushed.events ++
          remarks played.answer.1 flushed.result)⟩ := by
  cases call with
  | eval source =>
    simp only [perform, eval, run_bind, run_get, andThen_ok, run_emit, run_call]
    rfl
  | invoke function arguments =>
    simp only [perform, invoke, run_bind, andThen_ok, run_emit, run_call]
    rfl

end Engine

end ScriptHost
