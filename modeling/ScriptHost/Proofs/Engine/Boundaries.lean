import ScriptHost.Proofs.Engine.Calls
import ScriptHost.Proofs.Output.Transcript

/-!
# Calls end their output

After a call nothing is pending on either channel, whatever the sinks did.  So what one call writes
never runs into what the next one writes: the next call starts from channels of which nothing is left
but the sinks, the settings and the counts.

* `Context.Matches` — two contexts whose channels have taken the same since they were two given
  ones.  `Session.parallel_run` says that a session cannot tell them apart, and takes them to two such
  contexts again.
* `Engine.call_ends_output` — what a call reports, and that calls right after two different calls
  go the same way.
-/

set_option autoImplicit false

namespace ScriptHost

open ScriptHost.Action

variable {ε α ι σ τ σ' τ' : Type}

/-! ## Contexts with the same settings -/

/-- The channel is as the settings want it. -/
structure Bridge.Configured (settings : Settings) (b : Bridge σ) : Prop where
  charset : b.charset = settings.charset
  capacity : b.capacity = max settings.bufferCapacity 4

theorem Bridge.Configured.of_lasting {settings : Settings} {b b' : Bridge σ}
    (h : b.Configured settings) (hlast : Lasting b b') : b'.Configured settings :=
  ⟨hlast.charset.trans h.charset, hlast.capacity.trans h.capacity⟩

namespace Context

/-- Both channels are as the settings want them. -/
structure Configured (c : Context σ τ) : Prop where
  stdout : c.stdout.Configured c.settings
  stderr : c.stderr.Configured c.settings

/-- Settings, charsets and capacities are the same. -/
structure Lasting (c c' : Context σ τ) : Prop where
  settings : c'.settings = c.settings
  stdout : Bridge.Lasting c.stdout c'.stdout
  stderr : Bridge.Lasting c.stderr c'.stderr

instance : IsPreorder (Context σ τ) Lasting where
  refl _ := ⟨rfl, refl _, refl _⟩
  trans _ _ _ h h' := ⟨h'.settings.trans h.settings, IsTrans.trans _ _ _ h.stdout h'.stdout,
    IsTrans.trans _ _ _ h.stderr h'.stderr⟩

theorem Configured.of_lasting {c c' : Context σ τ} (h : c.Configured) (hlast : Lasting c c') :
    c'.Configured where
  stdout := hlast.settings ▸ h.stdout.of_lasting hlast.stdout
  stderr := hlast.settings ▸ h.stderr.of_lasting hlast.stderr

/-- A new context is as its settings want it. -/
theorem configured_new (settings : Settings) (out : σ) (err : τ) (w : World) :
    ((new settings out err : Action Empty World (Context σ τ)).run w).answer.Configured :=
  ⟨⟨rfl, rfl⟩, ⟨rfl, rfl⟩⟩

end Context

variable [Sink σ] [Sink τ] [Sink σ'] [Sink τ']

theorem Context.lasting_flushOutput :
    Keeps Lasting (flushOutput : Action IoError (Context σ τ) Unit) := by
  intro c
  rw [run_flushOutput]
  exact ⟨rfl, Bridge.lasting_perform .flush c.stdout, Bridge.lasting_perform .flush c.stderr⟩

/-- A session leaves the settings as they are. -/
theorem Session.lasting_run (session : Session α) :
    Keeps (fun s s' : World × Context σ τ => s.2.Lasting s'.2) (session.run : Action ε _ α) := by
  have : IsPreorder (World × Context σ τ) fun s s' => s.2.Lasting s'.2 :=
    { refl := fun s => refl s.2, trans := fun s s' s'' h h' => IsTrans.trans s.2 s'.2 s''.2 h h' }
  refine session.run_congr (compositional_keeps _) (fun x s => refl s.2) ?_ ?_
  · intro channel bytes s
    cases channel with
    | out => exact ⟨rfl, Bridge.lasting_write bytes s.2.stdout, refl _⟩
    | err => exact ⟨rfl, refl _, Bridge.lasting_write bytes s.2.stderr⟩
  · intro channel s
    cases channel with
    | out => exact ⟨rfl, Bridge.lasting_perform .flush s.2.stdout, refl _⟩
    | err => exact ⟨rfl, refl _, Bridge.lasting_perform .flush s.2.stderr⟩

/-! ## Sinks that are read -/

/-- A way to read the text in a sink, for as long as the sink takes everything. -/
structure Sink.Reader (σ : Type) [Sink σ] where
  text : σ → List Char
  ready : σ → Prop
  takesAll : Sink.TakesAll text ready

/-- A buffer in memory can be read until it is closed. -/
def TextBuffer.reader : Sink.Reader TextBuffer where
  text buffer := buffer.text.toList
  ready buffer := buffer.closed = false
  takesAll := TextBuffer.takesAll

instance : DecidablePred TextBuffer.reader.ready :=
  fun buffer => inferInstanceAs (Decidable (buffer.closed = false))

/-- Since they held the given texts, the two sinks have got the same text. -/
def Sink.Reader.Grown (r : Sink.Reader σ) (r' : Sink.Reader σ') (before before' : List Char)
    (sink : σ) (sink' : σ') : Prop :=
  r.ready sink ∧ r'.ready sink' ∧
    ∃ more, r.text sink = before ++ more ∧ r'.text sink' = before' ++ more

theorem Sink.Reader.simulation (r : Sink.Reader σ) (r' : Sink.Reader σ')
    (before before' : List Char) : Sink.Simulation (r.Grown r' before before') where
  write sink sink' c := by
    rintro ⟨hready, hready', more, htext, htext'⟩
    obtain ⟨next, hwrite, hnext, hmore⟩ := r.takesAll.write sink c hready
    obtain ⟨next', hwrite', hnext', hmore'⟩ := r'.takesAll.write sink' c hready'
    rw [hwrite, hwrite']
    refine ⟨rfl, hnext, hnext', more ++ [c], ?_, ?_⟩
    · rw [hmore, htext, List.append_assoc]
    · rw [hmore', htext', List.append_assoc]
  flush sink sink' := by
    rintro ⟨hready, hready', more, htext, htext'⟩
    obtain ⟨next, hflush, hnext, hsame⟩ := r.takesAll.flush sink hready
    obtain ⟨next', hflush', hnext', hsame'⟩ := r'.takesAll.flush sink' hready'
    rw [hflush, hflush']
    exact ⟨rfl, hnext, hnext', more, hsame.trans htext, hsame'.trans htext'⟩

/-! ## Contexts that have taken the same -/

/-- Since they were `b₀` and `b₀'`, the channels have taken the same, and they will decode the same. -/
abbrev Bridge.Matches (r : Sink.Reader σ) (r' : Sink.Reader σ') (b₀ : Bridge σ) (b₀' : Bridge σ') :
    Bridge σ → Bridge σ' → Prop :=
  Alike (r.Grown r' (r.text b₀.sink) (r'.text b₀'.sink)) b₀.malformed b₀'.malformed

/-- Channels with the same settings match if nothing waits on them. -/
theorem Bridge.matches_of_quiet {r : Sink.Reader σ} {r' : Sink.Reader σ'} {settings : Settings}
    {b : Bridge σ} {b' : Bridge σ'} (h : b.Configured settings) (h' : b'.Configured settings)
    (hquiet : b.Quiet) (hquiet' : b'.Quiet) (hready : r.ready b.sink) (hready' : r'.ready b'.sink) :
    Bridge.Matches r r' b b' b b' where
  sink := ⟨hready, hready', [], (List.append_nil _).symm, (List.append_nil _).symm⟩
  charset := h.charset.trans h'.charset.symm
  capacity := h.capacity.trans h'.capacity.symm
  pending := hquiet.pending.trans hquiet'.pending.symm
  ready := hquiet.ready.trans hquiet'.ready.symm
  malformed := Nat.add_comm _ _

section

variable (out : Sink.Reader σ) (err : Sink.Reader τ) (out' : Sink.Reader σ') (err' : Sink.Reader τ')

/-- Since the contexts were `c₀` and `c₀'`, their channels have taken the same. -/
structure Context.Matches (c₀ : Context σ τ) (c₀' : Context σ' τ') (c : Context σ τ)
    (c' : Context σ' τ') : Prop where
  stdout : Bridge.Matches out out' c₀.stdout c₀'.stdout c.stdout c'.stdout
  stderr : Bridge.Matches err err' c₀.stderr c₀'.stderr c.stderr c'.stderr

variable {out err out' err'} {c₀ : Context σ τ} {c₀' : Context σ' τ'}

theorem Context.parallel_onStdout {x : Action ε (Bridge σ) α} {y : Action ε (Bridge σ') α}
    (h : Parallel (Bridge.Matches out out' c₀.stdout c₀'.stdout) x y) :
    Parallel (Context.Matches out err out' err' c₀ c₀') (onStdout x) (onStdout y) :=
  h.zoom (fun _ _ hm => hm.stdout) fun _ _ _ _ hm hout => ⟨hout, hm.stderr⟩

theorem Context.parallel_onStderr {x : Action ε (Bridge τ) α} {y : Action ε (Bridge τ') α}
    (h : Parallel (Bridge.Matches err err' c₀.stderr c₀'.stderr) x y) :
    Parallel (Context.Matches out err out' err' c₀ c₀') (onStderr x) (onStderr y) :=
  h.zoom (fun _ _ hm => hm.stderr) fun _ _ _ _ hm herr => ⟨hm.stdout, herr⟩

theorem Context.parallel_write (bytes : List UInt8) (channel : Channel) :
    Parallel (Context.Matches out err out' err' c₀ c₀') (write bytes channel)
      (write bytes channel) := by
  cases channel with
  | out => exact parallel_onStdout (Bridge.parallel_write (out.simulation out' _ _) bytes)
  | err => exact parallel_onStderr (Bridge.parallel_write (err.simulation err' _ _) bytes)

theorem Context.parallel_flush (channel : Channel) :
    Parallel (Context.Matches out err out' err' c₀ c₀') (flush channel) (flush channel) := by
  cases channel with
  | out => exact parallel_onStdout (Bridge.parallel_flush (out.simulation out' _ _))
  | err => exact parallel_onStderr (Bridge.parallel_flush (err.simulation err' _ _))

theorem Context.parallel_flushOutput :
    Parallel (Context.Matches out err out' err' c₀ c₀') flushOutput flushOutput :=
  (parallel_flush .out).attempt.bind fun _ =>
    (parallel_flush .err).attempt.bind fun _ => (compositional_parallel _).ofExcept _

/-- **A session cannot tell matching contexts apart.** -/
theorem Session.parallel_run (session : Session α) :
    Parallel (fun (s : World × Context σ τ) (s' : World × Context σ' τ') =>
        s.1 = s'.1 ∧ Context.Matches out err out' err' c₀ c₀' s.2 s'.2)
      (session.run : Action ε (World × Context σ τ) α) session.run := by
  have hbeside : ∀ {ε α : Type} {x : Action ε (Context σ τ) α} {y : Action ε (Context σ' τ') α},
      Parallel (Context.Matches out err out' err' c₀ c₀') x y →
      Parallel (fun (s : World × Context σ τ) (s' : World × Context σ' τ') =>
        s.1 = s'.1 ∧ Context.Matches out err out' err' c₀ c₀' s.2 s'.2)
        (besideWorld x) (besideWorld y) :=
    fun h => h.zoom (fun _ _ hm => hm.2) fun _ _ _ _ hm hc => ⟨hm.1, hc⟩
  refine session.run_congr (compositional_parallel _) ?_
    (fun channel bytes => hbeside (Context.parallel_write bytes channel))
    (fun channel => hbeside (Context.parallel_flush channel))
  rintro ε α x ⟨w, c⟩ ⟨-, c'⟩ ⟨rfl, hm⟩
  exact ⟨rfl, rfl, rfl, hm⟩

end

/-! ## Calls -/

namespace Engine

variable [Interpreter ι] {engine : Engine ι σ τ}

theorem context_perform (call : Call) (w : World) (engine : Engine ι σ τ) :
    ((perform call).run (w, engine)).state.2.context =
      ((Context.flushOutput : Action IoError (Context σ τ) Unit).run
        ((call.session engine).run.run (w, engine.context) : Outcome Empty _ _).state.2).state := by
  rw [run_perform]

theorem quiet_perform (call : Call) (w : World) (engine : Engine ι σ τ) :
    ((perform call).run (w, engine)).state.2.context.stdout.Quiet ∧
      ((perform call).run (w, engine)).state.2.context.stderr.Quiet := by
  rw [context_perform, Context.run_flushOutput]
  exact ⟨Bridge.quiet_flush _, Bridge.quiet_flush _⟩

theorem lasting_perform (call : Call) (w : World) (engine : Engine ι σ τ) :
    engine.context.Lasting ((perform call).run (w, engine)).state.2.context := by
  rw [context_perform]
  exact IsTrans.trans _ _ _ (Session.lasting_run (call.session engine) (w, engine.context))
    (Context.lasting_flushOutput _)

/-! ### What a call reports -/

section

variable {outcome : Except Failure Value} {value : Value} {out err : Except IoError Unit}

theorem verdict_eq_ok_iff : verdict (.ok value) (out.bind fun _ => err) = .ok value ↔
    out = .ok () ∧ err = .ok () := by
  rcases out with e | ⟨⟩ <;> rcases err with e' | ⟨⟩ <;> simp [verdict, Except.bind]

theorem verdict_of_out {e : IoError} (h : out = .error e) :
    verdict (.ok value) (out.bind fun _ => err) = .error (.io e) := by
  rw [h]
  rfl

theorem verdict_of_err {e : IoError} (h : out = .ok ()) (h' : err = .error e) :
    verdict (.ok value) (out.bind fun _ => err) = .error (.io e) := by
  rw [h, h']
  rfl

end

/-! ### Two engines -/

section

variable {out : Sink.Reader σ} {err : Sink.Reader τ} {out' : Sink.Reader σ'} {err' : Sink.Reader τ'}
  {engine' : Engine ι σ' τ'}

/-- **A call goes the same way in matching contexts.** -/
theorem agree_perform {call : Call} (hsettings : engine.context.settings = engine'.context.settings)
    (hsession : call.session engine = call.session engine')
    (hm : Context.Matches out err out' err' engine.context engine'.context engine.context
      engine'.context) (w : World) :
    ((perform call).run (w, engine)).Agree (fun s s' => s.1 = s'.1 ∧
        s.2.interpreter = s'.2.interpreter ∧
        Context.Matches out err out' err' engine.context engine'.context s.2.context s'.2.context)
      ((perform call).run (w, engine')) := by
  obtain ⟨hplayed, hevents, hworld, hmatch⟩ := (call.session engine).parallel_run (ε := Empty)
    (w, engine.context) (w, engine'.context) ⟨rfl, hm⟩
  rw [Outcome.result_eq_answer, Outcome.result_eq_answer] at hplayed
  have hanswer := Except.ok.inj hplayed
  obtain ⟨hflushed, hlog, hafter⟩ := Context.parallel_flushOutput _ _ hmatch
  have hevent : call.event engine = call.event engine' := by
    cases call with
    | eval source => rw [Call.event, Call.event, hsettings]
    | invoke function arguments => rfl
  rw [run_perform, run_perform, ← hsession]
  simp only [← hanswer, ← hevents, ← hflushed, ← hlog, ← hevent]
  exact ⟨rfl, rfl, hworld, rfl, hafter⟩

end

/-! ### The contract of a call -/

/-- **Calls end their output.**  Once the interpreter has run, both channels are flushed, the output
first and the other one even if that fails, and nothing is left pending; all else is as the
interpreter left it.  If the interpreter has failed, the result is that failure as a script error,
however the flushing went.  If it has a value, that is the result if both channels could be flushed;
otherwise the result is the error of the first one that could not.

So what was written before does not show: for two engines with the same settings, right after any
two calls, as long as their sinks take everything, the same run of the interpreter has the same
result and the same effects, and adds the same text to the sinks. -/
theorem call_ends_output :
    (∀ (call : Call) (w : World) (engine : Engine ι σ τ),
      let played := ((call.session engine).run :
        Action Empty (World × Context σ τ) (Except Failure Value × ι)).run (w, engine.context)
      let out := (Bridge.flush : Action IoError (Bridge σ) Unit).run played.state.2.stdout
      let err := (Bridge.flush : Action IoError (Bridge τ) Unit).run played.state.2.stderr
      let done := (perform call).run (w, engine)
      done.state = (played.state.1, ⟨played.answer.2,
          { played.state.2 with stdout := out.state, stderr := err.state }⟩) ∧
        done.state.2.context.stdout.pending = [] ∧ done.state.2.context.stderr.pending = [] ∧
        call.event engine :: (played.events ++ (out.events ++ err.events)) <+: done.events ∧
        (∀ failure, played.answer.1 = .error failure →
          done.result = .error (.script (ScriptError.ofFailure failure)) ∧
            (ScriptError.ofFailure failure).cause = some failure) ∧
        ∀ value, played.answer.1 = .ok value →
          (done.result = .ok value ↔ out.result = .ok () ∧ err.result = .ok ()) ∧
            (∀ e, out.result = .error e → done.result = .error (.io e)) ∧
            ∀ e, out.result = .ok () → err.result = .error e → done.result = .error (.io e)) ∧
    ∀ (out : Sink.Reader σ) (err : Sink.Reader τ) (out' : Sink.Reader σ') (err' : Sink.Reader τ')
      (before : World × Engine ι σ τ) (before' : World × Engine ι σ' τ') (first first' call : Call),
      before.2.context.Configured → before'.2.context.Configured →
      before.2.context.settings = before'.2.context.settings →
      let engine := ((perform first).run before).state.2
      let engine' := ((perform first').run before').state.2
      out.ready engine.context.stdout.sink → err.ready engine.context.stderr.sink →
      out'.ready engine'.context.stdout.sink → err'.ready engine'.context.stderr.sink →
      call.session engine = call.session engine' →
      ∀ w,
        let done := (perform call).run (w, engine)
        let done' := (perform call).run (w, engine')
        done.result = done'.result ∧ done.events = done'.events ∧ done.state.1 = done'.state.1 ∧
          done.state.2.interpreter = done'.state.2.interpreter ∧
          (∃ text, out.text done.state.2.context.stdout.sink =
              out.text engine.context.stdout.sink ++ text ∧
            out'.text done'.state.2.context.stdout.sink =
              out'.text engine'.context.stdout.sink ++ text) ∧
          ∃ text, err.text done.state.2.context.stderr.sink =
              err.text engine.context.stderr.sink ++ text ∧
            err'.text done'.state.2.context.stderr.sink =
              err'.text engine'.context.stderr.sink ++ text := by
  refine ⟨fun call w engine => ?_, ?_⟩
  · have hquiet := quiet_perform call w engine
    intro played out err done
    have hdone : done = ⟨verdict played.answer.1 (out.result.bind fun _ => err.result),
        (played.state.1, ⟨played.answer.2,
          { played.state.2 with stdout := out.state, stderr := err.state }⟩),
        call.event engine :: (played.events ++ (out.events ++ err.events) ++
          remarks played.answer.1 (out.result.bind fun _ => err.result))⟩ := by
      have hrun := run_perform call w engine
      simp only [Context.run_flushOutput] at hrun
      exact hrun
    refine ⟨by rw [hdone], hquiet.1.pending, hquiet.2.pending, ?_, ?_, ?_⟩
    · rw [hdone]
      exact (List.prefix_cons_inj _).2 (List.prefix_append _ _)
    · intro failure hfailure
      rw [hdone, hfailure]
      exact ⟨rfl, rfl⟩
    · intro value hvalue
      rw [hdone, hvalue]
      exact ⟨verdict_eq_ok_iff, fun e => verdict_of_out, fun e => verdict_of_err⟩
  · intro out err out' err' before before' first first' call hconf hconf' hsettings engine engine'
      hout herr hout' herr' hsession w done done'
    have hlast := lasting_perform first before.1 before.2
    have hlast' := lasting_perform first' before'.1 before'.2
    have hsame : engine.context.settings = engine'.context.settings :=
      (hlast.settings.trans hsettings).trans hlast'.settings.symm
    have hquiet := quiet_perform first before.1 before.2
    have hquiet' := quiet_perform first' before'.1 before'.2
    have hconf := hconf.of_lasting hlast
    have hconf' := hconf'.of_lasting hlast'
    have hm : Context.Matches out err out' err' engine.context engine'.context engine.context
        engine'.context :=
      ⟨Bridge.matches_of_quiet hconf.stdout (hsame ▸ hconf'.stdout) hquiet.1 hquiet'.1 hout hout',
        Bridge.matches_of_quiet hconf.stderr (hsame ▸ hconf'.stderr) hquiet.2 hquiet'.2 herr herr'⟩
    obtain ⟨hresult, hevents, hworld, hinterpreter, hafter⟩ := agree_perform hsame hsession hm w
    obtain ⟨-, -, htext⟩ := hafter.stdout.sink
    obtain ⟨-, -, htext'⟩ := hafter.stderr.sink
    exact ⟨hresult, hevents, hworld, hinterpreter, htext, htext'⟩

/-- An interpreter that writes each character of a script as one byte. -/
structure Typist where

instance : Interpreter Typist where
  eval typist _ source := do
    let _ ← Session.writeAll .out (source.toList.map fun c => UInt8.ofNat c.toNat)
    return (.ok ⟨⟨0⟩, .unit⟩, typist)
  invoke typist _ _ _ := return (.ok ⟨⟨0⟩, .unit⟩, typist)

/-- The bytes of a euro sign, of which the first one is written in one call and the others in the next
one: the second call writes what it would write after any other call. -/
theorem call_ends_output_split_character :
    let context := ((Context.new {} ({} : TextBuffer) ({} : TextBuffer) :
      Action Empty World (Context TextBuffer TextBuffer)).run .empty).answer
    let start : World × Engine Typist TextBuffer TextBuffer := (.empty, ⟨⟨⟩, context⟩)
    let engine := ((perform (.eval "\u00e2")).run start).state.2
    let engine' := ((perform (.eval "x")).run start).state.2
    let done := (perform (.eval "\u0082\u00ac")).run (World.empty, engine)
    let done' := (perform (.eval "\u0082\u00ac")).run (World.empty, engine')
    TextBuffer.reader.text engine.context.stdout.sink = [Utf8.replacement] ∧
      TextBuffer.reader.text engine'.context.stdout.sink = ['x'] ∧
      ∃ text,
        TextBuffer.reader.text done.state.2.context.stdout.sink =
          TextBuffer.reader.text engine.context.stdout.sink ++ text ∧
        TextBuffer.reader.text done'.state.2.context.stdout.sink =
          TextBuffer.reader.text engine'.context.stdout.sink ++ text := by
  intro context start
  have hsession : ∀ e e' : Engine Typist TextBuffer TextBuffer,
      Call.session e (.eval "\u0082\u00ac") = Call.session e' (.eval "\u0082\u00ac") :=
    fun _ _ => rfl
  have hcall := call_ends_output.2 TextBuffer.reader TextBuffer.reader TextBuffer.reader
    TextBuffer.reader start start (.eval "\u00e2") (.eval "x") (.eval "\u0082\u00ac")
    (Context.configured_new _ _ _ _) (Context.configured_new _ _ _ _) rfl
    (by decide +kernel) (by decide +kernel) (by decide +kernel) (by decide +kernel)
    (hsession _ _) .empty
  exact ⟨by decide +kernel, by decide +kernel, hcall.2.2.2.2.1⟩

end Engine

end ScriptHost
