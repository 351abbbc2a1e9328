import ScriptHost.Output.Bridge

/-!
# Runs of an output channel

A `Bridge.Call` is something that may be asked of an output channel, and a run is a list of calls,
made one after the other, whether they fail or not: `Bridge.afterAll`.

The bytes that a run sends fall into `Sessions`.  A session ends with a last pass, on request or by
a flush, and the next byte starts a new one.  Sessions are read off the calls alone; neither the
capacity of the channel nor its sink has a part in them.
-/

set_option autoImplicit false

namespace ScriptHost

namespace Bridge

/-! ## Calls -/

/-- Something that may be asked of an output channel. -/
inductive Call where
  | writeByte (byte : UInt8)
  | write (bytes : List UInt8)
  | writeAll (bytes : List UInt8)
  | decode (last : Bool)
  | flush
  | close
  deriving DecidableEq, Repr

variable {σ : Type} [Sink σ]

/-- Makes a call. -/
def perform : Call → Action IoError (Bridge σ) Unit
  | .writeByte byte => writeByte byte
  | .write bytes => do
    let _ ← write bytes
  | .writeAll bytes => writeAll bytes
  | .decode last => decode last
  | .flush => flush
  | .close => close

/-- The channel after a call, whether the call failed or not. -/
def after (b : Bridge σ) (call : Call) : Bridge σ := ((perform call).run b).state

/-- The channel after a run. -/
def afterAll (b : Bridge σ) (calls : List Call) : Bridge σ := calls.foldl after b

/-- The calls that write differ only in what they answer. -/
theorem perform_write (bytes : List UInt8) :
    (perform (.write bytes) : Action IoError (Bridge σ) Unit) = writeBytes bytes := by
  simp only [perform, write, bind_assoc, pure_bind, bind_pure_unit]

theorem perform_writeAll (bytes : List UInt8) :
    (perform (.writeAll bytes) : Action IoError (Bridge σ) Unit) = writeBytes bytes :=
  writeAll_eq bytes

end Bridge

/-! ## Sessions -/

/-- The byte strings that a run sends, session by session. -/
structure Sessions where
  /-- The sessions that are over, oldest first. -/
  finished : List (List UInt8) := []
  /-- The bytes of the session that goes on. -/
  current : List UInt8 := []
  deriving DecidableEq, Repr

namespace Sessions

/-- More bytes arrive in the current session. -/
def receive (s : Sessions) (bytes : List UInt8) : Sessions :=
  { s with current := s.current ++ bytes }

/-- The current session is over. -/
def finish (s : Sessions) : Sessions := ⟨s.finished ++ [s.current], []⟩

/-- What a call adds to the sessions. -/
def after (s : Sessions) : Bridge.Call → Sessions
  | .writeByte byte => s.receive [byte]
  | .write bytes | .writeAll bytes => s.receive bytes
  | .decode true | .flush => s.finish
  | .decode false | .close => s

/-- The sessions of a run. -/
def ofCalls (calls : List Bridge.Call) : Sessions := calls.foldl after {}

theorem receive_nil (s : Sessions) : s.receive [] = s := by
  rw [receive, List.append_nil]

theorem receive_append (s : Sessions) (a b : List UInt8) :
    (s.receive a).receive b = s.receive (a ++ b) := by
  simp only [receive, List.append_assoc]

theorem ofCalls_concat (calls : List Bridge.Call) (call : Bridge.Call) :
    ofCalls (calls ++ [call]) = (ofCalls calls).after call := by
  rw [ofCalls, List.foldl_append]
  rfl

end Sessions

end ScriptHost
