import ScriptHost.Settings
import ScriptHost.ScriptError
import ScriptHost.Output.Sink

/-!
# The log

What the library does is accompanied by `Event`s, which a host may collect in a log.  An event is
kept as what happened; its level, its message and its fields are derived from that.
-/

set_option autoImplicit false

namespace ScriptHost

/-- What a host attempts on the variables of a scope. -/
inductive Attempt where
  | access
  | assign
  | remove
  | list
  deriving DecidableEq, Repr

/-- What is said when the attempt fails. -/
def Attempt.complaint : Attempt → String
  | .access => "Error accessing variable"
  | .assign => "Error setting variable"
  | .remove => "Error removing variable"
  | .list => "Error listing variables"

/-- Something worth a line in the log. -/
inductive Event where
  /-- A script of so many bytes is about to be evaluated. -/
  | evaluating (scope : String) (bytes : Nat)
  /-- A function of the script is about to be called. -/
  | invoking (function : String) (arguments : Nat)
  /-- A failure with a chain of `depth` records became a script error. -/
  | reported (kind : ScriptError.Kind) (depth : Nat)
  /-- A failure kept the host from its attempt on a variable. -/
  | illegalState (attempt : Attempt) (variableName : String) (failure : Failure)
  /-- A name is gone from a global store, and the scope has a new revision. -/
  | namespaceChanged (scope : String) (revision : Nat)
  /-- A pass over the output found malformed sequences. -/
  | malformedOutput (charset : Charset) (sequences : Nat)
  /-- The output could not be flushed after a failure. -/
  | flushFailed (error : IoError)
  deriving DecidableEq, Repr

/-- How important an event is. -/
inductive Event.Level where
  | debug
  | warn
  deriving DecidableEq, Repr

namespace Event

/-- The level of an event. -/
def level : Event → Level
  | .evaluating .. | .invoking .. | .reported .. | .namespaceChanged .. => .debug
  | .illegalState .. | .malformedOutput .. | .flushFailed .. => .warn

/-- The message of an event. -/
def message : Event → String
  | .evaluating .. => "evaluating script"
  | .invoking .. => "invoking script function"
  | .reported .. => "translated script failure"
  | .illegalState attempt _ _ => attempt.complaint
  | .namespaceChanged .. => "namespace changed"
  | .malformedOutput .. => "malformed byte sequence in script output"
  | .flushFailed .. => "could not flush script output after failure"

/-- The fields of an event, sorted by name. -/
def fields : Event → List (String × String)
  | .evaluating scope bytes => [("bytes", toString bytes), ("scope", scope)]
  | .invoking function arguments => [("args", toString arguments), ("function", function)]
  | .reported kind depth => [("depth", toString depth), ("kind", kind.name)]
  | .illegalState _ variableName failure =>
    [("failure", failure.display), ("variable", variableName)]
  | .namespaceChanged scope revision => [("revision", toString revision), ("scope", scope)]
  | .malformedOutput charset sequences =>
    [("charset", charset.name), ("sequences", toString sequences)]
  | .flushFailed error => [("err", error.message)]

end Event

end ScriptHost
