import ScriptHost.Failure.Basic

/-!
# The traceback of a chain of failures

A failure that crosses several calls from script into native code and back is wrapped at each of
them.  Its traceback lists the places in the script that the chain passed through, oldest first.

* **Levels.**  Only the script-level records at the outer end of the chain count, and of those only
  the ones reached through wrappers: `Failure.levels`.
* **Own places.**  A level adds the place where it was raised, unless it wraps a script-level failure
  (`Level.superseded`): that record already points at the same call.
* **Calls.**  After that come the method calls of its copied call stack that have a place.

A place that is not known is listed as such: `TraceEntry.unknown`.
-/

set_option autoImplicit false

namespace ScriptHost

/-- A line of a traceback. -/
structure TraceEntry where
  file : String
  line : Int
  text : String
  deriving DecidableEq, Repr

namespace TraceEntry

/-- The entry of a known place. -/
def ofLocation (loc : Location) : TraceEntry := ⟨loc.file, loc.line.toNat, loc.text⟩

/-- The entry of a failure whose place is not known. -/
def unknown : TraceEntry := ⟨"<unknown file>", -1, "<unknown location>"⟩

/-- The text of an entry. -/
def render (e : TraceEntry) : String := s!"\n    at {e.file}:{e.line} '{e.text}'"

end TraceEntry

namespace Failure

/-- The entry for the place where a record was raised. -/
def Record.placeEntry (r : Record) : TraceEntry :=
  match r.location with
  | some loc => .ofLocation loc
  | none => .unknown

/-- The entries for the method calls of the copied call stack that have a place, oldest first. -/
def Record.callEntries (r : Record) : List TraceEntry :=
  (r.stackFrames.filter Frame.isMethod).filterMap fun frame =>
    frame.location.map TraceEntry.ofLocation

/-- A record that takes part in a traceback. -/
structure Level where
  record : Record
  /-- Whether the record wraps a script-level failure, which points at the same call. -/
  superseded : Bool
  deriving DecidableEq, Repr

/-- The entries of a level: its own place, unless it is superseded, and its calls. -/
def Level.entries (level : Level) : List TraceEntry :=
  if level.superseded then level.record.callEntries
  else level.record.placeEntry :: level.record.callEntries

/-- Whether the chain starts with a wrapper around a script-level failure. -/
def wrapsScriptLevel : List Record → Bool
  | r :: next :: _ => r.isTarget && next.kind.isScriptLevel
  | _ => false

/-- The levels of a chain, outermost first: script-level records as far as wrappers lead. -/
def levels : List Record → List Level
  | [] => []
  | r :: rest =>
    if r.kind.isScriptLevel then
      ⟨r, wrapsScriptLevel (r :: rest)⟩ :: (if r.isTarget then levels rest else [])
    else []

/-- The traceback, oldest entry first. -/
def traceback (f : Failure) : List TraceEntry :=
  (levels f.chain).reverse.flatMap Level.entries

end Failure

/-- The text of a traceback. -/
def renderTraceback (entries : List TraceEntry) : String :=
  String.join (entries.map TraceEntry.render)

end ScriptHost
