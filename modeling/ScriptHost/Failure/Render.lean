import ScriptHost.Failure.Basic

/-!
# The text of a failure

A record is shown with its words, its place and, if the call stack was copied, the calls that were
active.  An error of host or application code is shown as type and words only.

The calls are listed newest first, and only the calls of methods: `Record.calls` is the list,
`Record.stackTrace` its text.
-/

set_option autoImplicit false

namespace ScriptHost

/-- The place with line, file and statement. -/
def Location.details (loc : Location) : String :=
  s!" : at Line: {loc.line} : in file: {loc.file} : {loc.text}"

/-- The line of a stack trace for a call. -/
def Frame.stackLine (frame : Frame) : String :=
  s!"\nCalled from method: {frame.name}" ++
    match frame.location with
    | some loc => loc.details
    | none => ""

namespace Failure.Record

/-- The method calls in the copied call stack, newest first. -/
def calls (r : Record) : List Frame := r.stackFrames.reverse.filter Frame.isMethod

/-- The stack trace: a line for each method call, newest first. -/
def stackTrace (r : Record) : String :=
  if r.hasCallStack then String.join (r.calls.map Frame.stackLine) else "<Unknown>"

/-- The record with its place, but without its call stack. -/
def summary (r : Record) : String :=
  match r.kind with
  | .native typeName => s!"{typeName}: {r.message}"
  | _ =>
    r.message ++
      match r.location with
      | some loc => loc.details
      | none => ": <at unknown location>"

/-- The text of a record. -/
def display (r : Record) : String :=
  match r.kind with
  | .native _ => r.summary
  | _ => if r.hasCallStack then r.summary ++ "\n" ++ r.stackTrace else r.summary

end Failure.Record

/-- The text of a failure is that of its outermost record. -/
def Failure.display (f : Failure) : String := f.head.display

end ScriptHost
