import ScriptHost.Failure.Render
import ScriptHost.Failure.Traceback

/-!
# Script errors

A `ScriptError` is the one shape in which a host sees that a script failed.  It has a category, a
text for the author of the script, the traceback through the script, and the failure it was made
from.

`ScriptError.ofFailure` chooses the category.  It looks through the wrappers around the failure of
native code down to the first record that is not a wrapper, `Failure.innermost`:

* a parsing, evaluation or internal failure keeps its category, however often it was wrapped, and a
  wrapper around nothing counts as an evaluation failure;
* an error of host or application code is an application error if the script had called that code,
  that is if there is a wrapper, and unknown otherwise.

The traceback is part of the text where it says something: always for an evaluation error, for a
wrapped failure of the other categories, and never for an unknown error.
-/

set_option autoImplicit false

namespace ScriptHost

/-- The categories of script errors. -/
inductive ScriptError.Kind where
  | parsing
  | internal
  | evaluation
  | application
  | unknown
  deriving DecidableEq, Repr

/-- The name of the category. -/
def ScriptError.Kind.name : ScriptError.Kind → String
  | .parsing => "syntax error"
  | .internal => "internal error"
  | .evaluation => "evaluation error"
  | .application => "application error"
  | .unknown => "unknown error"

/-- A script error as the host sees it. -/
structure ScriptError where
  kind : ScriptError.Kind
  message : String
  /-- The places in the script, oldest first. -/
  traceback : List TraceEntry := []
  /-- The failure that the error stands for. -/
  cause : Option Failure := none
  deriving DecidableEq, Repr

/-- The first record that is not a wrapper, or the last wrapper if the chain ends in one. -/
def Failure.innermostOf (r : Failure.Record) : List Failure.Record → Failure.Record
  | [] => r
  | next :: rest => if r.isTarget then innermostOf next rest else r

/-- The record that decides the category of a failure. -/
def Failure.innermost (f : Failure) : Failure.Record := innermostOf f.head f.causes

namespace ScriptError

/-- A script error that no failure stands behind. -/
def new (kind : Kind) (message : String) : ScriptError := ⟨kind, message, [], none⟩

/-- What the categories tell the author of a script. -/
def Kind.advice : Kind → String
  | .parsing =>
    "A parsing error occurred. The syntax of your script was incorrect. " ++
    "A typical problem is a missing operator (e.g. + * ,) or parenthesis. Sometimes the syntax " ++
    "problem may be located a line or two away from where the parser reported the error. " ++
    "Carefully check and correct the syntax and try again."
  | .internal =>
    "The interpreter had an internal error. This is a bug in the interpreter, not in your script."
  | .evaluation =>
    "An error occurred while the script was being evaluated. This type of error is usually " ++
    "caused by mistyping a variable or function name, by using an incorrect data type (a string " ++
    "where a number is required), or by passing the wrong number or type of arguments to a " ++
    "function. Correct your script and try again."
  | .application =>
    "An error occurred in the application software. This type of error is usually caused by " ++
    "incorrect dataset names or other invalid parameter values passed into application " ++
    "functions, or by invalid data in the input files. Correct your script or input data files " ++
    "and try again."
  | .unknown => "An unexpected error has occurred while processing a script."

/-- The category of a failure with the given innermost record. -/
def Kind.of (innermost : Failure.Record) (wrapped : Bool) : Kind :=
  match innermost.kind with
  | .parsing => .parsing
  | .internal => .internal
  | .evaluation | .target => .evaluation
  | .native _ => if wrapped then .application else .unknown

/-- The text without the traceback. -/
def Kind.explain (kind : Kind) (innermost : Failure.Record) : String :=
  match kind with
  | .unknown => kind.advice
  | .internal => s!"{kind.advice}\n\nCaused by:\n   {innermost.display}"
  | _ => s!"{kind.advice}\n\nCaused by:\n   {innermost.message}"

/-- Whether the text ends with the traceback. -/
def Kind.showsTraceback (kind : Kind) (wrapped : Bool) : Bool :=
  match kind with
  | .evaluation => true
  | .unknown => false
  | _ => wrapped

/-- The traceback as the text of an error shows it. -/
def tracebackBlock (entries : List TraceEntry) : String :=
  "\nScript traceback:" ++ renderTraceback entries ++ "\n"

/-- Classifies a failure and composes the error that the host sees. -/
def ofFailure (f : Failure) : ScriptError :=
  let innermost := f.innermost
  let wrapped := f.head.isTarget
  let kind := Kind.of innermost wrapped
  let traceback := f.traceback
  let message :=
    if kind.showsTraceback wrapped then kind.explain innermost ++ tracebackBlock traceback
    else kind.explain innermost
  ⟨kind, message, traceback, some f⟩

/-- The failures behind the error, as texts: the one it stands for and its causes. -/
def sources (e : ScriptError) : List String :=
  match e.cause with
  | some f => f.chain.map Failure.Record.display
  | none => []

end ScriptError

end ScriptHost
