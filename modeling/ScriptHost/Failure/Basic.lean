/-!
# Failures as the interpreter raises them

When a script goes wrong, the interpreter hands the host a `Failure`.  It is a chain of `Record`s,
the outermost first, each of them caused by the next one.  A record says what kind of failure it
is, in which words, at which place of the script, and with which calls active.

* **Kinds.**  `Failure.Kind` names the origin.  A `target` record is a wrapper: the interpreter
  called native code, the code failed, and the cause of the record is that failure.
* **Snapshots.**  The live `CallStack` goes on changing while a failure travels outwards, so a record
  keeps a copy of its frames.  A record without a copy (`none`) differs from one whose call stack
  was empty when it was copied (`some []`).
-/

set_option autoImplicit false

namespace ScriptHost

/-- A place in a script. -/
structure Location where
  file : String
  line : UInt32
  /-- The statement at this place. -/
  text : String
  deriving DecidableEq, Repr

/-- The place as file and line. -/
def Location.display (loc : Location) : String := s!"{loc.file}:{loc.line}"

/-! ## The call stack -/

/-- One activation on the interpreter's call stack. -/
structure Frame where
  name : String
  /-- Whether this is the call of a method.  Other frames, such as the global namespace and block
  scopes, never show in a trace. -/
  isMethod : Bool
  location : Option Location
  deriving DecidableEq, Repr

/-- The frame of a method call. -/
def Frame.method (name : String) (location : Option Location) : Frame := ⟨name, true, location⟩

/-- The frame of a namespace or block. -/
def Frame.block (name : String) : Frame := ⟨name, false, none⟩

/-- The live call stack of the interpreter. -/
structure CallStack where
  /-- The frames, oldest first. -/
  frames : List Frame := []
  deriving DecidableEq, Repr

namespace CallStack

/-- Enters a frame. -/
def push (stack : CallStack) (frame : Frame) : CallStack := ⟨stack.frames ++ [frame]⟩

/-- Leaves the newest frame; an empty stack stays as it is. -/
def pop (stack : CallStack) : CallStack := ⟨stack.frames.dropLast⟩

/-- The newest frame. -/
def top? (stack : CallStack) : Option Frame := stack.frames.getLast?

/-- The number of frames. -/
def depth (stack : CallStack) : Nat := stack.frames.length

end CallStack

/-! ## Records and chains -/

/-- Where a failure comes from. -/
inductive Failure.Kind where
  /-- The script could not be parsed. -/
  | parsing
  /-- A well-formed script failed while it ran. -/
  | evaluation
  /-- The interpreter itself is at fault. -/
  | internal
  /-- Native code that the script called failed; the cause is its failure. -/
  | target
  /-- Host or application code raised an error of the named type. -/
  | native (typeName : String)
  deriving DecidableEq, Repr

/-- Whether records of this kind describe the script, so that they take part in its traceback.
Native and internal failures end the part of the chain that does. -/
def Failure.Kind.isScriptLevel : Failure.Kind → Bool
  | .parsing | .evaluation | .target => true
  | .internal | .native _ => false

/-- One failure without its cause. -/
structure Failure.Record where
  kind : Failure.Kind
  message : String
  location : Option Location := none
  /-- The call stack at the failure, oldest frame first, if it was copied. -/
  frames : Option (List Frame) := none
  deriving DecidableEq, Repr

/-- Whether the record is a wrapper around the failure of native code. -/
def Failure.Record.isTarget (r : Failure.Record) : Bool := r.kind = .target

/-- A failure: a record and what caused it, the nearest cause first. -/
structure Failure where
  head : Failure.Record
  causes : List Failure.Record := []
  deriving DecidableEq, Repr

namespace Failure

/-- A failure without place, call stack and cause. -/
def new (kind : Kind) (message : String) : Failure := ⟨⟨kind, message, none, none⟩, []⟩

/-- A fault of the interpreter. -/
def internal (message : String) : Failure := new .internal message

/-- An error of host or application code. -/
def native (typeName message : String) : Failure := new (.native typeName) message

/-- All records of the failure, the outermost first. -/
def chain (f : Failure) : List Record := f.head :: f.causes

/-- The failure whose chain is the given one. -/
def ofChain? : List Record → Option Failure
  | [] => none
  | r :: causes => some ⟨r, causes⟩

/-- The failure that caused this one. -/
def cause? (f : Failure) : Option Failure := ofChain? f.causes

/-- The innermost record of the chain. -/
def rootCause (f : Failure) : Record := f.causes.getLast?.getD f.head

/-- The failure at a place of the script. -/
def locatedAt (f : Failure) (location : Location) : Failure :=
  { f with head := { f.head with location := some location } }

/-- The failure with a cause, in place of any cause it had. -/
def causedBy (f cause : Failure) : Failure := { f with causes := cause.chain }

/-- A wrapper around the failure of native code. -/
def target (message : String) (inner : Failure) : Failure := (new .target message).causedBy inner

/-- The failure with a copy of the call stack. -/
def withCallStack (f : Failure) (stack : CallStack) : Failure :=
  { f with head := { f.head with frames := some stack.frames } }

/-- The failure as a layer raises it again that has more to say: its words come first. -/
def withContext (f : Failure) (context : String) : Failure :=
  { f with head := { f.head with
      message := if f.head.message = "" then context else s!"{context} : {f.head.message}" } }

end Failure

/-! ## What a record says about its place -/

namespace Failure.Record

/-- Whether the call stack was copied into the record. -/
def hasCallStack (r : Record) : Bool := r.frames.isSome

/-- The copied frames, none if the call stack was not copied. -/
def stackFrames (r : Record) : List Frame := r.frames.getD []

/-- The statement that failed. -/
def errorText (r : Record) : String :=
  match r.location with
  | some loc => loc.text
  | none => "<unknown error>"

/-- The line of the failure, or -1. -/
def errorLine (r : Record) : Int :=
  match r.location with
  | some loc => loc.line.toNat
  | none => -1

/-- The file of the failure. -/
def errorFile (r : Record) : String :=
  match r.location with
  | some loc => loc.file
  | none => "<unknown file>"

end Failure.Record

end ScriptHost
