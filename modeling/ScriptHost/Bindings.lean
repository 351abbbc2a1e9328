import ScriptHost.Text.Quoted
import ScriptHost.World.Variables

/-!
# Bindings

`Bindings` are the variables of a scope as a host works with them: a map from names to values.  What
is read is what the scope shows, locals over globals; what is written lands where the name is found.

* **Keys.**  A host may pass something as a name that is none, for instance a value of the script.
  `Key.name` is the name, or the reason why there is none.
* **Errors.**  A cell that is held in the way of an operation makes it an `illegalState`, which says
  what was attempted on which variable, and carries the failure as a script error.  Both go into the
  log.
* **Snapshots.**  `Bindings.entries` copies what is visible at one moment into a `Snapshot`.

Two bindings are equal if they are bindings of the same scope, so a copy is another handle on the
same variables.
-/

set_option autoImplicit false

namespace ScriptHost

/-! ## Keys and errors -/

/-- Why an operation on bindings failed. -/
inductive BindingError where
  /-- There is no key. -/
  | nullKey
  /-- The key is a value of a type that cannot name a variable. -/
  | invalidKeyType (found : String)
  /-- The variables could not be used. -/
  | illegalState (attempt : Attempt) (variableName : String) (source : ScriptError)
  deriving DecidableEq, Repr

namespace BindingError

/-- The text of the error. -/
def message : BindingError → String
  | .nullKey => "variable name cannot be null"
  | .invalidKeyType found => "variable name must be a String: " ++ found
  | .illegalState attempt variableName _ => attempt.complaint ++ ": " ++ variableName

/-- The script error behind the error. -/
def source? : BindingError → Option ScriptError
  | .illegalState _ _ source => some source
  | _ => none

end BindingError

/-- What a host may pass for the name of a variable. -/
inductive Key where
  /-- Nothing. -/
  | null
  /-- A name. -/
  | name (s : String)
  /-- A value, which has to be a string. -/
  | value (v : Value)

/-- The name that a key stands for.  The unit value counts as no key. -/
def Key.name? : Key → Except BindingError String
  | .null => .error .nullKey
  | .name s => .ok s
  | .value v =>
    match v.content with
    | .string s => .ok s
    | .unit => .error .nullKey
    | content => .error (.invalidKeyType content.typeName)

/-! ## Snapshots -/

/-- The variables that were visible at one moment. -/
structure Snapshot where
  entries : Table Value

namespace Snapshot

/-- Snapshots are equal if they have equal values for the same names, in whatever order. -/
instance : BEq Snapshot where
  beq snapshot snapshot' := snapshot.entries.sameEntries snapshot'.entries

/-- The number of variables. -/
def size (snapshot : Snapshot) : Nat := snapshot.entries.size

/-- Whether no variable was visible. -/
def isEmpty (snapshot : Snapshot) : Bool := snapshot.entries.isEmpty

/-- The value that a name had. -/
def find? (snapshot : Snapshot) (name : String) : Option Value := snapshot.entries.find? name

/-- Whether the name had a value. -/
def contains (snapshot : Snapshot) (name : String) : Bool := snapshot.entries.contains name

/-- The variables in the order in which the bindings list them. -/
def toList (snapshot : Snapshot) : List (String × Value) := snapshot.entries.entries

end Snapshot

/-! ## Bindings -/

/-- The variables of a scope as a map. -/
structure Bindings where
  scope : ScopeRef
  deriving DecidableEq, Repr

/-- Logs a failure that kept the host from its attempt, and fails with it. -/
def illegalState {σ α : Type} (attempt : Attempt) (variableName : String) (failure : Failure) :
    Action BindingError σ α := do
  Action.emit (.illegalState attempt variableName failure)
  let source ← report failure
  throw (.illegalState attempt variableName source)

/-- Makes an attempt on the variable of a given name. -/
def attempting {α : Type} (attempt : Attempt) (variableName : String)
    (x : Action AccessError World α) : Action BindingError World α := do
  match ← x.attempt with
  | .ok a => return a
  | .error e => illegalState attempt variableName e.toFailure

namespace Bindings

variable (b : Bindings)

/-! ### Listing -/

/-- The names of the variables, locals first. -/
def keys : Action BindingError World (List String) := attempting .list "*" b.scope.names

/-- The number of variables. -/
def size : Action BindingError World Nat := do
  return (← b.keys).length

/-- Whether there are no variables. -/
def isEmpty : Action BindingError World Bool := do
  return (← b.size) = 0

/-- Whether the key is the name of a variable.  What is no name is never one. -/
def containsKey (key : Key) : Action BindingError World Bool :=
  match key.name? with
  | .ok name => return name ∈ (← b.keys)
  | .error _ => return false

/-! ### Reading -/

/-- The value of the variable of a given name. -/
def lookup (name : String) : Action BindingError World (Option Value) :=
  attempting .access name (b.scope.get name)

/-- The value of a variable. -/
def get (key : Key) : Action BindingError World (Option Value) := do
  let name ← Action.ofExcept key.name?
  b.lookup name

/-- Whether one of the named variables has a value equal to `value`. -/
def anyEqual (value : Value) : List String → Action BindingError World Bool
  | [] => return false
  | name :: rest => do
    match ← b.lookup name with
    | some found => if found == value then return true else anyEqual value rest
    | none => anyEqual value rest

/-- Whether some variable has a value equal to `value`. -/
def containsValue (value : Value) : Action BindingError World Bool := do
  b.anyEqual value (← b.keys)

/-- The named variables with their values. -/
def lookupAll : List String → Action BindingError World (List (String × Value))
  | [] => return []
  | name :: rest => do
    match ← b.lookup name with
    | some value => return (name, value) :: (← lookupAll rest)
    | none => lookupAll rest

/-- The values of the variables, in the order of their names. -/
def values : Action BindingError World (List Value) := do
  return (← b.lookupAll (← b.keys)).map Prod.snd

/-- A snapshot of the variables. -/
def entries : Action BindingError World Snapshot := do
  return ⟨Table.ofList (← b.lookupAll (← b.keys))⟩

/-! ### Writing -/

/-- Gives a variable a value.  Answers its former value. -/
def put (key : Key) (value : Value) : Action BindingError World (Option Value) := do
  let name ← Action.ofExcept key.name?
  attempting .assign name (b.scope.set name value)

/-- Puts the entries one after the other, up to the first one that fails. -/
def putAll : List (Key × Value) → Action BindingError World Unit
  | [] => return ()
  | (key, value) :: rest => do
    let _ ← b.put key value
    putAll rest

/-- Removes a variable.  Answers its value. -/
def remove (key : Key) : Action BindingError World (Option Value) := do
  let name ← Action.ofExcept key.name?
  attempting .remove name (b.scope.unset name)

/-- Removes the named variables from both levels. -/
def removeAll : List String → Action BindingError World Unit
  | [] => return ()
  | name :: rest => do
    attempting .remove name (b.scope.unsetEverywhere name)
    removeAll rest

/-- Removes every variable, and a variable that hides another one with it. -/
def clear : Action BindingError World Unit := do
  b.removeAll (← b.keys)

/-! ### The locals alone -/

/-- The names of the locals. -/
def localKeys : Action BindingError World (List String) :=
  attempting .list "*" b.scope.localNames

/-- The value of a local. -/
def getLocal (name : String) : Action BindingError World (Option Value) :=
  attempting .access name (b.scope.getLocal name)

/-- Whether the name is a local. -/
def isLocal (name : String) : Action BindingError World Bool :=
  attempting .access name (b.scope.isLocal name)

/-- Removes a local, and never a global.  Answers its value. -/
def removeLocal (name : String) : Action BindingError World (Option Value) :=
  attempting .remove name (b.scope.unsetLocal name)

/-! ### Showing -/

/-- How the bindings show themselves in diagnostics: with the name of the scope, if it can be
read. -/
def describe (w : World) : String :=
  if (w.scopes b.scope).guard.canRead then
    "Bindings \x7b scope: " ++ Text.quote (w.scope b.scope).name ++ " \x7d"
  else "Bindings \x7b .. \x7d"

end Bindings

end ScriptHost
