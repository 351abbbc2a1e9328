import ScriptHost.Numeric.Binary64
import ScriptHost.Table

/-!
# Values

A `Value` is what a host and a script pass to each other.  It is a handle on a shared cell, and the
cell never changes: copying a value copies the handle, and all copies show the same `Content`.

* **Cells.**  The handle says which cell it is on, `Value.cell`, and what the cell holds.  Two values
  with the same content may sit in different cells; whether they do shows when the content is a
  number that is not equal to itself.
* **Host objects.**  A `HostObject` stands for something only the host understands.  It has a type
  name for people, an identity, and a payload that the host can get back.
* **New cells and objects** come from a `Supply`, which hands out each identity once.
-/

set_option autoImplicit false

namespace ScriptHost

/-- The identity of a shared cell. -/
structure CellId where
  index : Nat
  deriving DecidableEq, Repr

/-- The identity of a host object. -/
structure ObjectId where
  index : Nat
  deriving DecidableEq, Repr

/-- What the host keeps in a host object. -/
inductive Payload where
  | nothing
  | int (n : Int64)
  | text (s : String)
  deriving DecidableEq, Repr

/-- Something that only the host understands. -/
structure HostObject where
  typeName : String
  id : ObjectId
  payload : Payload
  deriving DecidableEq, Repr

mutual

/-- A handle on a shared cell. -/
inductive Value where
  | mk (cell : CellId) (content : Content)

/-- What a cell holds. -/
inductive Content where
  | unit
  | bool (b : Bool)
  | int (n : Int64)
  | float (x : Binary64)
  | string (s : String)
  | array (items : List Value)
  /-- Named values in the order in which they were inserted, each name once. -/
  | map (entries : List (String × Value))
  | host (object : HostObject)

end

/-- The content of a map made by inserting the entries in order. -/
def Content.mapOf (entries : List (String × Value)) : Content := .map (Entries.ofList entries)

/-- The name of the type of a content. -/
def Content.typeName : Content → String
  | .unit => "Unit"
  | .bool _ => "Bool"
  | .int _ => "Int"
  | .float _ => "Float"
  | .string _ => "String"
  | .array _ => "Array"
  | .map _ => "Map"
  | .host object => object.typeName

namespace Value

instance : Inhabited Value := ⟨⟨⟨0⟩, .unit⟩⟩

/-- The cell that the value is a handle on. -/
def cell : Value → CellId
  | ⟨cell, _⟩ => cell

/-- What the value's cell holds. -/
def content : Value → Content
  | ⟨_, content⟩ => content

/-- The name of the value's type. -/
def typeName (v : Value) : String := v.content.typeName

/-- Whether this is the unit value. -/
def isUnit (v : Value) : Bool :=
  match v.content with
  | .unit => true
  | _ => false

/-- The text, if the value is one. -/
def asString? (v : Value) : Option String :=
  match v.content with
  | .string s => some s
  | _ => none

/-- The integer, if the value is one. -/
def asInt? (v : Value) : Option Int64 :=
  match v.content with
  | .int n => some n
  | _ => none

/-- The payload, if the value is a host object. -/
def payload? (v : Value) : Option Payload :=
  match v.content with
  | .host object => some object.payload
  | _ => none

end Value

/-! ## New cells and objects -/

/-- How many cells and host objects there have been. -/
structure Supply where
  cells : Nat := 0
  objects : Nat := 0
  deriving DecidableEq, Repr

namespace Supply

instance : Inhabited Supply := ⟨{}⟩

/-- Puts a content into a new cell. -/
def alloc (s : Supply) (content : Content) : Value × Supply :=
  (⟨⟨s.cells⟩, content⟩, { s with cells := s.cells + 1 })

/-- Makes a new host object and puts it into a new cell. -/
def allocHost (s : Supply) (typeName : String) (payload : Payload) : Value × Supply :=
  alloc { s with objects := s.objects + 1 } (.host ⟨typeName, ⟨s.objects⟩, payload⟩)

/-- Puts what another value's cell holds into a new cell.  Items, entries and host objects inside are
still the shared ones. -/
def rewrap (s : Supply) (v : Value) : Value × Supply := s.alloc v.content

end Supply

end ScriptHost
