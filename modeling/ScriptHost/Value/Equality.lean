import ScriptHost.Value.Basic

/-!
# Equality of values

Two handles on the same cell are equal at once.  Otherwise their contents are compared: numbers as
numbers, arrays item by item, maps by name whatever their order, and host objects by identity.

The first rule matters for a number that is not equal to itself: a value that holds one is still
equal to its own copies.
-/

set_option autoImplicit false

namespace ScriptHost

mutual

/-- Equality of values. -/
def Value.equal : Value → Value → Bool
  | ⟨cell, content⟩, other => cell = other.cell || content.equal other.content
termination_by structural v => v

/-- Equality of contents. -/
def Content.equal : Content → Content → Bool
  | .unit, .unit => true
  | .bool b, .bool b' => b = b'
  | .int n, .int n' => n = n'
  | .float x, .float x' => x.equal x'
  | .string s, .string s' => s = s'
  | .array items, .array items' => equalItems items items'
  | .map entries, .map entries' =>
    entries.length = entries'.length && equalEntries entries entries'
  | .host object, .host object' => object.id = object'.id
  | _, _ => false
termination_by structural content => content

/-- Equality of lists of values, item by item. -/
def equalItems : List Value → List Value → Bool
  | [], [] => true
  | v :: rest, v' :: rest' => v.equal v' && equalItems rest rest'
  | _, _ => false
termination_by structural items => items

/-- Whether every name has an equal value in the other list of entries. -/
def equalEntries : List (String × Value) → List (String × Value) → Bool
  | [], _ => true
  | (name, v) :: rest, others =>
    (match others.lookup name with
      | some v' => v.equal v'
      | none => false) && equalEntries rest others
termination_by structural entries => entries

end

instance : BEq Value := ⟨Value.equal⟩

/-- **Copies are equal**, whatever they hold. -/
theorem Value.beq_of_cell_eq : {v v' : Value} → v.cell = v'.cell → (v == v') = true
  | ⟨cell, content⟩, v', h => by
    have hcell : decide (cell = v'.cell) = true := decide_eq_true h
    change Value.equal ⟨cell, content⟩ v' = true
    rw [Value.equal, hcell, Bool.true_or]

end ScriptHost
