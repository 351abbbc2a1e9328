import Mathlib.Data.List.Zip
import ScriptHost.Proofs.Bindings.Conflicts

/-!
# All views agree

The names of a scope, their number, the values, a snapshot and a search for a name or for a value are
ways of looking at the same variables.  Each of them lists the names, locals first and then the
globals that no local hides; and those that need values look every name up again, which goes to the
locals first.  So all of them agree if the list and the look-up do, `World.shown` and
`World.shownValue`.

`Bindings.Views` says what each of them answers, and `Bindings.views_agree` that this is so whenever
the names can be listed.  Cells that are being read are not in the way of any of them.
-/

set_option autoImplicit false

namespace ScriptHost

open Outcome

/-! ## The list and the look-up -/

namespace World

variable (w : World) (s : ScopeRef)

/-- A search for a value among the names goes through everything that is shown. -/
theorem any_keys_shown_iff (p : Value → Bool) :
    (((w.shown s).map Prod.fst).any fun name => (w.shownValue s name).any p) = true ↔
      ∃ name value, w.shownValue s name = some value ∧ p value = true := by
  simp only [List.any_eq_true, Option.any_eq_true]
  constructor
  · rintro ⟨name, -, value, hvalue, hp⟩
    exact ⟨name, value, hvalue, hp⟩
  · rintro ⟨name, value, hvalue, hp⟩
    exact ⟨name, mem_keys_shown_iff.2 (hvalue ▸ rfl), value, hvalue, hp⟩

end World

/-! ## What each operation answers -/

namespace Bindings

/-- The bindings list `keys` with `values`, their snapshot is `snapshot`, and all that they answer
in world `w` is about these.  No answer changes the world or logs anything. -/
structure Views (b : Bindings) (w : World) (keys : List String) (values : List Value)
    (snapshot : Snapshot) : Prop where
  keys_eq : b.keys.run w = ⟨.ok keys, w, []⟩
  /-- Locals come first, and no local is listed as a global once more. -/
  order : keys = (w.scope b.scope).locals.keys ++
    (w.globals b.scope).keys.filter fun name => name ∉ (w.scope b.scope).locals.keys
  nodup : keys.Nodup
  size_eq : b.size.run w = ⟨.ok keys.length, w, []⟩
  isEmpty_eq : b.isEmpty.run w = ⟨.ok (decide (keys.length = 0)), w, []⟩
  /-- What is got is the local of the name, or else the global. -/
  get_eq : ∀ key name, key.name? = .ok name →
    (b.get key).run w = ⟨.ok (w.shownValue b.scope name), w, []⟩
  containsKey_eq : ∀ key name, key.name? = .ok name →
    (b.containsKey key).run w = ⟨.ok (w.shownValue b.scope name).isSome, w, []⟩
  mem_keys : ∀ name, name ∈ keys ↔ (w.shownValue b.scope name).isSome
  values_eq : b.values.run w = ⟨.ok values, w, []⟩
  length_values : values.length = keys.length
  /-- Each value is that of the name in the same place. -/
  getElem_values : ∀ (i : Nat) (hk : i < keys.length) (hv : i < values.length),
    w.shownValue b.scope keys[i] = some values[i]
  entries_eq : b.entries.run w = ⟨.ok snapshot, w, []⟩
  toList_snapshot : snapshot.toList = keys.zip values
  /-- What some name shows is contained, and nothing else: not what a local hides. -/
  containsValue_eq : ∀ value, ∃ found, (b.containsValue value).run w = ⟨.ok found, w, []⟩ ∧
    (found = true ↔ ∃ name other, w.shownValue b.scope name = some other ∧
      (other == value) = true)
  /-- What is got is contained, also if it is not equal to a value with the same content. -/
  containsValue_get : ∀ key value, ((b.get key).run w).result = .ok (some value) →
    (b.containsValue value).run w = ⟨.ok true, w, []⟩

variable (b : Bindings) {w : World}

/-- A search finds what the bindings have given out. -/
theorem run_containsValue_of_shown (hlist : w.listFault b.scope = none) {name : String}
    {value : Value} (h : w.shownValue b.scope name = some value) :
    (b.containsValue value).run w = ⟨.ok true, w, []⟩ := by
  rw [run_containsValue, hlist,
    (w.any_keys_shown_iff b.scope (· == value)).2 ⟨name, value, h, Value.beq_of_cell_eq rfl⟩]
  rfl

/-- **All views agree.**  As long as neither the scope nor its link nor the store below it is held
exclusively, whatever the bindings are asked about their variables they answer from one list of names
and values. -/
theorem views_agree (hopen : (w.scopes b.scope).guard ≠ .exclusive ∧ ¬ w.GlobalsShut b.scope) :
    ∃ keys values snapshot, b.Views w keys values snapshot := by
  have hlist := World.listFault_eq_none_iff.2 hopen
  have hget : ∀ key name, key.name? = .ok name →
      (b.get key).run w = ⟨.ok (w.shownValue b.scope name), w, []⟩ := by
    intro key name hkey
    rw [run_get b w hkey, World.readFault_of_listFault hlist]
    rfl
  have hnodup := w.nodup_shown b.scope
  refine ⟨(w.shown b.scope).map Prod.fst, (w.shown b.scope).map Prod.snd,
    ⟨Table.ofList (w.shown b.scope)⟩, ?_⟩
  constructor
  case keys_eq => rw [run_keys, hlist]; rfl
  case order => exact w.keys_shown b.scope
  case nodup => exact hnodup
  case size_eq => rw [run_size, hlist, List.length_map]; rfl
  case isEmpty_eq => rw [run_isEmpty, hlist, List.length_map]; rfl
  case get_eq => exact hget
  case containsKey_eq =>
    intro key name hkey
    have hfound : decide (name ∈ (w.shown b.scope).map Prod.fst) =
        (w.shownValue b.scope name).isSome := by
      rw [Bool.eq_iff_iff, decide_eq_true_iff]
      exact World.mem_keys_shown_iff
    rw [run_containsKey b w hkey, hlist, hfound]
    rfl
  case mem_keys => exact fun name => World.mem_keys_shown_iff
  case values_eq => rw [run_values, hlist]; rfl
  case length_values => rw [List.length_map, List.length_map]
  case getElem_values =>
    intro i hk hv
    rw [List.getElem_map, List.getElem_map]
    exact World.shownValue_of_mem (List.getElem_mem _)
  case entries_eq => rw [run_entries, hlist]; rfl
  case toList_snapshot => exact (Entries.ofList_of_nodup hnodup).trans (List.zip_of_prod rfl rfl)
  case containsValue_eq =>
    intro value
    refine ⟨_, ?_, w.any_keys_shown_iff b.scope (· == value)⟩
    rw [run_containsValue, hlist]
    rfl
  case containsValue_get =>
    intro key value hvalue
    cases hkey : key.name? with
    | ok name =>
      rw [hget key name hkey] at hvalue
      exact run_containsValue_of_shown b hlist (Except.ok.inj hvalue)
    | error e =>
      rw [get, hkey] at hvalue
      cases hvalue

/-- A scope that is being read, over a store that is being read as well.  An array with a number that
is not equal to itself is contained, because it is the one that is shown, and another array with such
a number is not.  The global that is hidden is not contained either. -/
theorem views_agree_nan :
    let nan : Binary64 := ⟨0x7FF8000000000000⟩
    let shown : Value := ⟨⟨1⟩, .array [⟨⟨0⟩, .float nan⟩]⟩
    let other : Value := ⟨⟨3⟩, .array [⟨⟨2⟩, .float nan⟩]⟩
    let hidden : Value := ⟨⟨4⟩, .bool true⟩
    let scope : Scope := ⟨"main", .ofList [("x", shown)], ⟨0⟩, 0⟩
    let w : World := { World.empty with
      scopes := fun _ => { content := scope, guard := .shared 1 }
      links := fun _ => { content := some ⟨0⟩ }
      stores := fun _ => { content := .ofList [("y", shown), ("x", hidden)], guard := .shared 2 } }
    let b : Bindings := ⟨⟨0⟩⟩
    ((w.scopes b.scope).guard ≠ .exclusive ∧ ¬ w.GlobalsShut b.scope) ∧
      b.keys.run w = ⟨.ok ["x", "y"], w, []⟩ ∧
      (b.containsValue shown).run w = ⟨.ok true, w, []⟩ ∧
      (b.containsValue other).run w = ⟨.ok false, w, []⟩ ∧
      (b.containsValue hidden).run w = ⟨.ok false, w, []⟩ := by
  intro nan shown other hidden scope w b
  have hopen : (w.scopes b.scope).guard ≠ .exclusive ∧ ¬ w.GlobalsShut b.scope := by
    refine ⟨nofun, ?_⟩
    rintro (hlink | ⟨g, -, hstore⟩)
    · exact nomatch hlink
    · exact nomatch hstore
  obtain ⟨keys, values, snapshot, hviews⟩ := views_agree b hopen
  have hkeys : keys = ["x", "y"] := hviews.order
  have hget : ((b.get (.name "x")).run w).result = .ok (some shown) :=
    congrArg Outcome.result (hviews.get_eq (.name "x") "x" rfl)
  have hother : (shown == other) = false := by decide
  have hsearch : (((w.shown b.scope).map Prod.fst).any fun name =>
      (w.shownValue b.scope name).any (· == other)) = false := by
    change ((shown == other) || ((shown == other) || false)) = false
    rw [hother]
    rfl
  refine ⟨hopen, hkeys ▸ hviews.keys_eq, hviews.containsValue_get _ _ hget, ?_, rfl⟩
  rw [run_containsValue, hsearch]
  rfl

end Bindings

end ScriptHost
