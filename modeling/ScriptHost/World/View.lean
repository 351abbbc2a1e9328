import ScriptHost.World.Variables

/-!
# What a scope shows

The operations of `ScriptHost.World.Variables` go from cell to cell and may meet a guard at each of
them.  Here is what they are about, said of the world as a whole and without guards:

* `World.shown`, the variables that a scope shows, locals first and each name once
  (`World.nodup_shown`);
* `World.shownValue`, the value that it shows for one name.

The two agree: `World.lookup_shown`.
-/

set_option autoImplicit false

namespace ScriptHost

namespace World

variable (w : World) (s : ScopeRef)

/-- The variables of the store below a scope, none if there is no store. -/
def globals : Table Value :=
  match w.storeOf s with
  | some g => w.entries g
  | none => .empty

/-- The value that a scope shows for a name: that of its local, or else that of the global. -/
def shownValue (name : String) : Option Value :=
  ((w.scope s).locals.find? name).or ((w.globals s).find? name)

/-- The variables that a scope shows: its locals, and then the globals that no local hides. -/
def shown : List (String × Value) :=
  (w.scope s).locals.entries ++
    (w.globals s).entries.filter fun entry => entry.1 ∉ (w.scope s).locals.keys

/-- The names of the variables that a scope shows. -/
theorem keys_shown : (w.shown s).map Prod.fst =
    (w.scope s).locals.keys ++
      (w.globals s).keys.filter fun name => name ∉ (w.scope s).locals.keys := by
  rw [shown, List.map_append, Table.keys, Table.keys, List.filter_map]
  rfl

/-- No name is shown twice. -/
theorem nodup_shown : ((w.shown s).map Prod.fst).Nodup := by
  rw [keys_shown, List.nodup_append]
  refine ⟨(w.scope s).locals.nodup_keys,
    (w.globals s).nodup_keys.sublist List.filter_sublist, fun a ha b hb hab => ?_⟩
  have hb := (List.mem_filter.1 hb).2
  rw [decide_eq_true_eq] at hb
  exact hb (hab ▸ ha)

/-- Dropping entries by their names leaves the other names as they are. -/
private theorem lookup_filter {α : Type} (keep : String → Bool) (l : List (String × α))
    (name : String) (h : keep name = true) :
    (l.filter fun entry => keep entry.1).lookup name = l.lookup name := by
  induction l with
  | nil => rfl
  | cons entry rest ih =>
    rw [List.filter_cons, Entries.lookup_cons]
    by_cases he : name = entry.1
    · rw [if_pos (he ▸ h), Entries.lookup_cons, if_pos he, if_pos he]
    · rw [if_neg he, ← ih]
      split
      · rw [Entries.lookup_cons, if_neg he]
      · rfl

/-- **One view.**  The value that a scope shows for a name is the one in the list of what it
shows. -/
theorem lookup_shown (name : String) : (w.shown s).lookup name = w.shownValue s name := by
  rw [shown, List.lookup_append, shownValue]
  cases h : (w.scope s).locals.find? name with
  | some value => rw [show (w.scope s).locals.entries.lookup name = some value from h]; rfl
  | none =>
    rw [show (w.scope s).locals.entries.lookup name = none from h]
    have hn : decide (name ∉ (w.scope s).locals.keys) = true := by
      rw [decide_eq_true_eq, Table.mem_keys_iff, h]
      exact Bool.false_ne_true
    exact lookup_filter (fun name => decide (name ∉ (w.scope s).locals.keys)) _ name hn

/-- What is shown is found. -/
theorem shownValue_of_mem {w : World} {s : ScopeRef} {entry : String × Value}
    (h : entry ∈ w.shown s) : w.shownValue s entry.1 = some entry.2 := by
  rw [← lookup_shown]
  exact (Entries.lookup_eq_some_iff (w.nodup_shown s)).2 h

/-- The names that are shown are those that have a value. -/
theorem mem_keys_shown_iff {w : World} {s : ScopeRef} {name : String} :
    name ∈ (w.shown s).map Prod.fst ↔ (w.shownValue s name).isSome := by
  rw [Entries.mem_map_fst_iff, lookup_shown]

end World

end ScriptHost
