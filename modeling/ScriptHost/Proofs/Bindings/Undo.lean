import ScriptHost.Proofs.Bindings.Put

/-!
# Taking puts back

A put answers what the variable was before.  That is enough to take it back: a variable that had a
value gets it again, and one that was new is removed.  The names are looked up afresh for this, so
the question is whether each of them is then found where the put has left it.

* `World.assign_assign`, `World.unassign_assign` — one put.  A value goes back to the level and the
  place that it came from, and a name that was new is the last of the locals and is erased from
  there.
* `Bindings.takeBackEach_putEach` — any number of puts.  Taken back in reverse order, each of them
  meets the world just as the put had left it.
-/

set_option autoImplicit false

namespace ScriptHost

/-! ## One assignment -/

namespace World

variable {w : World} {s : ScopeRef} {name : String}

theorem define_define (value value' : Value) :
    (w.define s name value).define s name value' = w.define s name value' := by
  rw [define, define, define, setScope_setScope, scope_setScope_self, Table.insert_insert]

theorem define_of_find? {value : Value} (h : (w.scope s).locals.find? name = some value) :
    w.define s name value = w := by
  rw [define, Table.insert_of_find? h]
  exact w.setScope_scope s

theorem undefine_define (h : (w.scope s).locals.find? name = none) (value : Value) :
    (w.define s name value).undefine s name = w := by
  rw [undefine, define, setScope_setScope, scope_setScope_self, Table.erase_insert_of_find? h]
  exact w.setScope_scope s

/-- A name is found in a store as before when it has another value there. -/
theorem home?_setEntries_insert {g : StoreRef} (h : w.home? s name = some g) (value : Value) :
    (w.setEntries g ((w.entries g).insert name value)).home? s name = some g := by
  obtain ⟨hlocal, hstore, -⟩ := home?_eq_some_iff.1 h
  refine home?_eq_some_iff.2 ⟨hlocal, hstore, ?_⟩
  rw [entries_setEntries_self, Table.contains, Table.find?_insert, if_pos rfl]
  rfl

/-- **A value goes back where it came from.**  A variable that gets another value and then its old
one again is on the same level and in the same place as before. -/
theorem assign_assign {old : Value} (h : w.shownValue s name = some old) (value : Value) :
    (w.assign s name value).assign s name old = w := by
  rw [← map_value_slot?] at h
  cases w.place s name with
  | own before hlocal hfind hhome hslot =>
    rw [hslot, Option.map_some, Option.some_inj] at h
    have hagain : (w.define s name value).home? s name = none :=
      home?_of_isLocal (isLocal_define_self value)
    simp only [assign, hhome, hagain, define_define]
    exact define_of_find? (h ▸ hfind)
  | global g before hlocal hstore hfind hhome hslot =>
    rw [hslot, Option.map_some, Option.some_inj] at h
    have hold : (w.entries g).find? name = some old := h ▸ hfind
    simp only [assign, hhome, home?_setEntries_insert hhome, entries_setEntries_self,
      setEntries_setEntries, Table.insert_insert, Table.insert_of_find? hold]
    exact w.setEntries_entries g
  | nowhere hlocal hfind hhome hslot =>
    rw [hslot] at h
    exact absurd h.symm (Option.some_ne_none old)

/-- **A new name goes away again.**  A name that nothing was shown under becomes a local when it
gets a value, and removing it removes that local, which concerns no store. -/
theorem unassign_assign (h : w.shownValue s name = none) (value : Value) :
    (w.assign s name value).unassign s name = w ∧
      (w.assign s name value).unassignEvents s name = [] := by
  have hfind : (w.scope s).locals.find? name = none := (Option.or_eq_none_iff.1 h).1
  have hassign : w.assign s name value = w.define s name value := by
    rw [assign, home?_eq_none_iff.2 (.inr h)]
  have hagain : (w.define s name value).home? s name = none :=
    home?_of_isLocal (isLocal_define_self value)
  rw [hassign, unassign, unassignEvents, hagain]
  exact ⟨(if_pos (isLocal_define_self value)).trans (undefine_define hfind value), rfl⟩

end World

namespace Bindings

variable (b : Bindings) {w : World}

/-! ## Puts and taking them back -/

/-- Puts the entries one after the other.  Answers what each put has answered. -/
def putEach : List (Key × Value) → Action BindingError World (List (Option Value))
  | [] => return []
  | (key, value) :: rest => do
    let old ← b.put key value
    return old :: (← putEach rest)

/-- Takes back a put that has answered `old`: puts that value back, or removes the variable if there
was none. -/
def takeBack (key : Key) (old : Option Value) : Action BindingError World (Option Value) :=
  match old with
  | some value => b.put key value
  | none => b.remove key

/-- Takes back one put after the other. -/
def takeBackEach : List (Key × Option Value) → Action BindingError World Unit
  | [] => return ()
  | (key, old) :: rest => do
    let _ ← b.takeBack key old
    takeBackEach rest

theorem takeBackEach_append (puts puts' : List (Key × Option Value)) :
    b.takeBackEach (puts ++ puts') = b.takeBackEach puts >>= fun _ => b.takeBackEach puts' := by
  induction puts with
  | nil => exact (pure_bind _ _).symm
  | cons put rest ih => simp only [List.cons_append, takeBackEach, ih, bind_assoc]

/-- Removing a variable when no cell is held. -/
theorem run_remove_of_unguarded {key : Key} {name : String} (hfree : w.Unguarded)
    (hkey : key.name? = .ok name) :
    (b.remove key).run w = ⟨.ok (w.shownValue b.scope name), w.unassign b.scope name,
      w.unassignEvents b.scope name⟩ := by
  rw [run_remove b w hkey, hfree.removeFault]
  rfl

/-- One put, and the same put taken back; that answers the value that was put. -/
theorem run_takeBack {key : Key} {name : String} (hfree : w.Unguarded)
    (hkey : key.name? = .ok name) (value : Value) :
    (b.takeBack key (w.shownValue b.scope name)).run (w.assign b.scope name value) =
      ⟨.ok (some value), w, []⟩ := by
  have hassigned : w.Assigned (w.assign b.scope name value) b.scope name value :=
    World.assigned_assign
  have hfree' : (w.assign b.scope name value).Unguarded := hfree.of_assigned hassigned
  cases hold : w.shownValue b.scope name with
  | some old =>
    rw [takeBack, run_put_of_unguarded b hfree' hkey, hassigned.shown_self,
      World.assign_assign hold]
  | none =>
    obtain ⟨hworld, hevents⟩ := World.unassign_assign hold value
    rw [takeBack, run_remove_of_unguarded b hfree' hkey, hassigned.shown_self, hworld, hevents]

/-- **Puts can be taken back.**  When no cell is held, any puts through a scope succeed, and when
they are taken back in reverse order, by what they have answered, that succeeds too and leaves the
world as it was: every table with its values and its order, every link and every revision. -/
theorem takeBackEach_putEach (hfree : w.Unguarded) (entries : List (Key × Value))
    (hkeys : ∀ entry ∈ entries, ∃ name, entry.1.name? = .ok name) :
    ∃ (olds : List (Option Value)) (w' : World),
      (b.putEach entries).run w = ⟨.ok olds, w', []⟩ ∧ olds.length = entries.length ∧
        (b.takeBackEach ((entries.map Prod.fst).zip olds).reverse).run w' = ⟨.ok (), w, []⟩ := by
  induction entries generalizing w with
  | nil => exact ⟨[], w, rfl, rfl, rfl⟩
  | cons entry rest ih =>
    obtain ⟨key, value⟩ := entry
    obtain ⟨name, hkey⟩ := hkeys (key, value) List.mem_cons_self
    have hfree' : (w.assign b.scope name value).Unguarded :=
      hfree.of_assigned World.assigned_assign
    obtain ⟨olds, w', hput, hlength, hback⟩ :=
      ih hfree' fun entry hentry => hkeys entry (List.mem_cons_of_mem _ hentry)
    have hfirst := run_takeBack b hfree hkey value
    refine ⟨w.shownValue b.scope name :: olds, w', ?_, congrArg Nat.succ hlength, ?_⟩
    · rw [putEach, Action.run_bind, run_put_of_unguarded b hfree hkey]
      simp only [Action.andThen_ok, Action.run_bind, hput, Action.run_pure, List.append_nil]
    · -- the later puts are taken back first, and then the first one meets the world it has left
      rw [List.map_cons, List.zip_cons_cons, List.reverse_cons, takeBackEach_append,
        Action.run_bind, hback]
      simp only [takeBackEach, Action.andThen_ok, Action.run_bind, hfirst, Action.run_pure,
        List.append_nil]

/-- A local that hides a global, a global that another scope shows too, and a new name that is put
twice. -/
theorem takeBackEach_putEach_shadowing :
    let old : Value := ⟨⟨0⟩, .unit⟩
    let new : Value := ⟨⟨1⟩, .bool true⟩
    let w : World := { World.empty with
      scopes := fun _ => { content := ⟨"", .ofList [("x", old)], ⟨0⟩, 0⟩ }
      links := fun _ => { content := some ⟨0⟩ }
      stores := fun _ => { content := .ofList [("x", old), ("y", old)] } }
    let b : Bindings := ⟨⟨0⟩⟩
    let puts : List (Key × Value) :=
      [(.name "x", new), (.name "y", new), (.name "z", new), (.name "z", old)]
    let w' := ((b.putEach puts).run w).state
    w.Unguarded ∧ (∀ put ∈ puts, ∃ name, put.1.name? = .ok name) ∧
      w'.shownValue ⟨1⟩ "y" = some new ∧
      (b.takeBackEach [(.name "z", some new), (.name "z", none), (.name "y", some old),
        (.name "x", some old)]).run w' = ⟨.ok (), w, []⟩ := by
  intro old new w b puts w'
  have hanswers : ((b.putEach puts).run w).result = .ok [some old, some old, none, some new] := by
    subst puts b w new old
    rfl
  have hshown : w'.shownValue ⟨1⟩ "y" = some new := by
    subst w' puts b w new old
    rfl
  have hfree : w.Unguarded := fun r => by cases r <;> rfl
  have hkeys : ∀ put ∈ puts, ∃ name, put.1.name? = .ok name := by
    intro put hput
    simp only [puts, List.mem_cons, List.not_mem_nil, or_false] at hput
    rcases hput with rfl | rfl | rfl | rfl <;> exact ⟨_, rfl⟩
  obtain ⟨olds, after, hput, -, hback⟩ := takeBackEach_putEach b hfree puts hkeys
  have hafter : w' = after := congrArg Outcome.state hput
  rw [hput] at hanswers
  obtain rfl := Except.ok.inj hanswers
  rw [← hafter] at hback
  exact ⟨hfree, hkeys, hshown, hback⟩

end Bindings

end ScriptHost
