import Mathlib.Data.List.Induction
import ScriptHost.Proofs.Bindings.Put

/-!
# Putting many values

Puts of many entries go one after the other, and each of them looks its name up in what the earlier
ones have left.  Still the outcome can be said at once.  A put never moves a name from one level to
the other, and a name that is new becomes a local that all later puts find.  So where a name is
written is settled before the first put (`World.AssignedAll.home?_eq`), and only the last value that
it is given matters.

* `World.AssignedAll` — what comes of the puts, in terms of the world before all of them.
* `Bindings.named` — the entries that are put: a key that is no name ends the puts.
* `Bindings.putAll_law` — the two together, when no cell is held.
-/

set_option autoImplicit false

namespace ScriptHost

namespace World

/-! ## Many assignments -/

/-- The world after the values were given to the names, one after the other. -/
def assignAll (w : World) (s : ScopeRef) (puts : List (String × Value)) : World :=
  puts.foldl (fun w put => w.assign s put.1 put.2) w

/-- The value that a name is given last, if it is given one. -/
def lastValue (puts : List (String × Value)) (name : String) : Option Value :=
  puts.reverse.lookup name

/-- The world `w'` is `w` after scope `s` was used to give the values to the names. -/
structure AssignedAll (w w' : World) (s : ScopeRef) (puts : List (String × Value)) : Prop where
  /-- The scope shows the last value of each name, and what it showed before for the others. -/
  shown : ∀ name, w'.shownValue s name = (lastValue puts name).or (w.shownValue s name)
  /-- The locals are in their order, and after them come the names that were not shown at all, in
  the order in which they occur first. -/
  localKeys : (w'.scope s).locals.keys = (w.scope s).locals.keys ++
    (puts.map Prod.fst).eraseDups.filter fun name => (w.shownValue s name).isNone
  /-- A name that was found in the store has not become a local. -/
  locals : ∀ name, (w'.scope s).locals.find? name =
    if (w.home? s name).isSome then none
    else (lastValue puts name).or ((w.scope s).locals.find? name)
  storeKeys : ∀ g, w.storeOf s = some g → (w'.entries g).keys = (w.entries g).keys
  /-- Just the names that were found in the store have new values there. -/
  store : ∀ g, w.storeOf s = some g → ∀ name, (w'.entries g).find? name =
    if w.home? s name = some g then (lastValue puts name).or ((w.entries g).find? name)
    else (w.entries g).find? name
  /-- Of the scope nothing but its locals has changed, in particular not its revision. -/
  scope : w'.scope s = { w.scope s with locals := (w'.scope s).locals }
  elsewhere : ∀ t, t ≠ s → w'.scope t = w.scope t
  otherStores : ∀ g, w.storeOf s ≠ some g → w'.entries g = w.entries g
  /-- Nothing but scopes and stores has changed. -/
  rest : w' = { w with scopes := w'.scopes, stores := w'.stores }
  guards : ∀ r, w'.guardOf r = w.guardOf r

variable {w w' : World} {s : ScopeRef} {puts : List (String × Value)} {name other : String}
  {value : Value} {g : StoreRef}

theorem lastValue_append_singleton (puts : List (String × Value)) (name other : String)
    (value : Value) : lastValue (puts ++ [(name, value)]) other =
      if other = name then some value else lastValue puts other := by
  rw [lastValue, List.reverse_append]
  exact Entries.lookup_cons (name, value) puts.reverse other

/-- A name has a last value if it is given one at all. -/
theorem isSome_lastValue : (lastValue puts name).isSome ↔ name ∈ puts.map Prod.fst := by
  rw [lastValue, ← Entries.mem_map_fst_iff, List.map_reverse, List.mem_reverse]

/-- A name that comes once more has its first place. -/
theorem eraseDups_append_singleton (names : List String) (name : String) :
    (names ++ [name]).eraseDups =
      if name ∈ names then names.eraseDups else names.eraseDups ++ [name] := by
  rw [List.eraseDups_append, List.removeAll]
  by_cases h : name ∈ names <;> simp [h, List.eraseDups_cons]

namespace AssignedAll

theorem nil : w.AssignedAll w s [] where
  shown _ := rfl
  localKeys := (List.append_nil _).symm
  locals name := by
    split
    · next h =>
      obtain ⟨g, hhome⟩ := Option.isSome_iff_exists.1 h
      exact find?_eq_none (home?_eq_some_iff.1 hhome).1
    · rfl
  storeKeys _ _ := rfl
  store _ _ _ := by split <;> rfl
  scope := rfl
  elsewhere _ _ := rfl
  otherStores _ _ := rfl
  rest := rfl
  guards _ := rfl

theorem storeOf (h : w.AssignedAll w' s puts) : w'.storeOf s = w.storeOf s := by
  rw [World.storeOf, World.storeOf, h.scope, h.rest]
  rfl

theorem contains_store (h : w.AssignedAll w' s puts) (hstore : w.storeOf s = some g) :
    (w'.entries g).contains name = (w.entries g).contains name := by
  have hkeys := h.storeKeys g hstore
  have hmem : name ∈ (w'.entries g).keys ↔ name ∈ (w.entries g).keys := by rw [hkeys]
  rw [Table.mem_keys_iff, Table.mem_keys_iff] at hmem
  exact Bool.eq_iff_iff.2 hmem

/-- **The level is settled.**  Puts do not change which store a name is written to, or that it is
written to the locals. -/
theorem home?_eq (h : w.AssignedAll w' s puts) (name : String) :
    w'.home? s name = w.home? s name := by
  have hlocal : w'.isLocal s name = (!(w.home? s name).isSome &&
      ((lastValue puts name).isSome || w.isLocal s name)) := by
    rw [isLocal, Table.contains, h.locals]
    cases (w.home? s name).isSome with
    | true => rfl
    | false => exact Option.isSome_or
  cases hhome : w.home? s name with
  | some g =>
    obtain ⟨-, hstore, hin⟩ := home?_eq_some_iff.1 hhome
    rw [hhome] at hlocal
    exact home?_eq_some_iff.2 ⟨hlocal, h.storeOf.trans hstore, (h.contains_store hstore).trans hin⟩
  | none =>
    refine home?_eq_none_iff.2 ?_
    rcases home?_eq_none_iff.1 hhome with hown | hnone
    · exact .inl (by rw [hlocal, hhome, hown, Bool.or_true]; rfl)
    · cases hlast : lastValue puts name with
      | some value => exact .inl (by rw [hlocal, hhome, hlast]; rfl)
      | none => exact .inr (by rw [h.shown, hlast, hnone]; rfl)

/-- One put more to a name that is written to the locals. -/
theorem define (h : w.AssignedAll w' s puts) (hhome : w.home? s name = none) (value : Value) :
    w.AssignedAll (w'.define s name value) s (puts ++ [(name, value)]) := by
  constructor
  case shown =>
    intro other
    rw [shownValue_define, lastValue_append_singleton, h.shown]
    by_cases ho : other = name
    · rw [if_pos ⟨rfl, ho⟩, if_pos ho]
      rfl
    · rw [if_neg fun hc => ho hc.2, if_neg ho]
  case localKeys =>
    have hmem : name ∈ (w'.scope s).locals.keys ↔
        w.isLocal s name ∨ name ∈ puts.map Prod.fst := by
      rw [Table.mem_keys_iff, h.locals, hhome, Option.isSome_none, if_neg Bool.false_ne_true,
        Option.isSome_or, Bool.or_eq_true, isSome_lastValue, or_comm]
      rfl
    rw [scope_define, Table.keys_insert, List.map_append, List.map_singleton,
      eraseDups_append_singleton, h.localKeys]
    rw [h.localKeys] at hmem
    by_cases hold : name ∈ puts.map Prod.fst
    · rw [if_pos (hmem.2 (.inr hold)), if_pos hold]
    · rw [if_neg hold, List.filter_append]
      rcases home?_eq_none_iff.1 hhome with hown | hnone
      · have hshown : (w.shownValue s name).isNone = false := by
          rw [shownValue, Option.isNone_or]
          obtain ⟨old, hfind⟩ := Option.isSome_iff_exists.1 hown
          rw [hfind]
          rfl
        rw [if_pos (hmem.2 (.inl hown)), List.filter_singleton, hshown, cond_false,
          List.append_nil]
      · have hout : ¬ w.isLocal s name := fun hown => by
          rw [isLocal, Table.contains, (Option.or_eq_none_iff.1 hnone).1] at hown
          exact Bool.false_ne_true hown
        rw [if_neg fun hin => (hmem.1 hin).elim hout hold, List.filter_singleton, hnone,
          Option.isNone_none, cond_true, List.append_assoc]
  case locals =>
    intro other
    rw [scope_define, Table.find?_insert, lastValue_append_singleton, h.locals]
    by_cases ho : other = name
    · rw [if_pos ho, ho, hhome, Option.isSome_none, if_neg Bool.false_ne_true, if_pos rfl]
      rfl
    · rw [if_neg ho, if_neg ho]
  case storeKeys => exact h.storeKeys
  case store =>
    intro g hg other
    rw [lastValue_append_singleton]
    refine (h.store g hg other).trans ?_
    by_cases ho : other = name
    · rw [ho, hhome, if_neg (Option.some_ne_none g).symm, if_neg (Option.some_ne_none g).symm]
    · rw [if_neg ho]
  case scope =>
    rw [scope_define, h.scope]
  case elsewhere =>
    exact fun t ht => (scope_setScope_of_ne w' s t _ ht).trans (h.elsewhere t ht)
  case otherStores => exact h.otherStores
  case rest =>
    rw [World.define, setScope, h.rest]
  case guards => exact fun r => (guardOf_setScope w' s _ r).trans (h.guards r)

/-- One put more to a name that is written to a store. -/
theorem setEntries (h : w.AssignedAll w' s puts) (hhome : w.home? s name = some g) (value : Value) :
    w.AssignedAll (w'.setEntries g ((w'.entries g).insert name value)) s
      (puts ++ [(name, value)]) := by
  have hhome' := (h.home?_eq name).trans hhome
  obtain ⟨hlocal', hstore', hin'⟩ := home?_eq_some_iff.1 hhome'
  obtain ⟨-, hstore, hin⟩ := home?_eq_some_iff.1 hhome
  constructor
  case shown =>
    intro other
    rw [shownValue_setEntries_insert, lastValue_append_singleton, h.shown]
    by_cases ho : other = name
    · rw [if_pos ⟨hstore', hlocal', ho⟩, if_pos ho]
      rfl
    · rw [if_neg fun hc => ho hc.2.2, if_neg ho]
  case localKeys =>
    have hshown : (w.shownValue s name).isNone = false := by
      rw [Option.isNone_eq_false_iff, Option.isSome_iff_ne_none]
      intro hnone
      rw [home?_eq_none_iff.2 (.inr hnone)] at hhome
      exact Option.some_ne_none g hhome.symm
    rw [scope_setEntries, h.localKeys, List.map_append, List.map_singleton,
      eraseDups_append_singleton]
    split
    · rfl
    · rw [List.filter_append, List.filter_singleton, hshown, cond_false,
        List.append_nil]
  case locals =>
    intro other
    rw [scope_setEntries, lastValue_append_singleton, h.locals]
    by_cases ho : other = name
    · rw [ho, hhome, Option.isSome_some, if_pos rfl, if_pos rfl]
    · rw [if_neg ho]
  case storeKeys =>
    intro g' hg'
    obtain rfl : g = g' := Option.some_inj.1 (hstore.symm.trans hg')
    rw [entries_setEntries_self, Table.keys_insert, if_pos ((Table.mem_keys_iff _ _).2 hin'),
      h.storeKeys g hg']
  case store =>
    intro g' hg' other
    obtain rfl : g = g' := Option.some_inj.1 (hstore.symm.trans hg')
    rw [entries_setEntries_self, Table.find?_insert, lastValue_append_singleton, h.store g hg']
    by_cases ho : other = name
    · rw [if_pos ho, ho, hhome, if_pos rfl, if_pos rfl]
      rfl
    · rw [if_neg ho, if_neg ho]
  case scope => exact h.scope
  case elsewhere => exact h.elsewhere
  case otherStores =>
    intro g' hg'
    have hne : g' ≠ g := fun heq => hg' (heq ▸ hstore)
    rw [entries_setEntries_of_ne _ _ _ _ hne, h.otherStores g' hg']
  case rest =>
    rw [World.setEntries, h.rest]
  case guards => exact fun r => (guardOf_setEntries w' g _ r).trans (h.guards r)

end AssignedAll

theorem assignedAll_assignAll (w : World) (s : ScopeRef) (puts : List (String × Value)) :
    w.AssignedAll (w.assignAll s puts) s puts := by
  induction puts using List.reverseRecOn with
  | nil => exact .nil
  | append_singleton puts put ih =>
    rw [assignAll, List.foldl_append, List.foldl_cons, List.foldl_nil, ← assignAll, assign,
      ih.home?_eq]
    cases hhome : w.home? s put.1 with
    | none => exact ih.define hhome put.2
    | some g => exact ih.setEntries hhome put.2

end World

/-! ## Keys that are no names -/

/-- A key that is no name is missing, or it has the wrong type. -/
theorem Key.error_cases {key : Key} {e : BindingError} (h : key.name? = .error e) :
    e = .nullKey ∨ ∃ found, e = .invalidKeyType found := by
  cases key with
  | null => exact .inl (Except.error.inj h).symm
  | name => cases h
  | value v =>
    simp only [name?] at h
    split at h
    · cases h
    · exact .inl (Except.error.inj h).symm
    · exact .inr ⟨_, (Except.error.inj h).symm⟩

namespace Bindings

/-- The key of the entry is a name. -/
def IsNamed (entry : Key × Value) : Prop := ∃ name, entry.1.name? = .ok name

/-- The entries before the first one whose key is no name. -/
def named : List (Key × Value) → List (String × Value)
  | [] => []
  | (key, value) :: rest =>
    match key.name? with
    | .ok name => (name, value) :: named rest
    | .error _ => []

variable {w : World} {entries valid rest : List (Key × Value)} {bad : Key × Value}
  {key : Key} {name : String} {value : Value} {e : BindingError}

theorem named_cons_of_ok (hkey : key.name? = .ok name) :
    named ((key, value) :: rest) = (name, value) :: named rest := by
  rw [named, hkey]

/-- What comes after a bad key does not count. -/
theorem named_append_bad (hvalid : ∀ entry ∈ valid, IsNamed entry) (hbad : bad.1.name? = .error e)
    (rest : List (Key × Value)) : named (valid ++ bad :: rest) = named valid := by
  induction valid with
  | nil =>
    rw [List.nil_append]
    simp only [named, hbad]
  | cons entry valid ih =>
    obtain ⟨⟨name, hkey⟩, hvalid⟩ := List.forall_mem_cons.1 hvalid
    rw [List.cons_append, named_cons_of_ok hkey, named_cons_of_ok hkey, ih hvalid]

/-- A list of entries has names for keys, or there is a first key that is none. -/
theorem isNamed_or_exists_bad (entries : List (Key × Value)) :
    (∀ entry ∈ entries, IsNamed entry) ∨ ∃ valid bad rest e,
      entries = valid ++ bad :: rest ∧ (∀ entry ∈ valid, IsNamed entry) ∧
        bad.1.name? = .error e := by
  induction entries with
  | nil => exact .inl (List.forall_mem_nil _)
  | cons entry entries ih =>
    cases hkey : entry.1.name? with
    | error e => exact .inr ⟨[], entry, entries, e, rfl, List.forall_mem_nil _, hkey⟩
    | ok name =>
      have hentry : IsNamed entry := ⟨name, hkey⟩
      obtain h | ⟨valid, bad, rest, e, heq, hvalid, hbad⟩ := ih
      · exact .inl (List.forall_mem_cons.2 ⟨hentry, h⟩)
      · exact .inr ⟨entry :: valid, bad, rest, e, congrArg (entry :: ·) heq,
          List.forall_mem_cons.2 ⟨hentry, hvalid⟩, hbad⟩

variable (b : Bindings)

theorem putAll_append (valid rest : List (Key × Value)) :
    b.putAll (valid ++ rest) = (do b.putAll valid; b.putAll rest) := by
  induction valid with
  | nil => exact (pure_bind _ _).symm
  | cons entry valid ih => simp only [List.cons_append, putAll, ih, bind_assoc]

/-- Puts under names only, when no cell is held. -/
theorem run_putAll_of_named (hfree : w.Unguarded) (hvalid : ∀ entry ∈ valid, IsNamed entry) :
    (b.putAll valid).run w = ⟨.ok (), w.assignAll b.scope (named valid), []⟩ := by
  induction valid generalizing w with
  | nil => rfl
  | cons entry valid ih =>
    obtain ⟨⟨name, hkey⟩, hvalid⟩ := List.forall_mem_cons.1 hvalid
    rw [putAll, Action.run_bind, run_put_of_unguarded b hfree hkey, Action.andThen_ok,
      ih (hfree.of_assigned World.assigned_assign) hvalid, named_cons_of_ok hkey]
    rfl

/-- Puts with a bad key among them, when no cell is held. -/
theorem run_putAll_of_bad (hfree : w.Unguarded) (hvalid : ∀ entry ∈ valid, IsNamed entry)
    (hbad : bad.1.name? = .error e) (rest : List (Key × Value)) :
    (b.putAll (valid ++ bad :: rest)).run w =
      ⟨.error e, w.assignAll b.scope (named valid), []⟩ := by
  rw [putAll_append, Action.run_bind, run_putAll_of_named b hfree hvalid, Action.andThen_ok,
    putAll, put, hbad]
  rfl

/-- **Puts of many entries.**  They succeed just if all keys are names.  Otherwise they fail with
what is wrong with the first bad key, and the entries before it are all that was put. -/
theorem putAll_law (hfree : w.Unguarded) (entries : List (Key × Value)) :
    ∃ w', w.AssignedAll w' b.scope (named entries) ∧
      ((b.putAll entries).run w = ⟨.ok (), w', []⟩ ↔ ∀ entry ∈ entries, IsNamed entry) ∧
      ∀ valid bad rest e, entries = valid ++ bad :: rest →
        (∀ entry ∈ valid, IsNamed entry) → bad.1.name? = .error e →
        (b.putAll entries).run w = ⟨.error e, w', []⟩ ∧
          (e = .nullKey ∨ ∃ found, e = .invalidKeyType found) ∧
          named entries = named valid ∧ (b.putAll valid).run w = ⟨.ok (), w', []⟩ := by
  refine ⟨_, World.assignedAll_assignAll w b.scope (named entries), ⟨?ok, ?_⟩, ?bad⟩
  case bad =>
    rintro valid bad rest e rfl hvalid hbad
    rw [named_append_bad hvalid hbad rest]
    exact ⟨run_putAll_of_bad b hfree hvalid hbad rest, Key.error_cases hbad, rfl,
      run_putAll_of_named b hfree hvalid⟩
  case ok =>
    intro hrun
    obtain hvalid | ⟨valid, bad, rest, e, rfl, hvalid, hbad⟩ := isNamed_or_exists_bad entries
    · exact hvalid
    · rw [run_putAll_of_bad b hfree hvalid hbad rest] at hrun
      cases congrArg Outcome.result hrun
  · exact run_putAll_of_named b hfree

/-- A name that is new and comes twice, one that only the store has, one that hides another, and
then no key at all. -/
theorem putAll_law_null_key :
    let v : Nat → Value := fun n => ⟨⟨n⟩, .unit⟩
    let w : World := { World.empty with
      scopes := fun _ => { content := ⟨"main", .ofList [("x", v 0)], ⟨0⟩, 0⟩ }
      links := fun _ => { content := some ⟨0⟩ }
      stores := fun _ => { content := .ofList [("x", v 1), ("y", v 2)] } }
    let done := (Bindings.putAll ⟨⟨0⟩⟩ [(.name "z", v 3), (.name "y", v 4), (.name "x", v 5),
      (.name "z", v 6), (.null, v 7), (.name "u", v 8)]).run w
    w.Unguarded ∧ done.result = .error .nullKey ∧
      (done.state.scope ⟨0⟩).locals.keys = ["x", "z"] ∧
      done.state.shownValue ⟨0⟩ "z" = some (v 6) ∧ done.state.shownValue ⟨0⟩ "u" = none ∧
      (done.state.entries ⟨0⟩).find? "x" = some (v 1) := by
  intro v w done
  have hfree : w.Unguarded := fun r => by cases r <;> rfl
  obtain ⟨w', hassigned, -, hbad⟩ := putAll_law ⟨⟨0⟩⟩ hfree [(.name "z", v 3), (.name "y", v 4),
    (.name "x", v 5), (.name "z", v 6), (.null, v 7), (.name "u", v 8)]
  obtain ⟨hrun, -⟩ := hbad [(.name "z", v 3), (.name "y", v 4), (.name "x", v 5), (.name "z", v 6)]
    (.null, v 7) [(.name "u", v 8)] .nullKey rfl (by simp [IsNamed, Key.name?]) rfl
  have hdone : done = ⟨.error .nullKey, w', []⟩ := hrun
  rw [hdone]
  refine ⟨hfree, rfl, hassigned.localKeys.trans (by decide), hassigned.shown "z",
    hassigned.shown "u", hassigned.store ⟨0⟩ rfl "x"⟩

end Bindings

end ScriptHost
