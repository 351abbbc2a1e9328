/-!
# Tables that remember the order of their names

A `Table α` holds named values and remembers the order in which the names came in.  Variables,
the entries of a store and a snapshot of visible bindings are all tables, and the order is
something a caller sees: it is the order in which names are listed.

* **Overwriting keeps the place.**  `Table.insert` puts a new name at the end, and gives a name
  that is already there its new value where it stands (`Table.keys_insert`).
* **Erasing closes the gap.**  `Table.erase` drops one name and leaves the others in their order
  (`Table.keys_erase`).
* **One entry per name.**  The list of entries comes with a proof that no name occurs twice, so a
  lookup, `Table.find?`, has at most one entry to find.

The two updates are first defined on plain lists of entries, in `Entries`; a map inside a script
value is such a list.
-/

set_option autoImplicit false

namespace ScriptHost

universe u

namespace Entries

variable {α : Type u}

/-- Gives `name` the value `value`: where the name stands if it is there, at the end otherwise. -/
def insert (name : String) (value : α) : List (String × α) → List (String × α)
  | [] => [(name, value)]
  | entry :: rest =>
    if entry.1 = name then (name, value) :: rest else entry :: insert name value rest

/-- Drops the entries of `name` and keeps the order of the others. -/
def erase (name : String) (entries : List (String × α)) : List (String × α) :=
  entries.filter fun entry => entry.1 ≠ name

/-- Inserts the entries one after the other. -/
def ofList (entries : List (String × α)) : List (String × α) :=
  entries.foldl (fun done entry => insert entry.1 entry.2 done) []

theorem map_fst_insert (name : String) (value : α) (entries : List (String × α)) :
    (insert name value entries).map Prod.fst =
      if name ∈ entries.map Prod.fst then entries.map Prod.fst
      else entries.map Prod.fst ++ [name] := by
  induction entries with
  | nil => simp [insert]
  | cons entry rest ih =>
    by_cases h : entry.1 = name
    · simp [insert, h]
    · rw [insert, if_neg h, List.map_cons, ih]
      by_cases hm : name ∈ rest.map Prod.fst
      · rw [if_pos hm, if_pos (by rw [List.map_cons]; exact List.mem_cons_of_mem _ hm),
          List.map_cons]
      · rw [if_neg hm, if_neg (by
          rw [List.map_cons, List.mem_cons]
          exact fun hc => hc.elim (fun he => h he.symm) hm), List.map_cons, List.cons_append]

theorem map_fst_erase (name : String) (entries : List (String × α)) :
    (erase name entries).map Prod.fst = (entries.map Prod.fst).filter (· ≠ name) := by
  rw [erase, List.filter_map]
  rfl

theorem nodup_insert (name : String) (value : α) {entries : List (String × α)}
    (h : (entries.map Prod.fst).Nodup) : ((insert name value entries).map Prod.fst).Nodup := by
  rw [map_fst_insert]
  split
  · exact h
  · next hm =>
    rw [List.nodup_append]
    refine ⟨h, by simp, fun a ha b hb => ?_⟩
    rw [List.mem_singleton] at hb
    exact fun hab => hm (by rw [← hb, ← hab]; exact ha)

theorem nodup_erase (name : String) {entries : List (String × α)}
    (h : (entries.map Prod.fst).Nodup) : ((erase name entries).map Prod.fst).Nodup := by
  rw [map_fst_erase]
  exact h.sublist List.filter_sublist

theorem nodup_ofList (entries : List (String × α)) : ((ofList entries).map Prod.fst).Nodup := by
  suffices h : ∀ (entries done : List (String × α)), (done.map Prod.fst).Nodup →
      ((entries.foldl (fun done entry => insert entry.1 entry.2 done) done).map Prod.fst).Nodup from
    h entries [] (by simp)
  intro entries
  induction entries with
  | nil => exact fun _ h => h
  | cons entry rest ih => exact fun done h => ih _ (nodup_insert entry.1 entry.2 h)

theorem lookup_cons (entry : String × α) (rest : List (String × α)) (name : String) :
    (entry :: rest).lookup name = if name = entry.1 then some entry.2 else rest.lookup name := by
  rw [List.lookup_cons]
  by_cases h : name = entry.1
  · rw [beq_iff_eq.2 h, if_pos h]
  · rw [beq_eq_false_iff_ne.2 h, if_neg h]

theorem lookup_insert (name other : String) (value : α) (entries : List (String × α)) :
    (insert name value entries).lookup other =
      if other = name then some value else entries.lookup other := by
  induction entries with
  | nil => rw [insert, lookup_cons]
  | cons entry rest ih =>
    by_cases hn : entry.1 = name
    · rw [insert, if_pos hn, lookup_cons, lookup_cons, hn]
      by_cases ho : other = name <;> simp [ho]
    · rw [insert, if_neg hn, lookup_cons, lookup_cons, ih]
      by_cases ho : other = name
      · rw [if_neg (fun h => hn (h.symm.trans ho)), if_pos ho, if_pos ho]
      · rw [if_neg ho, if_neg ho]

theorem lookup_erase (name other : String) (entries : List (String × α)) :
    (erase name entries).lookup other =
      if other = name then none else entries.lookup other := by
  unfold erase
  induction entries with
  | nil => simp
  | cons entry rest ih =>
    rw [List.filter_cons, lookup_cons]
    by_cases hn : entry.1 = name
    · rw [if_neg (by simp [hn]), ih, hn]
      by_cases ho : other = name <;> simp [ho]
    · rw [if_pos (by simp [hn]), lookup_cons, ih]
      by_cases ho : other = name
      · rw [if_neg (fun h => hn (h.symm.trans ho)), if_pos ho, if_pos ho]
      · rw [if_neg ho, if_neg ho]

/-- A name has a value exactly when it stands in the list. -/
theorem mem_map_fst_iff (name : String) (entries : List (String × α)) :
    name ∈ entries.map Prod.fst ↔ (entries.lookup name).isSome := by
  induction entries with
  | nil => simp
  | cons entry rest ih =>
    rw [List.map_cons, List.mem_cons, ih, lookup_cons]
    by_cases h : name = entry.1 <;> simp [h]

/-- The entries with another value for `name`, where it stands. -/
def overwrite (name : String) (value : α) (entries : List (String × α)) : List (String × α) :=
  entries.map fun entry => if entry.1 = name then (name, value) else entry

/-- An insertion spelled out: a name that is there gets its new value in its place, and a new name
comes last. -/
theorem insert_eq (name : String) (value : α) {entries : List (String × α)}
    (h : (entries.map Prod.fst).Nodup) :
    insert name value entries =
      if name ∈ entries.map Prod.fst then overwrite name value entries
      else entries ++ [(name, value)] := by
  unfold overwrite
  induction entries with
  | nil => rfl
  | cons entry rest ih =>
    rw [List.map_cons, List.nodup_cons] at h
    rw [insert, ih h.2, List.map_cons, List.map_cons]
    by_cases hn : entry.1 = name
    · -- the name does not occur again
      have hrest :
          rest.map (fun entry => if entry.1 = name then (name, value) else entry) = rest := by
        refine (List.map_congr_left fun e he => if_neg fun hen => h.1 ?_).trans (List.map_id rest)
        rw [hn, ← hen]
        exact List.mem_map_of_mem he
      rw [if_pos hn, if_pos hn, hrest, if_pos (hn ▸ List.mem_cons_self)]
    · rw [if_neg hn, if_neg hn]
      by_cases hm : name ∈ rest.map Prod.fst
      · rw [if_pos hm, if_pos (List.mem_cons_of_mem _ hm)]
      · rw [if_neg hm, if_neg fun hc => (List.mem_cons.1 hc).elim (fun he => hn he.symm) hm,
          List.cons_append]

/-- Whatever is inserted, the entries of the other names stay as they are. -/
theorem erase_insert (name : String) (value : α) (entries : List (String × α)) :
    erase name (insert name value entries) = erase name entries := by
  unfold erase
  induction entries with
  | nil => simp [insert]
  | cons entry rest ih =>
    by_cases hn : entry.1 = name
    · simp [insert, hn]
    · rw [insert, if_neg hn, List.filter_cons, List.filter_cons, ih]

/-- What is gone cannot be dropped once more. -/
theorem erase_erase (name : String) (entries : List (String × α)) :
    erase name (erase name entries) = erase name entries := by
  rw [erase, erase, List.filter_filter]
  simp only [Bool.and_self]

/-- Of two values that are given to one name, the later one stays. -/
theorem insert_insert (name : String) (value value' : α) (entries : List (String × α)) :
    insert name value' (insert name value entries) = insert name value' entries := by
  induction entries with
  | nil => simp [insert]
  | cons entry rest ih =>
    by_cases hn : entry.1 = name
    · simp [insert, hn]
    · rw [insert, if_neg hn, insert, if_neg hn, insert, if_neg hn, ih]

/-- Giving a name the value that it has changes nothing. -/
theorem insert_of_lookup {name : String} {value : α} {entries : List (String × α)}
    (h : entries.lookup name = some value) : insert name value entries = entries := by
  induction entries with
  | nil => simp at h
  | cons entry rest ih =>
    rw [lookup_cons] at h
    by_cases hn : entry.1 = name
    · rw [if_pos hn.symm, Option.some_inj] at h
      rw [insert, if_pos hn, ← h, ← hn]
    · rw [if_neg fun he => hn he.symm] at h
      rw [insert, if_neg hn, ih h]

/-- Dropping a name that is not there changes nothing. -/
theorem erase_of_lookup {name : String} {entries : List (String × α)}
    (h : entries.lookup name = none) : erase name entries = entries := by
  have habsent : name ∉ entries.map Prod.fst := by
    rw [mem_map_fst_iff, h]
    exact Bool.false_ne_true
  refine List.filter_eq_self.2 fun entry hentry => decide_eq_true ?_
  rintro rfl
  exact habsent (List.mem_map_of_mem hentry)

/-- Dropping the name of the first entry drops that entry. -/
theorem erase_head {entry : String × α} {rest : List (String × α)}
    (h : ((entry :: rest).map Prod.fst).Nodup) : erase entry.1 (entry :: rest) = rest := by
  rw [List.map_cons, List.nodup_cons, mem_map_fst_iff, Option.not_isSome_iff_eq_none] at h
  calc erase entry.1 (entry :: rest)
      = erase entry.1 rest := List.filter_cons_of_neg (by simp)
    _ = rest := erase_of_lookup h.1

/-- Where no name comes twice, inserting the entries one after the other puts them in a row. -/
theorem ofList_of_nodup {entries : List (String × α)} (h : (entries.map Prod.fst).Nodup) :
    ofList entries = entries := by
  suffices hrow : ∀ (entries done : List (String × α)), ((done ++ entries).map Prod.fst).Nodup →
      entries.foldl (fun done entry => insert entry.1 entry.2 done) done = done ++ entries from
    hrow entries [] h
  intro entries
  induction entries with
  | nil => exact fun done _ => (List.append_nil done).symm
  | cons entry rest ih =>
    intro done hnodup
    have hparts := hnodup
    rw [List.map_append, List.map_cons, List.nodup_append] at hparts
    obtain ⟨hdone, -, hapart⟩ := hparts
    have hnew : entry.1 ∉ done.map Prod.fst := fun hold =>
      hapart _ hold _ List.mem_cons_self rfl
    rw [List.foldl_cons, insert_eq _ _ hdone, if_neg hnew, ih _ (by rwa [← List.append_cons]),
      ← List.append_cons]

/-- In a list without repeated names, looking up finds every entry. -/
theorem lookup_eq_some_iff {name : String} {value : α} {entries : List (String × α)}
    (h : (entries.map Prod.fst).Nodup) :
    entries.lookup name = some value ↔ (name, value) ∈ entries := by
  induction entries with
  | nil => simp
  | cons entry rest ih =>
    rw [List.map_cons, List.nodup_cons] at h
    rw [lookup_cons, List.mem_cons, ← ih h.2]
    by_cases hn : name = entry.1
    · have hrest : rest.lookup name ≠ some value := fun hv =>
        h.1 (hn ▸ (mem_map_fst_iff name rest).2 (hv ▸ rfl))
      rw [if_pos hn, Option.some_inj]
      refine ⟨fun hv => .inl (Prod.ext hn hv.symm), fun hv => ?_⟩
      exact hv.elim (fun he => (congrArg Prod.snd he).symm) fun hr => absurd hr hrest
    · rw [if_neg hn]
      exact ⟨.inr, fun hv => hv.elim (fun he => absurd (congrArg Prod.fst he) hn) id⟩

end Entries

/-- Named values in the order in which their names came in, each name once. -/
structure Table (α : Type u) where
  /-- The entries, oldest name first. -/
  entries : List (String × α)
  /-- No name has two entries. -/
  nodup_keys : (entries.map Prod.fst).Nodup

namespace Table

variable {α : Type u}

/-- The table without names. -/
def empty : Table α := ⟨[], by simp⟩

instance : Inhabited (Table α) := ⟨empty⟩

instance : EmptyCollection (Table α) := ⟨empty⟩

@[ext] theorem ext {t t' : Table α} (h : t.entries = t'.entries) : t = t' := by
  cases t; cases t'; cases h; rfl

/-- The names, oldest first. -/
def keys (t : Table α) : List String := t.entries.map Prod.fst

/-- The values, in the order of their names. -/
def values (t : Table α) : List α := t.entries.map Prod.snd

/-- The number of names. -/
def size (t : Table α) : Nat := t.entries.length

/-- Whether there is no name at all. -/
def isEmpty (t : Table α) : Bool := t.entries.isEmpty

/-- The value of `name`, if it has one. -/
def find? (t : Table α) (name : String) : Option α := t.entries.lookup name

/-- Whether `name` has a value. -/
def contains (t : Table α) (name : String) : Bool := (t.find? name).isSome

/-- Gives `name` the value `value`, in its old place or at the end. -/
def insert (t : Table α) (name : String) (value : α) : Table α :=
  ⟨Entries.insert name value t.entries, Entries.nodup_insert name value t.nodup_keys⟩

/-- Drops `name`, if it is there, and keeps the order of the other names. -/
def erase (t : Table α) (name : String) : Table α :=
  ⟨Entries.erase name t.entries, Entries.nodup_erase name t.nodup_keys⟩

/-- Inserts the entries one after the other: a name given twice stands where it came first, with
the value that came last. -/
def ofList (entries : List (String × α)) : Table α :=
  ⟨Entries.ofList entries, Entries.nodup_ofList entries⟩

/-- Whether two tables give equal values to the same names, in whatever order. -/
def sameEntries [BEq α] (t t' : Table α) : Bool :=
  t.size == t'.size &&
    t.entries.all fun entry =>
      match t'.find? entry.1 with
      | some value => entry.2 == value
      | none => false

/-! ## What the updates do to a table's two views -/

@[simp] theorem keys_empty : (empty : Table α).keys = [] := rfl

@[simp] theorem find?_empty (name : String) : (empty : Table α).find? name = none := rfl

theorem keys_insert (t : Table α) (name : String) (value : α) :
    (t.insert name value).keys = if name ∈ t.keys then t.keys else t.keys ++ [name] :=
  Entries.map_fst_insert name value t.entries

theorem keys_erase (t : Table α) (name : String) :
    (t.erase name).keys = t.keys.filter (· ≠ name) :=
  Entries.map_fst_erase name t.entries

@[simp] theorem find?_insert (t : Table α) (name other : String) (value : α) :
    (t.insert name value).find? other = if other = name then some value else t.find? other :=
  Entries.lookup_insert name other value t.entries

@[simp] theorem find?_erase (t : Table α) (name other : String) :
    (t.erase name).find? other = if other = name then none else t.find? other :=
  Entries.lookup_erase name other t.entries

/-- The entries after an insertion. -/
theorem entries_insert (t : Table α) (name : String) (value : α) : (t.insert name value).entries =
    if t.contains name then Entries.overwrite name value t.entries
    else t.entries ++ [(name, value)] := by
  refine (Entries.insert_eq name value t.nodup_keys).trans ?_
  simp only [Entries.mem_map_fst_iff]
  rfl

theorem insert_insert (t : Table α) (name : String) (value value' : α) :
    (t.insert name value).insert name value' = t.insert name value' :=
  ext (Entries.insert_insert name value value' t.entries)

theorem insert_of_find? {t : Table α} {name : String} {value : α}
    (h : t.find? name = some value) : t.insert name value = t :=
  ext (Entries.insert_of_lookup h)

/-- A name that comes in and goes out again leaves nothing behind. -/
theorem erase_insert_of_find? {t : Table α} {name : String} (h : t.find? name = none) (value : α) :
    (t.insert name value).erase name = t :=
  ext ((Entries.erase_insert name value t.entries).trans (Entries.erase_of_lookup h))

/-- A name that is not there need not be erased. -/
theorem erase_of_find? {t : Table α} {name : String} (h : t.find? name = none) :
    t.erase name = t :=
  ext (Entries.erase_of_lookup h)

/-- Erasing the first name leaves the other entries. -/
theorem entries_erase_head {t : Table α} {entry : String × α} {rest : List (String × α)}
    (h : t.entries = entry :: rest) : (t.erase entry.1).entries = rest := by
  have hnodup := t.nodup_keys
  rw [h] at hnodup
  exact (congrArg (Entries.erase entry.1) h).trans (Entries.erase_head hnodup)

/-- A name is listed exactly when it has a value. -/
theorem mem_keys_iff (t : Table α) (name : String) : name ∈ t.keys ↔ (t.find? name).isSome :=
  Entries.mem_map_fst_iff name t.entries

/-- A name that is erased was one of the names. -/
theorem size_erase {t : Table α} {name : String} (h : t.contains name = true) :
    (t.erase name).size + 1 = t.size := by
  have hmem : name ∈ t.keys := (t.mem_keys_iff name).2 h
  have hnodup : t.keys.Nodup := t.nodup_keys
  have hkeys : (t.erase name).keys = t.keys.erase name := by
    rw [keys_erase, hnodup.erase_eq_filter]
    refine List.filter_congr fun other _ => ?_
    by_cases hother : other = name <;> simp [hother]
  have hsize : (t.erase name).size = (t.keys.erase name).length := by
    rw [← hkeys, keys, List.length_map]
    rfl
  rw [hsize, List.length_erase_of_mem hmem, Nat.sub_add_cancel (List.length_pos_of_mem hmem), keys,
    List.length_map]
  rfl

end Table

end ScriptHost
