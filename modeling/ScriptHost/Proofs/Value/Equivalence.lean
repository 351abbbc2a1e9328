import Mathlib.Data.List.Forall2
import Mathlib.Data.List.Perm.Subperm
import ScriptHost.Proofs.Value.Heap
import ScriptHost.Value.Equality

/-!
# Equality of values is an equivalence

`==` on values mixes two things: handles on the same cell are equal whatever they hold, and other
handles are compared by content, where a number may not be equal to itself.  In a heap it is an
equivalence all the same, and this file says how far it is from comparing contents alone.

* `Binary64.SameNumber` — how numbers are compared, by their words.
* `Content.Agree` — two contents agree up to a relation between the values inside.  Both ways of
  comparing are built on it, so each law is proved once, for one step inwards.
* `Value.beq_iff` — `==` is the same cell, or contents that agree up to `==`.
* `Value.Same` — contents that agree all the way down; cells have no part in it.
* `Value.beq_equivalence` — reflexive, symmetric and transitive in every heap; the same as `Same`
  where there is no NaN; and a copy in a new cell is equal to every value that is not a NaN itself.
-/

set_option autoImplicit false

namespace ScriptHost

/-! ## Numbers -/

namespace Binary64

/-- The words stand for the same number: neither is a NaN, and they are one word or both of them are
zeros. -/
structure SameNumber (x y : Binary64) : Prop where
  left : x.isNaN = false
  right : y.isNaN = false
  same : x = y ∨ x.isZero = true ∧ y.isZero = true

theorem equal_iff {x y : Binary64} : x.equal y = true ↔ x.SameNumber y := by
  simp only [equal, Bool.and_eq_true, Bool.or_eq_true, Bool.not_eq_true', beq_iff_eq]
  exact ⟨fun h => ⟨h.1.1, h.1.2, h.2⟩, fun h => ⟨⟨h.left, h.right⟩, h.same⟩⟩

theorem sameNumber_self_iff {x : Binary64} : x.SameNumber x ↔ x.isNaN = false :=
  ⟨SameNumber.left, fun h => ⟨h, h, .inl rfl⟩⟩

theorem SameNumber.symm {x y : Binary64} (h : x.SameNumber y) : y.SameNumber x :=
  ⟨h.right, h.left, h.same.imp Eq.symm And.symm⟩

theorem SameNumber.trans {x y z : Binary64} (h : x.SameNumber y) (h' : y.SameNumber z) :
    x.SameNumber z := by
  refine ⟨h.left, h'.right, ?_⟩
  rcases h.same with rfl | ⟨hx, hy⟩
  · exact h'.same
  · rcases h'.same with rfl | ⟨-, hz⟩
    · exact .inr ⟨hx, hy⟩
    · exact .inr ⟨hx, hz⟩

end Binary64

/-! ## Contents that agree -/

/-- The contents are of one kind and agree, with `R` between the values inside: numbers as numbers,
arrays item by item, maps name by name in any order, host objects by identity. -/
inductive Content.Agree (R : Value → Value → Prop) : Content → Content → Prop
  | unit : Agree R .unit .unit
  | bool (b : Bool) : Agree R (.bool b) (.bool b)
  | int (n : Int64) : Agree R (.int n) (.int n)
  | float {x x' : Binary64} (h : x.SameNumber x') : Agree R (.float x) (.float x')
  | string (s : String) : Agree R (.string s) (.string s)
  | array {items items' : List Value} (h : List.Forall₂ R items items') :
      Agree R (.array items) (.array items')
  | map {entries entries' : List (String × Value)} (hsize : entries.length = entries'.length)
      (hnames : ∀ name, name ∈ entries.map Prod.fst ↔ name ∈ entries'.map Prod.fst)
      (hvalues : ∀ name v v', (name, v) ∈ entries → (name, v') ∈ entries' → R v v') :
      Agree R (.map entries) (.map entries')
  | host {object object' : HostObject} (h : object.id = object'.id) :
      Agree R (.host object) (.host object')

namespace Content

variable {R R' : Value → Value → Prop} {c c' c'' : Content}

theorem mem_parts_map {entries : List (String × Value)} {name : String} {v : Value}
    (h : (name, v) ∈ entries) : v ∈ (map entries).parts :=
  List.mem_map_of_mem h

theorem Agree.mono (hc : c.Agree R c')
    (h : ∀ v ∈ c.parts, ∀ v' ∈ c'.parts, R v v' → R' v v') : c.Agree R' c' := by
  cases hc with
  | unit => exact .unit
  | bool b => exact .bool b
  | int n => exact .int n
  | float hx => exact .float hx
  | string s => exact .string s
  | array hitems =>
    obtain ⟨hlength, hzip⟩ := List.forall₂_iff_zip.1 hitems
    refine .array (List.forall₂_iff_zip.2 ⟨hlength, fun {v v'} hmem => ?_⟩)
    obtain ⟨hv, hv'⟩ := List.of_mem_zip hmem
    exact h v hv v' hv' (hzip hmem)
  | map hsize hnames hvalues =>
    exact .map hsize hnames fun name v v' hv hv' =>
      h v (mem_parts_map hv) v' (mem_parts_map hv') (hvalues name v v' hv hv')
  | host hid => exact .host hid

theorem Agree.flip (hc : c.Agree R c') : c'.Agree (fun v v' => R v' v) c := by
  cases hc with
  | unit => exact .unit
  | bool b => exact .bool b
  | int n => exact .int n
  | float hx => exact .float hx.symm
  | string s => exact .string s
  | array hitems => exact .array hitems.flip
  | map hsize hnames hvalues =>
    exact .map hsize.symm (fun name => (hnames name).symm) fun name v v' hv hv' =>
      hvalues name v' v hv' hv
  | host hid => exact .host hid.symm

theorem Agree.trans (hc : c.Agree R c') (hc' : c'.Agree R c'')
    (h : ∀ v ∈ c.parts, ∀ v' ∈ c'.parts, ∀ v'' ∈ c''.parts, R v v' → R v' v'' → R v v'') :
    c.Agree R c'' := by
  cases hc with
  | unit => exact hc'
  | bool b => exact hc'
  | int n => exact hc'
  | float hx =>
    cases hc' with
    | float hx' => exact .float (hx.trans hx')
  | string s => exact hc'
  | array hitems =>
    cases hc' with
    | array hitems' =>
      obtain ⟨hlength, hget⟩ := List.forall₂_iff_get.1 hitems
      obtain ⟨hlength', hget'⟩ := List.forall₂_iff_get.1 hitems'
      refine .array (List.forall₂_iff_get.2 ⟨hlength.trans hlength', fun i hi hi'' => ?_⟩)
      have hi' := hlength ▸ hi
      exact h _ (List.get_mem _ _) _ (List.get_mem _ _) _ (List.get_mem _ _) (hget i hi hi')
        (hget' i hi' hi'')
  | map hsize hnames hvalues =>
    cases hc' with
    | map hsize' hnames' hvalues' =>
      refine .map (hsize.trans hsize') (fun name => (hnames name).trans (hnames' name))
        fun name v v'' hv hv'' => ?_
      -- the map in between has the name too
      obtain ⟨⟨_, v'⟩, hv', rfl⟩ := List.mem_map.1 ((hnames name).1 (List.mem_map_of_mem hv))
      exact h v (mem_parts_map hv) v' (mem_parts_map hv') v'' (mem_parts_map hv'')
        (hvalues _ v v' hv hv') (hvalues' _ v' v'' hv' hv'')
  | host hid =>
    cases hc' with
    | host hid' => exact .host (hid.trans hid')

/-- Whether the content is a number that is not equal to itself. -/
def isNaN : Content → Bool
  | float x => x.isNaN
  | _ => false

/-- Only a NaN keeps a content from agreeing with itself. -/
theorem agree_self_iff (hnames : c.names.Nodup) (h : ∀ v ∈ c.parts, R v v) :
    c.Agree R c ↔ c.isNaN = false := by
  constructor
  · intro hc
    cases hc with
    | float hx => exact Binary64.sameNumber_self_iff.1 hx
    | _ => rfl
  · intro hnan
    cases c with
    | unit => exact .unit
    | bool b => exact .bool b
    | int n => exact .int n
    | float x => exact .float (Binary64.sameNumber_self_iff.2 hnan)
    | string s => exact .string s
    | array items => exact .array (List.forall₂_same.2 h)
    | map entries =>
      refine .map rfl (fun _ => Iff.rfl) fun name v v' hv hv' => ?_
      have hvalue := (Entries.lookup_eq_some_iff hnames).2 hv
      rw [(Entries.lookup_eq_some_iff hnames).2 hv', Option.some_inj] at hvalue
      exact hvalue ▸ h v (mem_parts_map hv)
    | host object => exact .host rfl

end Content

/-! ## Equality in terms of agreement -/

theorem equalItems_iff {items items' : List Value} :
    equalItems items items' = true ↔ List.Forall₂ (fun v v' => v == v') items items' := by
  induction items generalizing items' with
  | nil => cases items' <;> simp [equalItems]
  | cons v rest ih =>
    cases items' with
    | nil => simp [equalItems]
    | cons v' rest' =>
      rw [equalItems, Bool.and_eq_true, ih, List.forall₂_cons]
      rfl

theorem equalEntries_iff {entries others : List (String × Value)} :
    equalEntries entries others = true ↔
      ∀ name v, (name, v) ∈ entries → ∃ v', others.lookup name = some v' ∧ (v == v') = true := by
  induction entries with
  | nil => simp [equalEntries]
  | cons entry rest ih =>
    obtain ⟨name, v⟩ := entry
    rw [equalEntries, Bool.and_eq_true, ih]
    constructor
    · rintro ⟨hfirst, hrest⟩ name' v' hmem
      rcases List.mem_cons.1 hmem with heq | hmem
      · cases heq
        split at hfirst
        · next v' hlookup => exact ⟨v', hlookup, hfirst⟩
        · contradiction
      · exact hrest name' v' hmem
    · intro h
      obtain ⟨v', hlookup, hv⟩ := h name v List.mem_cons_self
      refine ⟨?_, fun name' v' hmem => h name' v' (List.mem_cons_of_mem _ hmem)⟩
      rw [hlookup]
      exact hv

/-- The one-sided comparison of two maps of one size is enough. -/
theorem equalMap_iff {entries others : List (String × Value)}
    (hnames : (entries.map Prod.fst).Nodup) (hnames' : (others.map Prod.fst).Nodup) :
    (Content.map entries).equal (.map others) = true ↔
      (Content.map entries).Agree (fun v v' => v == v') (.map others) := by
  rw [Content.equal, Bool.and_eq_true, decide_eq_true_iff, equalEntries_iff]
  constructor
  · rintro ⟨hsize, hfound⟩
    have hsub : entries.map Prod.fst ⊆ others.map Prod.fst := by
      intro name hname
      obtain ⟨⟨_, v⟩, hv, rfl⟩ := List.mem_map.1 hname
      obtain ⟨v', hv', -⟩ := hfound _ v hv
      exact (Entries.mem_map_fst_iff _ others).2 (hv' ▸ rfl)
    -- all names of the one are names of the other, and there are no more of them
    have hperm : (entries.map Prod.fst).Perm (others.map Prod.fst) := by
      refine (List.subperm_of_subset hnames hsub).perm_of_length_le (Nat.le_of_eq ?_)
      rw [List.length_map, List.length_map, hsize]
    refine .map hsize (fun name => hperm.mem_iff) fun name v v' hv hv' => ?_
    obtain ⟨found, hlookup, heq⟩ := hfound name v hv
    rw [(Entries.lookup_eq_some_iff hnames').2 hv', Option.some_inj] at hlookup
    exact hlookup ▸ heq
  · intro h
    cases h with
    | map hsize hsame hvalues =>
      refine ⟨hsize, fun name v hv => ?_⟩
      obtain ⟨⟨_, v'⟩, hv', rfl⟩ := List.mem_map.1 ((hsame name).1 (List.mem_map_of_mem hv))
      exact ⟨v', (Entries.lookup_eq_some_iff hnames').2 hv', hvalues _ v v' hv hv'⟩

theorem Content.equal_iff {c c' : Content} (h : c.names.Nodup) (h' : c'.names.Nodup) :
    c.equal c' = true ↔ c.Agree (fun v v' => v == v') c' := by
  constructor
  · intro hequal
    unfold Content.equal at hequal
    split at hequal
    · exact .unit
    · exact decide_eq_true_iff.1 hequal ▸ .bool _
    · exact decide_eq_true_iff.1 hequal ▸ .int _
    · exact .float (Binary64.equal_iff.1 hequal)
    · exact decide_eq_true_iff.1 hequal ▸ .string _
    · exact .array (equalItems_iff.1 hequal)
    · exact (equalMap_iff h h').1 (by rwa [Content.equal])
    · exact .host (decide_eq_true_iff.1 hequal)
    · contradiction
  · intro hagree
    cases hagree with
    | unit => rfl
    | bool b => exact decide_eq_true rfl
    | int n => exact decide_eq_true rfl
    | float hx => exact Binary64.equal_iff.2 hx
    | string s => exact decide_eq_true rfl
    | array hitems => exact equalItems_iff.2 hitems
    | map hsize hsame hvalues => exact (equalMap_iff h h').2 (.map hsize hsame hvalues)
    | host hid => exact decide_eq_true hid

namespace Value

variable {heap : Heap} {v v' v'' : Value}

/-- **Equal values are in the same cell, or their contents agree up to equality.** -/
theorem beq_iff (h : v.content.names.Nodup) (h' : v'.content.names.Nodup) :
    (v == v') = true ↔ v.cell = v'.cell ∨ v.content.Agree (fun a b => a == b) v'.content := by
  obtain ⟨cell, content⟩ := v
  rw [← Content.equal_iff h h']
  change Value.equal ⟨cell, content⟩ v' = true ↔ _
  rw [Value.equal, Bool.or_eq_true, decide_eq_true_iff]
  rfl

/-- Equality in a heap, one step inwards. -/
theorem LiesIn.beq_iff (h : v.LiesIn heap) (h' : v'.LiesIn heap) :
    (v == v') = true ↔ v = v' ∨ v.content.Agree (fun a b => a == b) v'.content := by
  rw [Value.beq_iff h.nodup_names h'.nodup_names]
  exact or_congr_left ⟨h.eq_of_cell_eq h', congrArg cell⟩

/-! ## The laws -/

theorem beq_self (v : Value) : (v == v) = true := beq_of_cell_eq rfl

theorem LiesIn.beq_symm (h : v.LiesIn heap) (h' : v'.LiesIn heap) (heq : (v == v') = true) :
    (v' == v) = true := by
  induction v using Value.induction generalizing v' with
  | step cell content ih =>
    rcases (h.beq_iff h').1 heq with hsame | hagree
    · exact hsame ▸ beq_self _
    · refine (h'.beq_iff h).2 (.inr (hagree.flip.mono fun a ha b hb hba => ?_))
      exact ih b hb (h.part hb) (h'.part ha) hba

theorem LiesIn.beq_trans (h : v.LiesIn heap) (h' : v'.LiesIn heap) (h'' : v''.LiesIn heap)
    (heq : (v == v') = true) (heq' : (v' == v'') = true) : (v == v'') = true := by
  induction v using Value.induction generalizing v' v'' with
  | step cell content ih =>
    rcases (h.beq_iff h').1 heq with hsame | hagree
    · exact hsame ▸ heq'
    · rcases (h'.beq_iff h'').1 heq' with hsame' | hagree'
      · exact hsame' ▸ heq
      · refine (h.beq_iff h'').2 (.inr (hagree.trans hagree' fun a ha b hb c hc hab hbc => ?_))
        exact ih a ha (h.part ha) (h'.part hb) (h''.part hc) hab hbc

/-! ## Comparing contents alone -/

/-- The values are alike all the way down, whatever cells they are in. -/
inductive Same : Value → Value → Prop
  | mk {cell cell' : CellId} {content content' : Content} (h : content.Agree Same content') :
      Same ⟨cell, content⟩ ⟨cell', content'⟩

/-- No number in the value, however deep, is a NaN. -/
inductive NanFree : Value → Prop
  | mk {cell : CellId} {content : Content} (hcontent : content.isNaN = false)
      (hparts : ∀ v ∈ content.parts, NanFree v) : NanFree ⟨cell, content⟩

/-- **Without a NaN, cells have no part in equality.** -/
theorem LiesIn.beq_iff_same (h : v.LiesIn heap) (h' : v'.LiesIn heap) (hnan : v.NanFree) :
    (v == v') = true ↔ v.Same v' := by
  induction v using Value.induction generalizing v' with
  | step cell content ih =>
    obtain ⟨hcontent, hparts⟩ := hnan
    obtain ⟨cell', content'⟩ := v'
    -- a handle on the same cell agrees with itself, as there is no NaN
    have hself : content.Agree (fun a b => a == b) content :=
      (Content.agree_self_iff h.nodup_names fun a _ => beq_self a).2 hcontent
    have hagree : ((⟨cell, content⟩ : Value) == ⟨cell', content'⟩) = true ↔
        content.Agree (fun a b => a == b) content' := by
      refine (h.beq_iff h').trans (or_iff_right_of_imp fun hsame => ?_)
      cases hsame
      exact hself
    rw [hagree]
    constructor
    · exact fun hc => .mk (hc.mono fun a ha b hb hab =>
        (ih a ha (h.part ha) (h'.part hb) (hparts a ha)).1 hab)
    · rintro ⟨hc⟩
      exact hc.mono fun a ha b hb hab => (ih a ha (h.part ha) (h'.part hb) (hparts a ha)).2 hab

/-- **A copy in another cell** is equal to the value unless that is a NaN itself. -/
theorem beq_copy_iff {cell : CellId} (hcell : cell ≠ v.cell) (hnames : v.content.names.Nodup) :
    ((⟨cell, v.content⟩ : Value) == v) = true ↔ v.content.isNaN = false := by
  refine (@beq_iff ⟨cell, v.content⟩ v hnames hnames).trans ((or_iff_right hcell).trans ?_)
  exact Content.agree_self_iff hnames fun a _ => beq_self a

/-- **Equality is an equivalence.**  Handles on one cell are equal, whatever it holds.  Among the
values of a heap equality is symmetric and transitive, and where there is no NaN it is plain
comparison of contents, all the way down.

A copy of a value in a new cell, which lies in the larger heap with the value, is equal to it unless
the value is a NaN itself; it does not matter how many of them the value has inside. -/
theorem beq_equivalence (heap : Heap) :
    (∀ v v' : Value, v.cell = v'.cell → (v == v') = true) ∧
      (∀ v v' : Value, v.LiesIn heap → v'.LiesIn heap → (v == v') = (v' == v)) ∧
      (∀ v v' v'' : Value, v.LiesIn heap → v'.LiesIn heap → v''.LiesIn heap →
        (v == v') = true → (v' == v'') = true → (v == v'') = true) ∧
      (∀ v v' : Value, v.LiesIn heap → v'.LiesIn heap → v.NanFree →
        ((v == v') = true ↔ v.Same v')) ∧
      ∀ (v : Value) (s : Supply), v.LiesIn heap → s.Fills heap →
        let copy := (s.rewrap v).1
        v.LiesIn (heap.put copy) ∧ copy.LiesIn (heap.put copy) ∧
          ((copy == v) = true ↔ ∀ x, v.content = .float x → x.isNaN = false) := by
  refine ⟨fun v v' => beq_of_cell_eq, fun v v' h h' => ?_,
    fun v v' v'' h h' h'' => h.beq_trans h' h'', fun v v' h h' hnan => h.beq_iff_same h' hnan,
    fun v s h hs => ?_⟩
  · exact Bool.eq_iff_iff.2 ⟨h.beq_symm h', h'.beq_symm h⟩
  · obtain ⟨-, hcopy, hold⟩ := hs.alloc h.nodup_names fun a ha => h.part ha
    refine ⟨hold v h, hcopy, (beq_copy_iff (hs.cell_ne h).symm h.nodup_names).trans ?_⟩
    cases v.content <;> simp [Content.isNaN]

/-- Two maps with a NaN in common, their entries in different orders: they are equal both ways, and
so is a copy of the first one; a copy of the NaN itself is not equal to it. -/
theorem beq_equivalence_nan :
    let nan : Value := ⟨⟨0⟩, .float ⟨0x7FF8000000000000⟩⟩
    let one : Value := ⟨⟨1⟩, .int 1⟩
    let v : Value := ⟨⟨2⟩, .map [("a", nan), ("b", one)]⟩
    let v' : Value := ⟨⟨3⟩, .map [("b", one), ("a", nan)]⟩
    let s : Supply := { cells := 4 }
    (v == v') = true ∧ (v' == v) = true ∧ ((s.rewrap v).1 == v) = true ∧
      ¬ ((s.rewrap nan).1 == nan) = true := by
  intro nan one v v' s
  -- the values are made one after the other
  have made₁ : Supply.Made _ _ [nan] := .alloc .start List.nodup_nil nofun
  have made₂ : Supply.Made _ _ [one, nan] := made₁.alloc List.nodup_nil nofun
  have made₃ : Supply.Made _ _ [v, one, nan] :=
    made₂.alloc (Content.nodup_names_mapOf [("a", nan), ("b", one)])
      (show ∀ part ∈ [nan, one], part ∈ [one, nan] by simp)
  have made₄ : Supply.Made _ _ [v', v, one, nan] :=
    made₃.alloc (Content.nodup_names_mapOf [("b", one), ("a", nan)])
      (show ∀ part ∈ [one, nan], part ∈ [v, one, nan] by simp)
  obtain ⟨hs, hlies⟩ := made₄.fills
  have hnan := hlies nan (by simp)
  have hv := hlies v (by simp)
  have hv' := hlies v' (by simp)
  obtain ⟨-, hsymm, -, -, hcopy⟩ := beq_equivalence _
  have hsame : (v == v') = true := rfl
  refine ⟨hsame, (hsymm v v' hv hv').symm.trans hsame, ?_, fun hequal => ?_⟩
  · exact (hcopy v s hv hs).2.2.2 fun x hx => Content.noConfusion hx
  · exact absurd ((hcopy nan s hnan hs).2.2.1 hequal _ rfl) (by decide)

end Value

end ScriptHost
