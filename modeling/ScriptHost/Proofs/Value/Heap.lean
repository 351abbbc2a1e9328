import ScriptHost.Value.Basic

/-!
# Heaps of shared cells

A `Value` is written down as a tree, but it stands for a handle: the tree shows the cell, what the
cell holds, and so on for the values in there.  A `Heap` says once for all what each cell holds.
`Value.LiesIn` is what makes a tree a view of the heap: each handle in it shows what the heap has in
that cell.

* `Value.induction` — induction over values, one step inwards at a time.
* `LiesIn.eq_of_cell_eq` — in one heap, two handles on the same cell are the same value.
* `Supply.Fills.alloc` — a supply hands out cells that are not in use, so the new value and all the
  old ones lie in one heap.  And so do all values that are ever made (`Supply.Made.fills`).
-/

set_option autoImplicit false

namespace ScriptHost

/-! ## One step inwards -/

/-- The values right inside a content. -/
def Content.parts : Content → List Value
  | .array items => items
  | .map entries => entries.map Prod.snd
  | _ => []

/-- The names right inside a content. -/
def Content.names : Content → List String
  | .map entries => entries.map Prod.fst
  | _ => []

/-- **Induction over values.**  If a value has a property as soon as the values right inside it do,
all values have it. -/
theorem Value.induction {P : Value → Prop}
    (step : ∀ cell content, (∀ v ∈ content.parts, P v) → P ⟨cell, content⟩) (v : Value) : P v := by
  refine Value.rec (motive_1 := P) (motive_2 := fun content => ∀ v ∈ content.parts, P v)
    (motive_3 := fun items => ∀ v ∈ items, P v)
    (motive_4 := fun entries => ∀ v ∈ entries.map Prod.snd, P v)
    (motive_5 := fun entry => P entry.2) step ?_ ?_ ?_ ?_ ?_ ?_ ?_ ?_ ?_ ?_ ?_ ?_ ?_ v
  all_goals simp +contextual [Content.parts]

/-- The names of a map are those of its entries, each once. -/
theorem Content.nodup_names_mapOf (entries : List (String × Value)) :
    (mapOf entries).names.Nodup :=
  Entries.nodup_ofList entries

/-! ## Heaps -/

/-- What the cells hold that are in use. -/
abbrev Heap : Type := CellId → Option Content

/-- The value shows what the heap has in its cell, and so do the values inside.  No map has a name
twice. -/
inductive Value.LiesIn (heap : Heap) : Value → Prop
  | mk {cell : CellId} {content : Content} (hcell : heap cell = some content)
      (hnames : content.names.Nodup) (hparts : ∀ v ∈ content.parts, LiesIn heap v) :
      LiesIn heap ⟨cell, content⟩

namespace Value.LiesIn

variable {heap : Heap} {v v' : Value}

theorem heap_cell (h : v.LiesIn heap) : heap v.cell = some v.content := by
  cases h with
  | mk hcell hnames hparts => exact hcell

theorem nodup_names (h : v.LiesIn heap) : v.content.names.Nodup := by
  cases h with
  | mk hcell hnames hparts => exact hnames

theorem part (h : v.LiesIn heap) (hv' : v' ∈ v.content.parts) : v'.LiesIn heap := by
  cases h with
  | mk hcell hnames hparts => exact hparts v' hv'

/-- **In one heap, handles on the same cell are the same value.** -/
theorem eq_of_cell_eq (h : v.LiesIn heap) (h' : v'.LiesIn heap) (hcell : v.cell = v'.cell) :
    v = v' := by
  have hcontent : some v.content = some v'.content := by
    rw [← h.heap_cell, ← h'.heap_cell, hcell]
  obtain ⟨cell, content⟩ := v
  obtain ⟨cell', content'⟩ := v'
  rw [Value.mk.injEq]
  exact ⟨hcell, Option.some.inj hcontent⟩

/-- A larger heap has the same values. -/
theorem mono {heap' : Heap} (hheap : ∀ cell content, heap cell = some content →
    heap' cell = some content) (h : v.LiesIn heap) : v.LiesIn heap' := by
  induction h with
  | mk hcell hnames _ ih => exact .mk (hheap _ _ hcell) hnames ih

end Value.LiesIn

/-! ## New cells -/

/-- The heap in which the value's cell is in use as well. -/
def Heap.put (heap : Heap) (v : Value) : Heap := fun cell =>
  if cell = v.cell then some v.content else heap cell

namespace Supply

/-- No cell of the heap is in use that the supply has not handed out. -/
def Fills (s : Supply) (heap : Heap) : Prop :=
  ∀ cell : CellId, s.cells ≤ cell.index → heap cell = none

variable {s : Supply} {heap : Heap}

/-- The next cell is none of those that are in use. -/
theorem Fills.cell_ne (h : s.Fills heap) {v : Value} (hv : v.LiesIn heap) : v.cell ≠ ⟨s.cells⟩ := by
  intro hcell
  have hused := hv.heap_cell
  rw [hcell, h ⟨s.cells⟩ (Nat.le_refl _)] at hused
  contradiction

/-- **A new cell is new.**  A value made of values in the heap lies in the heap with its cell, as do
all values from before. -/
theorem Fills.alloc (h : s.Fills heap) {content : Content} (hnames : content.names.Nodup)
    (hparts : ∀ v ∈ content.parts, v.LiesIn heap) :
    let made := s.alloc content
    made.2.Fills (heap.put made.1) ∧ made.1.LiesIn (heap.put made.1) ∧
      ∀ v : Value, v.LiesIn heap → v.LiesIn (heap.put made.1) := by
  intro made
  have hold (v : Value) (hv : v.LiesIn heap) : v.LiesIn (heap.put made.1) := by
    refine hv.mono fun cell content hcell => ?_
    have hne : cell ≠ ⟨s.cells⟩ := by
      rintro rfl
      rw [h ⟨s.cells⟩ (Nat.le_refl _)] at hcell
      contradiction
    exact (if_neg hne).trans hcell
  refine ⟨fun cell hle => ?_, .mk (if_pos rfl) hnames fun v hv => hold v (hparts v hv), hold⟩
  have hlt : s.cells < cell.index := hle
  have hne : cell ≠ ⟨s.cells⟩ := by
    rintro rfl
    exact Nat.lt_irrefl _ hlt
  exact (if_neg hne).trans (h cell (Nat.le_of_lt hlt))

/-- The values have been put into new cells one after the other, the last one first in the list, and
each has inside it only values from before. -/
inductive Made : Supply → Heap → List Value → Prop
  | start : Made {} (fun _ => none) []
  | alloc {s : Supply} {heap : Heap} {values : List Value} {content : Content}
      (h : Made s heap values) (hnames : content.names.Nodup)
      (hparts : ∀ v ∈ content.parts, v ∈ values) :
      Made (s.alloc content).2 (heap.put (s.alloc content).1) ((s.alloc content).1 :: values)

/-- **All values that were made lie in one heap.** -/
theorem Made.fills {values : List Value} (h : Made s heap values) :
    s.Fills heap ∧ ∀ v ∈ values, v.LiesIn heap := by
  induction h with
  | start => exact ⟨fun _ _ => rfl, fun v hv => absurd hv List.not_mem_nil⟩
  | alloc _ hnames hparts ih =>
    obtain ⟨hfills, hlies⟩ := ih
    obtain ⟨hfills', hnew, hold⟩ := hfills.alloc hnames fun v hv => hlies v (hparts v hv)
    refine ⟨hfills', fun v hv => ?_⟩
    rcases List.mem_cons.1 hv with rfl | hv
    · exact hnew
    · exact hold v (hlies v hv)

end Supply

end ScriptHost
