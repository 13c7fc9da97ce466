/-
**Nothing is read out of bounds.**

A sheet reads the cells, the aggregates and the texts of a column by the number of a group and of a
record.  `ClusterReport.Sheet.recordsJson` and `ClusterReport.Sheet.rowLines?` take something else
where a list does not reach.  Here each of them is put beside a computation that fails instead, and
also where a remainder by zero would be taken.  On a sheet that is built from sources these never
fail, since every column, however deep in tuples, has one entry for each group, which is as long as
the group.

Main definitions:

* `ClusterReport.Sheet.Leaf.Fits`, `ClusterReport.Sheet.Prepared.Fits` — that a column, or every
  column of a field, has an entry for each group;
* `ClusterReport.Sheet.recordsJson?`, `ClusterReport.Sheet.checkedRowLines?` — the records and the
  lines of a sheet, or nothing if a list does not reach.

Main results:

* `ClusterReport.Sheet.Prepared.fits_prepare` — a field that is bound to some groups fits them;
* `ClusterReport.Sheet.Prepared.recordJson?_eq`, `ClusterReport.Sheet.RowLayout.line?_eq` — the
  record and the line of what fits are read within bounds;
* `ClusterReport.Sheet.isInBounds_build` — **a sheet that is built fits its groups, and neither its
  records nor its lines are read out of bounds**.
-/

import ClusterReport.Proofs.Sheet.RowStyle

set_option relaxedAutoImplicit false
set_option autoImplicit false

namespace ClusterReport.Sheet

open Text (Line Span)

/-! ### Lists -/

theorem mapM_eq_some_of_forall {α β : Type} {f : α → Option β} {g : α → β} {l : List α}
    (h : ∀ a ∈ l, f a = some (g a)) : l.mapM f = some (l.map g) := by
  induction l with
  | nil => rfl
  | cons a rest ih =>
      obtain ⟨ha, hrest⟩ := List.forall_mem_cons.1 h
      rw [List.mapM_cons, ha, ih hrest]
      rfl

theorem zip_map_self {α β : Type} (f : α → β) (l : List α) :
    l.zip (l.map f) = l.map fun a => (a, f a) := by
  induction l with
  | nil => rfl
  | cons a rest ih => rw [List.map_cons, List.zip_cons_cons, ih, List.map_cons]

theorem exists_of_map_eq {α : Type} {lists : List α} {length : α → Nat} {groups : List Group}
    (h : lists.map length = groups.map fun g => g.records.length) {group : Nat} {g : Group}
    (hg : groups[group]? = some g) :
    ∃ list, lists[group]? = some list ∧ length list = g.records.length := by
  have hlength : (lists.map length)[group]? = some g.records.length := by
    rw [h, List.getElem?_map, hg]
    rfl
  rwa [List.getElem?_map, Option.map_eq_some_iff] at hlength

/-! ### What fits some groups -/

/-- A column fits some groups: it has cells for each record of each group and an aggregate for each
group, and shows as much if it is visible, and nothing if it is hidden. -/
structure Leaf.Fits (groups : List Group) (l : Leaf) : Prop where
  cells_eq : l.cells.map List.length = groups.map fun g => g.records.length
  length_aggregates_eq : l.aggregates.length = groups.length
  shown_eq : l.hidden = false →
    (l.shown.map fun s => s.cells.length) = groups.map fun g => g.records.length
  shown_eq_nil : l.hidden = true → l.shown = []

/-- A column that is bound to some groups fits them. -/
theorem Leaf.fits_prepare (d : Declaration) (groups : List Group) (common : Json)
    (path : List String) (c : Column) : (Leaf.prepare d groups common path c).Fits groups where
  cells_eq := by
    simp only [prepare, List.map_map]
    refine List.map_congr_left fun g hg => ?_
    simp [cellsOf]
  length_aggregates_eq := length_aggregates d groups common path c
  shown_eq hvisible := by
    simp only [prepare] at hvisible ⊢
    rw [hvisible]
    simp only [Bool.false_eq_true, if_false, List.map_map]
    rw [List.zip_map', zip_map_self, List.map_map]
    refine List.map_congr_left fun g hg => ?_
    simp [showGroup, cellsOf]
  shown_eq_nil hhidden := by
    simp only [prepare] at hhidden ⊢
    rw [hhidden]
    rfl

namespace Prepared

mutual

/-- A bound field fits some groups if it has the shape of the declared one and its columns do. -/
inductive Fits (groups : List Group) : Field → Prepared → Prop
  | column {l : Leaf} (h : l.Fits groups) : Fits groups (.column l.column) (.leaf l)
  | tuple {key title : String} {hidden : Bool} {fields : List Field} {prepared : List Prepared}
      (h : FitAll groups fields prepared) :
      Fits groups (.tuple key title fields) (.tuple key title hidden prepared)

/-- Bound fields fit some groups if each of them does. -/
inductive FitAll (groups : List Group) : List Field → List Prepared → Prop
  | nil : FitAll groups [] []
  | cons {field : Field} {p : Prepared} {fields : List Field} {prepared : List Prepared}
      (h : Fits groups field p) (hrest : FitAll groups fields prepared) :
      FitAll groups (field :: fields) (p :: prepared)

end

section

variable (d : Declaration) (groups : List Group) (common : Json)

mutual

/-- A field that is bound to some groups fits them. -/
theorem fits_prepare (path : List String) :
    ∀ field : Field, Fits groups field (prepare d groups common path field)
  | .column c => .column (Leaf.fits_prepare d groups common path c)
  | .tuple key _ fields => .tuple (fitAll_prepareAll (path ++ [key]) fields)

/-- Fields that are bound to some groups fit them. -/
theorem fitAll_prepareAll (path : List String) :
    ∀ fields : List Field, FitAll groups fields (prepareAll d groups common path fields)
  | [] => .nil
  | field :: rest => .cons (fits_prepare path field) (fitAll_prepareAll path rest)

end

end

theorem FitAll.fits_of_leaf_mem {groups : List Group} {fields : List Field}
    {prepared : List Prepared} (h : FitAll groups fields prepared) {l : Leaf}
    (hl : .leaf l ∈ prepared) : l.Fits groups := by
  induction prepared generalizing fields with
  | nil => cases hl
  | cons p rest ih =>
      cases h with
      | cons hp hrest =>
          rcases List.mem_cons.1 hl with rfl | hl
          · cases hp with
            | column h => exact h
          · exact ih hrest hl

end Prepared

/-! ### Records -/

def Leaf.cell? (l : Leaf) (group entry : Nat) : Option (Cell Scalar) := do
  let cells ← l.cells[group]?
  cells[entry]?

namespace Prepared

mutual

/-- What a field holds for one record, or nothing if one of its columns has no cell for it. -/
def recordJson? (group entry : Nat) : Prepared → Option Json
  | leaf l => (l.cell? group entry).map (Cell.toJson Scalar.toJson)
  | tuple _ _ _ fields =>
    (visibleJson? group entry fields).map fun entries => .ofDict (.ofList entries)

/-- What the visible ones among some fields hold for one record, or nothing if a column has no cell
for it. -/
def visibleJson? (group entry : Nat) : List Prepared → Option (List (String × Json))
  | [] => some []
  | field :: rest =>
    if field.isHidden then visibleJson? group entry rest
    else do
      let json ← field.recordJson? group entry
      let more ← visibleJson? group entry rest
      return (field.key, json) :: more

end

end Prepared

/-- The visible fields of every record, or nothing if a column has no cell for one. -/
def recordsJson? (s : Sheet) : Option Json := do
  let records ← s.groups.zipIdx.mapM fun (g, group) =>
    (List.range g.records.length).mapM fun entry =>
      (Prepared.visibleJson? group entry s.fields).map fun entries => .ofDict (.ofList entries)
  return .array records.flatten

section

variable {groups : List Group} {group entry : Nat} {g : Group}

theorem Leaf.Fits.exists_cell {l : Leaf} (h : l.Fits groups) (hg : groups[group]? = some g)
    (hentry : entry < g.records.length) :
    ∃ cells cell, l.cells[group]? = some cells ∧ cells[entry]? = some cell := by
  obtain ⟨cells, hcells, hlength⟩ := exists_of_map_eq h.cells_eq hg
  exact ⟨cells, _, hcells, List.getElem?_eq_getElem (hlength ▸ hentry)⟩

theorem Leaf.Fits.cell?_eq {l : Leaf} (h : l.Fits groups) (hg : groups[group]? = some g)
    (hentry : entry < g.records.length) :
    l.cell? group entry =
      some ((l.cells[group]?.bind fun cells => cells[entry]?).getD .absent) := by
  obtain ⟨cells, cell, hcells, hcell⟩ := h.exists_cell hg hentry
  simp [cell?, hcells, hcell]

namespace Prepared

mutual

/-- What fits holds something for each record. -/
theorem recordJson?_eq (hg : groups[group]? = some g) (hentry : entry < g.records.length) :
    ∀ {field : Field} {p : Prepared}, Fits groups field p →
      p.recordJson? group entry = some (p.recordJson group entry)
  | _, .leaf l, .column h => by
      rw [recordJson?, h.cell?_eq hg hentry]
      rfl
  | _, .tuple _ _ _ fields, .tuple h => by
      rw [recordJson?, visibleJson?_eq hg hentry h]
      rfl

theorem visibleJson?_eq (hg : groups[group]? = some g) (hentry : entry < g.records.length) :
    ∀ {fields : List Field} {prepared : List Prepared}, FitAll groups fields prepared →
      visibleJson? group entry prepared = some (visibleJson group entry prepared)
  | _, [], .nil => rfl
  | _, p :: rest, .cons h hrest => by
      rw [visibleJson?, visibleJson, recordJson?_eq hg hentry h, visibleJson?_eq hg hentry hrest]
      split <;> rfl

end

end Prepared

/-- The records of a sheet that fits are read within bounds. -/
theorem recordsJson?_eq {s : Sheet} {fields : List Field}
    (h : Prepared.FitAll s.groups fields s.fields) : recordsJson? s = some s.recordsJson := by
  have hgroups := mapM_eq_some_of_forall (l := s.groups.zipIdx)
    (f := fun (g, group) => (List.range g.records.length).mapM fun entry =>
      (Prepared.visibleJson? group entry s.fields).map fun entries => Json.ofDict (.ofList entries))
    (g := fun (g, group) => (List.range g.records.length).map fun entry =>
      .ofDict (.ofList (Prepared.visibleJson group entry s.fields)))
    (fun (g, group) hmem => mapM_eq_some_of_forall fun entry hentry => by
      have hg : s.groups[group]? = some g := List.mem_zipIdx_iff_getElem?.1 hmem
      rw [Prepared.visibleJson?_eq hg (List.mem_range.1 hentry) h]
      rfl)
  rw [recordsJson?, hgroups, recordsJson, List.flatMap_def]
  rfl

end

/-! ### Lines -/

/-- What the column shows of a record of the first group, if it shows anything. -/
def Leaf.shownCell? (l : Leaf) (record : Nat) : Option ShownCell := do
  let shown ← l.shown[0]?
  shown.cells[record]?

/-- Whether the cell of a record of the first group is an error, if there is one. -/
def Leaf.entryIsError? (l : Leaf) (record : Nat) : Option Bool :=
  (l.cell? 0 record).map Cell.isError

/-- The text of the aggregate of the first group, if a column that is reduced has one. -/
def Leaf.aggregateText? (l : Leaf) : Option String :=
  if l.hasAggregate then do
    let _ ← l.aggregates[0]?
    let shown ← l.shown[0]?
    return shown.aggregate
  else some ""

/-- The width of the widest entry of each record, if every column shows one. -/
def widestEntries? (ls : List Leaf) (records : Nat) : Option (List Nat) :=
  (List.range records).mapM fun i =>
    (ls.mapM fun l : Leaf => (l.shownCell? i).map fun shown => shown.text.length).map widest

/-- The layout of the visible columns of a sheet, if every column shows an entry of each record. -/
def rowLayout? (s : Sheet) (o : RowOptions) (ls : List Leaf) : Option RowLayout := do
  let entryWidths ← widestEntries? ls s.recordCount
  return .ofWidths (widestTitle ls) entryWidths (widestAggregate ls) (ls.any Leaf.hasAggregate)
    s.declaration.separator o

namespace RowLayout

/-- The entry of a record, if the layout has a width for it and the column shows one. -/
def entrySpan? (r : RowLayout) (l : Leaf) (record : Nat) : Option Span := do
  let width ← r.entryWidths[record]?
  let isError ← l.entryIsError? record
  let shown ← l.shownCell? record
  return shownSpan l.column.align width isError shown

def span? (r : RowLayout) (l : Leaf) : Slot → Option Span
  | .title => some (r.titleSpan l)
  | .entry record => r.entrySpan? l record
  | .aggregate => l.aggregateText?.map fun _ => aggregateSpan l

def line? (r : RowLayout) (separator : String) (l : Leaf) : Option Line :=
  (r.slots.mapM (r.span? l)).map (Line.join (.bold separator))

end RowLayout

/-- The columns with the title fields before every so many of the others, unless these are
none. -/
def repeatTitles? (titleKeys : List String) (interval : Nat) (ls : List Leaf) :
    Option (List Leaf) :=
  if interval = 0 then none else some (repeatTitles titleKeys interval ls)

/-- The visible columns of a sheet in the order of their lines, if no remainder by zero is taken for
it. -/
def lineLeaves? (s : Sheet) (o : RowOptions) (ls : List Leaf) : Option (List Leaf) :=
  if o.repeatTitles then repeatTitles? s.declaration.titleKeys (max 1 (o.lines - 2)) ls else some ls

/-- The sheet as styled lines as long as no list is read where it does not reach. -/
def checkedRowLines? (s : Sheet) (o : RowOptions) :
    Option (Except RowError (Option (List Line))) :=
  match leaves s.visibleFields with
  | .error e => some (.error e)
  | .ok ls =>
    if ls.isEmpty then some (.ok none)
    else if s.groups.length ≠ 1 then some (.error (.groups s.groups.length))
    else do
      let layout ← s.rowLayout? o ls
      let rows ← s.lineLeaves? o ls
      let lines ← rows.mapM (layout.line? s.declaration.separator)
      return .ok (some
        (s.linesAbove (s.rowWidth layout (widestAggregate ls)) ++ lines ++ [countLine rows.length]))

section

variable {groups : List Group} {g : Group} {l : Leaf}

theorem Leaf.Fits.shownCell?_eq (h : l.Fits groups) (hvisible : l.hidden = false)
    (hg : groups[0]? = some g) {record : Nat} (hrecord : record < g.records.length) :
    l.shownCell? record = some (l.entry record) := by
  obtain ⟨shown, hshown, hlength⟩ := exists_of_map_eq (h.shown_eq hvisible) hg
  have hcell : shown.cells[record]? = some shown.cells[record] :=
    List.getElem?_eq_getElem (hlength ▸ hrecord)
  simp [shownCell?, entry, List.head?_eq_getElem?, hshown, hcell]

theorem Leaf.Fits.entryIsError?_eq (h : l.Fits groups) (hg : groups[0]? = some g) {record : Nat}
    (hrecord : record < g.records.length) :
    l.entryIsError? record = some (l.entryIsError record) := by
  obtain ⟨cells, cell, hcells, hcell⟩ := h.exists_cell hg hrecord
  simp [entryIsError?, entryIsError, cell?, List.head?_eq_getElem?, hcells, hcell]

theorem Leaf.Fits.aggregateText?_eq (h : l.Fits groups) (hvisible : l.hidden = false)
    (hg : groups[0]? = some g) : l.aggregateText? = some l.aggregateText := by
  obtain ⟨shown, hshown, -⟩ := exists_of_map_eq (h.shown_eq hvisible) hg
  have hpos : 0 < l.aggregates.length := by
    rw [h.length_aggregates_eq]
    exact (List.getElem?_eq_some_iff.1 hg).1
  have haggregate : l.aggregates[0]? = some l.aggregates[0] := List.getElem?_eq_getElem hpos
  unfold aggregateText? aggregateText
  split
  · simp [haggregate, hshown, List.head?_eq_getElem?]
  · rfl

end

section

variable {s : Sheet} {g : Group} {ls : List Leaf} (o : RowOptions)

theorem recordCount_eq (hgroups : s.groups = [g]) : s.recordCount = g.records.length := by
  rw [recordCount, hgroups]
  simp

theorem length_entryWidths_rowLayout (s : Sheet) (o : RowOptions) (ls : List Leaf) :
    (s.rowLayout o ls).entryWidths.length = s.recordCount := by
  show (widestEntries ls s.recordCount).length = s.recordCount
  rw [widestEntries, List.length_map, List.length_range]

theorem rowLayout?_eq (hgroups : s.groups = [g])
    (hls : ∀ l ∈ ls, l.Fits s.groups ∧ l.hidden = false) :
    s.rowLayout? o ls = some (s.rowLayout o ls) := by
  have hwidths : widestEntries? ls s.recordCount = some (widestEntries ls s.recordCount) := by
    refine mapM_eq_some_of_forall fun i hi => ?_
    rw [mapM_eq_some_of_forall (g := fun l => (l.entry i).text.length) fun l hl => ?_]
    · rfl
    · obtain ⟨hfits, hvisible⟩ := hls l hl
      rw [recordCount_eq hgroups, List.mem_range] at hi
      rw [hfits.shownCell?_eq hvisible (by rw [hgroups]; rfl) hi]
      rfl
  rw [rowLayout?, hwidths]
  rfl

/-- The line of a visible column that fits is read within bounds. -/
theorem RowLayout.line?_eq (hgroups : s.groups = [g]) {l : Leaf} (hfits : l.Fits s.groups)
    (hvisible : l.hidden = false) (separator : String) :
    (s.rowLayout o ls).line? separator l = some ((s.rowLayout o ls).line separator l) := by
  have hg : s.groups[0]? = some g := by
    rw [hgroups]
    rfl
  have hspan : ∀ slot ∈ (s.rowLayout o ls).slots,
      (s.rowLayout o ls).span? l slot = some ((s.rowLayout o ls).span l slot) := by
    intro slot hslot
    cases slot with
    | title => rfl
    | entry record =>
        have hcounted : record < s.recordCount := lt_recordCount_of_entry_mem_slots hslot
        have hrecord : record < g.records.length := recordCount_eq hgroups ▸ hcounted
        have hwidth : record < (s.rowLayout o ls).entryWidths.length := by
          rwa [length_entryWidths_rowLayout]
        simp [span?, span, entrySpan?, entrySpan, hwidth, hfits.entryIsError?_eq hg hrecord,
          hfits.shownCell?_eq hvisible hg hrecord]
    | aggregate =>
        rw [span?, hfits.aggregateText?_eq hvisible hg]
        rfl
  rw [line?, mapM_eq_some_of_forall hspan]
  rfl

theorem lineLeaves?_eq : s.lineLeaves? o ls = some (s.lineLeaves o ls) := by
  have hinterval : max 1 (o.lines - 2) ≠ 0 := by omega
  unfold lineLeaves? lineLeaves
  split
  · exact if_neg hinterval
  · rfl

theorem checkedRowLines?_eq {fields : List Field} (h : Prepared.FitAll s.groups fields s.fields) :
    s.checkedRowLines? o = some (rowLines? s o) := by
  unfold checkedRowLines?
  cases hleaves : leaves s.visibleFields with
  | error e =>
      rw [rowLines?, hleaves]
      rfl
  | ok ls =>
      by_cases hempty : ls = []
      · rw [rowLines?, hleaves, hempty]
        rfl
      by_cases hgroup : s.groups.length = 1
      · obtain ⟨g, hgroups⟩ := List.length_eq_one_iff.1 hgroup
        have hls : ∀ l ∈ ls, l.Fits s.groups ∧ l.hidden = false := by
          intro l hl
          obtain ⟨hmem, hshown⟩ := List.mem_filter.1 (leaf_mem_of_leaves hleaves hl)
          exact ⟨h.fits_of_leaf_mem hmem, by simpa [Prepared.isHidden] using hshown⟩
        have hlines : (s.lineLeaves o ls).mapM
            ((s.rowLayout o ls).line? s.declaration.separator) =
              some ((s.lineLeaves o ls).map ((s.rowLayout o ls).line s.declaration.separator)) :=
          mapM_eq_some_of_forall fun l hl =>
            have hl := hls l (mem_of_mem_lineLeaves hl)
            RowLayout.line?_eq o hgroups hl.1 hl.2 _
        rw [rowLines?_of_leaves hleaves hempty hgroup]
        simp [hempty, hgroup, rowLayout?_eq o hgroups hls, lineLeaves?_eq, hlines]
      · rw [rowLines?_of_groups hleaves hempty hgroup]
        simp [hempty, hgroup]

end

/-! ### Sheets that are built -/

/-- Nothing of a sheet is read out of bounds: its fields, which are the declared ones, fit its
groups, and its records and its lines can be read. -/
structure IsInBounds (s : Sheet) : Prop where
  fits : Prepared.FitAll s.groups s.declaration.fields s.fields
  recordsJson_eq : s.recordsJson? = some s.recordsJson
  rowLines_eq : ∀ o, s.checkedRowLines? o = some (rowLines? s o)

/-- **A sheet that is built fits its groups, and neither its records nor its lines are read out of
bounds**, for every declaration, all sources and any options. -/
theorem isInBounds_build (d : Declaration) (title : String) (description : Option String)
    (sources : Sources) (common : Json) :
    IsInBounds { build d title sources common with description } := by
  have hfits : Prepared.FitAll (build d title sources common).groups d.fields
      (build d title sources common).fields := Prepared.fitAll_prepareAll _ _ _ _ _
  exact ⟨hfits, recordsJson?_eq hfits, fun o => checkedRowLines?_eq o hfits⟩

end ClusterReport.Sheet
