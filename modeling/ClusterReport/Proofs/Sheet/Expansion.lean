/-
**What expanding sources does to the rows of a sheet.**

Every source that is expanded multiplies the rows by the entries of the map that it reported for
their key.  After several sources a row is told apart from the others by its choice: its key, and
for every expanded source the key of the entry it is bound to, or an empty slot where the source
had no map to choose from.  The rows are one for each choice, in the lexicographic order of the
choices, and each row holds what its choice says; a source that is not expanded still holds what it
reported.

Main definitions:

* `ClusterReport.Sheet.reported` — what a source reported for a row key;
* `ClusterReport.Sheet.ExpandsTo` — what a row may be bound to, and what it then holds;
* `ClusterReport.Sheet.SourceRow.choice` — the key of a row and its slots;
* `ClusterReport.Sheet.IsExpansion` — rows that are one for each choice.

Main results:

* `ClusterReport.Sheet.SourceRow.expandsTo_of_mem_expand`, `get_of_mem_expand` — what expanding one
  source does to this source, and that it leaves the other ones alone;
* `ClusterReport.Sheet.SourceRow.pairwise_slots_expandAll`, `mem_slots_expandAll_iff` — the slots of
  the rows that a row becomes;
* `ClusterReport.Sheet.sourceRows_eq` — the rows of a sheet row by row;
* `ClusterReport.Sheet.isExpansion_sourceRows` — **expanding distinct sources gives one row for each
  choice**.
-/

import ClusterReport.Proofs.Dict.Lookup
import ClusterReport.Sheet.Source
import Mathlib.Data.List.Forall2

set_option relaxedAutoImplicit false
set_option autoImplicit false

namespace ClusterReport.Sheet

/-! ### Choices -/

/-- What a source reported for a row key; nothing if the source is unknown or lacks the key. -/
def reported (sources : Sources) (key source : String) : Cell Json :=
  ((sources.get? source).bind fun rows => rows.get? key).getD .absent

/-- What expanding a source makes of the cell that it reported: the slot that a row is bound to, and
the cell that the row then holds for the source.  A map gives one slot for every entry, named by the
key of the entry; anything else gives one empty slot. -/
inductive ExpandsTo (source : String) : Cell Json → Option String → Cell Json → Prop
  | entry {document : Json} {map : Dict Json} {key : String} {value : Json}
      (hmap : document.toDict? = some map) (hvalue : map.get? key = some value) :
      ExpandsTo source (.value document) (some key) (.value value)
  | refused {document : Json} (hmap : document.toDict? = none) :
      ExpandsTo source (.value document) none (.error (source ++ " cannot be expanded"))
  | kept {cell : Cell Json} (hcell : cell.isValue = false) : ExpandsTo source cell none cell

/-- The slots that a row is bound to for some sources. -/
def SourceRow.slots (expanded : List String) (row : SourceRow) : List (Option String) :=
  expanded.map row.boundKey?

/-- The key of a row and its slots for some sources. -/
def SourceRow.choice (expanded : List String) (row : SourceRow) : String × List (Option String) :=
  (row.key, row.slots expanded)

/-- A row key that occurs in some source, with a slot for every expanded source. -/
def IsChoice (sources : Sources) (expanded : List String)
    (choice : String × List (Option String)) : Prop :=
  (∃ source rows cell, sources.get? source = some rows ∧ rows.get? choice.1 = some cell) ∧
    List.Forall₂
      (fun source slot => ∃ cell, ExpandsTo source (reported sources choice.1 source) slot cell)
      expanded choice.2

/-- Rows that are one for each choice, in the lexicographic order of the choices, and that hold
what their choices say. -/
structure IsExpansion (sources : Sources) (expanded : List String) (rows : List SourceRow) :
    Prop where
  increasing : (rows.map (SourceRow.choice expanded)).Pairwise (Prod.Lex (· < ·) (· < ·))
  exhaustive : ∀ choice,
    choice ∈ rows.map (SourceRow.choice expanded) ↔ IsChoice sources expanded choice
  chosen : ∀ row ∈ rows, ∀ source ∈ expanded,
    ExpandsTo source (reported sources row.key source) (row.boundKey? source) (row.get source)
  others : ∀ row ∈ rows, ∀ source, source ∉ expanded →
    row.boundKey? source = none ∧ row.get source = reported sources row.key source

/-! ### One source -/

namespace SourceRow

@[simp] theorem get_set (row : SourceRow) (source other : String) (cell : Cell Json) :
    (row.set source cell).get other = if other = source then cell else row.get other := by
  unfold get set
  rw [Dict.get?_insert]
  split <;> rfl

@[simp] theorem boundKey?_set (row : SourceRow) (source other : String) (cell : Cell Json) :
    (row.set source cell).boundKey? other = row.boundKey? other := rfl

@[simp] theorem get_bind (row : SourceRow) (source key other : String) (value : Json) :
    (row.bind source key value).get other =
      if other = source then .value value else row.get other :=
  get_set row source other (.value value)

@[simp] theorem boundKey?_bind (row : SourceRow) (source key other : String) (value : Json) :
    (row.bind source key value).boundKey? other =
      if other = source then some key else row.boundKey? other :=
  Dict.get?_insert row.bound source other key

theorem expand_eq (source : String) (row : SourceRow) :
    row.expand source =
      match row.get source with
      | .value document =>
        match document.toDict? with
        | some map => map.entries.map fun e => row.bind source e.1 e.2
        | none => [row.set source (.error (source ++ " cannot be expanded"))]
      | _ => [row] := by
  unfold expand get
  cases row.entries.get? source with
  | none => rfl
  | some cell => cases cell <;> rfl

/-- Expanding a source leaves the other sources alone. -/
theorem get_of_mem_expand {source other : String} (hne : other ≠ source) {row sub : SourceRow}
    (h : sub ∈ row.expand source) :
    sub.get other = row.get other ∧ sub.boundKey? other = row.boundKey? other := by
  rw [expand_eq] at h
  split at h
  · split at h
    · obtain ⟨e, -, rfl⟩ := List.mem_map.1 h
      exact ⟨by simp [hne], by simp [hne]⟩
    · rw [List.mem_singleton.1 h]
      exact ⟨by simp [hne], rfl⟩
  · rw [List.mem_singleton.1 h]
    exact ⟨rfl, rfl⟩

/-- Expanding a source binds a row that was not bound before. -/
theorem expandsTo_of_mem_expand {source : String} {row sub : SourceRow}
    (hfree : row.boundKey? source = none) (h : sub ∈ row.expand source) :
    ExpandsTo source (row.get source) (sub.boundKey? source) (sub.get source) := by
  rw [expand_eq] at h
  split at h
  case h_1 document hdocument =>
    rw [hdocument]
    split at h
    case h_1 map hmap =>
      obtain ⟨⟨key, value⟩, he, rfl⟩ := List.mem_map.1 h
      simpa using ExpandsTo.entry hmap (Dict.mem_entries_iff.1 he)
    case h_2 hmap =>
      rw [List.mem_singleton.1 h]
      simpa [hfree] using ExpandsTo.refused hmap
  case h_2 hcell =>
    rw [List.mem_singleton.1 h, hfree]
    refine .kept ?_
    cases hget : row.get source with
    | value document => exact absurd hget (hcell document)
    | absent => rfl
    | error cause => rfl

theorem exists_mem_expand {source : String} {row : SourceRow} (hfree : row.boundKey? source = none)
    {slot : Option String} {cell : Cell Json} (h : ExpandsTo source (row.get source) slot cell) :
    ∃ sub ∈ row.expand source, sub.boundKey? source = slot := by
  rw [expand_eq]
  generalize row.get source = reported at h
  cases h with
  | @entry document map key value hmap hvalue =>
      refine ⟨row.bind source key value, ?_, by simp⟩
      simp only [hmap]
      exact List.mem_map.2 ⟨(key, value), Dict.mem_entries_iff.2 hvalue, rfl⟩
  | refused hmap =>
      refine ⟨row.set source (.error (source ++ " cannot be expanded")), ?_, hfree⟩
      simp only [hmap, List.mem_singleton]
  | kept hcell =>
      refine ⟨row, ?_, hfree⟩
      cases cell with
      | value document => cases hcell
      | absent => exact List.mem_singleton.2 rfl
      | error cause => exact List.mem_singleton.2 rfl

theorem pairwise_expand (source : String) (row : SourceRow) :
    (row.expand source).Pairwise fun a b => a.boundKey? source < b.boundKey? source := by
  rw [expand_eq]
  split
  · split
    · rename_i map _
      rw [List.pairwise_map]
      refine map.sorted.imp fun {a b} hlt => ?_
      simpa using hlt
    · exact List.pairwise_singleton _ _
  · exact List.pairwise_singleton _ _

/-! ### Several sources -/

/-- The rows that a row becomes when several sources are expanded in turn. -/
def expandAll : List String → SourceRow → List SourceRow
  | [], row => [row]
  | source :: rest, row => (row.expand source).flatMap (expandAll rest)

theorem expandAll_cons (source : String) (rest : List String) (row : SourceRow) :
    row.expandAll (source :: rest) = (row.expand source).flatMap (expandAll rest) := rfl

theorem key_of_mem_expandAll {expanded : List String} {row sub : SourceRow}
    (h : sub ∈ row.expandAll expanded) : sub.key = row.key := by
  induction expanded generalizing row with
  | nil => rw [List.mem_singleton.1 h]
  | cons source rest ih =>
      obtain ⟨mid, hmid, hsub⟩ := List.mem_flatMap.1 h
      exact (ih hsub).trans (key_of_mem_expand hmid)

theorem get_of_mem_expandAll {expanded : List String} {other : String} (hother : other ∉ expanded)
    {row sub : SourceRow} (h : sub ∈ row.expandAll expanded) :
    sub.get other = row.get other ∧ sub.boundKey? other = row.boundKey? other := by
  induction expanded generalizing row with
  | nil => rw [List.mem_singleton.1 h]; exact ⟨rfl, rfl⟩
  | cons source rest ih =>
      obtain ⟨hne, hrest⟩ := not_or.1 (mt List.mem_cons.2 hother)
      obtain ⟨mid, hmid, hsub⟩ := List.mem_flatMap.1 h
      obtain ⟨hget, hbound⟩ := get_of_mem_expand hne hmid
      obtain ⟨hget', hbound'⟩ := ih hrest hsub
      exact ⟨hget'.trans hget, hbound'.trans hbound⟩

/-- A row that is not bound to some sources and holds what they reported. -/
def IsUnbound (report : String → Cell Json) (expanded : List String) (row : SourceRow) : Prop :=
  ∀ source ∈ expanded, row.get source = report source ∧ row.boundKey? source = none

theorem IsUnbound.of_mem_expand {report : String → Cell Json} {first : String} {rest : List String}
    {row mid : SourceRow} (h : row.IsUnbound report (first :: rest)) (hfirst : first ∉ rest)
    (hmid : mid ∈ row.expand first) : mid.IsUnbound report rest := by
  intro source hsource
  have hne : source ≠ first := fun heq => hfirst (heq ▸ hsource)
  obtain ⟨hget, hbound⟩ := get_of_mem_expand hne hmid
  obtain ⟨hget', hbound'⟩ := h source (List.mem_cons_of_mem _ hsource)
  exact ⟨hget.trans hget', hbound.trans hbound'⟩

variable {report : String → Cell Json} {expanded : List String} {row : SourceRow}

theorem expandsTo_of_mem_expandAll (hdistinct : expanded.Nodup)
    (hrow : row.IsUnbound report expanded) {sub : SourceRow} (h : sub ∈ row.expandAll expanded)
    {source : String} (hsource : source ∈ expanded) :
    ExpandsTo source (report source) (sub.boundKey? source) (sub.get source) := by
  induction expanded generalizing row with
  | nil => cases hsource
  | cons first rest ih =>
      obtain ⟨hfirst, hrest⟩ := List.nodup_cons.1 hdistinct
      obtain ⟨mid, hmid, hsub⟩ := List.mem_flatMap.1 h
      rcases List.mem_cons.1 hsource with rfl | hsource
      · -- the later sources leave alone what this one was bound to
        obtain ⟨hget, hbound⟩ := get_of_mem_expandAll hfirst hsub
        obtain ⟨hreport, hfree⟩ := hrow source List.mem_cons_self
        rw [hget, hbound, ← hreport]
        exact expandsTo_of_mem_expand hfree hmid
      · exact ih hrest (hrow.of_mem_expand hfirst hmid) hsub hsource

/-- The slot of the first source is settled before the later ones are expanded. -/
theorem slots_cons_of_mem {first : String} {rest : List String} (hfirst : first ∉ rest)
    {mid sub : SourceRow} (hsub : sub ∈ mid.expandAll rest) :
    sub.slots (first :: rest) = mid.boundKey? first :: sub.slots rest := by
  rw [slots, List.map_cons, (get_of_mem_expandAll hfirst hsub).2, slots]

/-- The rows that a row becomes stand in the lexicographic order of their slots. -/
theorem pairwise_slots_expandAll (hdistinct : expanded.Nodup) :
    (row.expandAll expanded).Pairwise fun a b => a.slots expanded < b.slots expanded := by
  induction expanded generalizing row with
  | nil => exact List.pairwise_singleton _ _
  | cons source rest ih =>
      obtain ⟨hsource, hrest⟩ := List.nodup_cons.1 hdistinct
      rw [expandAll_cons, List.pairwise_flatMap]
      refine ⟨fun mid _ => (ih hrest).imp_of_mem fun {a b} ha hb hlt => ?_,
        (pairwise_expand source row).imp fun {mid mid'} hlt a ha b hb => ?_⟩
      · rw [slots_cons_of_mem hsource ha, slots_cons_of_mem hsource hb]
        exact List.cons_lt_cons_iff.2 (.inr ⟨rfl, hlt⟩)
      · rw [slots_cons_of_mem hsource ha, slots_cons_of_mem hsource hb]
        exact List.cons_lt_cons_iff.2 (.inl hlt)

/-- Expanding several sources binds a row to every combination of slots there is, and to no
other. -/
theorem mem_slots_expandAll_iff (hdistinct : expanded.Nodup)
    (hrow : row.IsUnbound report expanded) {choice : List (Option String)} :
    choice ∈ (row.expandAll expanded).map (slots expanded) ↔
      List.Forall₂ (fun source slot => ∃ cell, ExpandsTo source (report source) slot cell)
        expanded choice := by
  constructor
  · intro h
    obtain ⟨sub, hsub, rfl⟩ := List.mem_map.1 h
    rw [slots, List.forall₂_map_right_iff, List.forall₂_same]
    exact fun source hsource => ⟨_, expandsTo_of_mem_expandAll hdistinct hrow hsub hsource⟩
  · intro h
    induction expanded generalizing row choice with
    | nil =>
        rw [List.forall₂_nil_left_iff.1 h]
        exact List.mem_singleton.2 rfl
    | cons first rest ih =>
        obtain ⟨hfirst, hrest⟩ := List.nodup_cons.1 hdistinct
        obtain ⟨slot, choice, ⟨cell, hslot⟩, hchoice, rfl⟩ := List.forall₂_cons_left_iff.1 h
        obtain ⟨hreport, hfree⟩ := hrow first List.mem_cons_self
        obtain ⟨mid, hmid, rfl⟩ := exists_mem_expand hfree (hreport ▸ hslot)
        obtain ⟨sub, hsub, rfl⟩ :=
          List.mem_map.1 (ih hrest (hrow.of_mem_expand hfirst hmid) hchoice)
        refine List.mem_map.2 ⟨sub, List.mem_flatMap.2 ⟨mid, hmid, hsub⟩, ?_⟩
        rw [slots_cons_of_mem hfirst hsub]

end SourceRow

/-! ### All rows -/

/-- The rows of some sources are those that the merged rows become. -/
theorem sourceRows_eq (sources : Sources) (expanded : List String) :
    sourceRows sources expanded =
      (mergeSources sources).flatMap (SourceRow.expandAll expanded) := by
  unfold sourceRows
  generalize mergeSources sources = rows
  induction expanded generalizing rows with
  | nil => exact (List.flatMap_singleton' rows).symm
  | cons source rest ih =>
      rw [List.foldl_cons, ih, List.flatMap_assoc]
      rfl

theorem sourceRows_singleton (sources : Sources) (source : String) :
    sourceRows sources [source] = (mergeSources sources).flatMap (SourceRow.expand source) := rfl

theorem mem_rowKeys_iff {sources : Sources} {key : String} :
    key ∈ rowKeys sources ↔
      ∃ source rows cell, sources.get? source = some rows ∧ rows.get? key = some cell := by
  simp only [rowKeys, Dict.mem_keys_ofList, List.map_flatMap, List.map_map, List.mem_flatMap,
    List.mem_map, Function.comp_apply, Dict.values]
  constructor
  · rintro ⟨rows, ⟨⟨source, rows'⟩, hrows, rfl⟩, key', hkey, rfl⟩
    obtain ⟨cell, hcell⟩ := Dict.mem_keys_iff.1 hkey
    exact ⟨source, rows', cell, Dict.mem_entries_iff.1 hrows, hcell⟩
  · rintro ⟨source, rows, cell, hrows, hcell⟩
    exact ⟨rows, ⟨(source, rows), Dict.mem_entries_iff.2 hrows, rfl⟩, key,
      Dict.mem_keys_iff.2 ⟨cell, hcell⟩, rfl⟩

theorem pairwise_rowKeys (sources : Sources) : (rowKeys sources).Pairwise (· < ·) :=
  Dict.pairwise_keys _

theorem isUnbound_of_mem_mergeSources {sources : Sources} {row : SourceRow}
    (h : row ∈ mergeSources sources) (names : List String) :
    row.IsUnbound (reported sources row.key) names := by
  intro source _
  obtain ⟨key, -, rfl⟩ := List.mem_map.1 h
  refine ⟨?_, rfl⟩
  rw [SourceRow.get, reported, Dict.get?_map]
  cases sources.get? source with
  | none => rfl
  | some rows => rfl

variable {sources : Sources} {expanded : List String}

/-- The rows stand in the lexicographic order of their choices. -/
theorem pairwise_choice_sourceRows (hdistinct : expanded.Nodup) :
    (sourceRows sources expanded).Pairwise fun a b =>
      Prod.Lex (· < ·) (· < ·) (a.choice expanded) (b.choice expanded) := by
  have hkeys : (mergeSources sources).Pairwise fun a b => a.key < b.key := by
    rw [← List.pairwise_map (f := SourceRow.key), map_key_mergeSources]
    exact pairwise_rowKeys sources
  rw [sourceRows_eq, List.pairwise_flatMap]
  -- rows of one key are told apart by their slots, and the others by their keys
  refine ⟨fun row _ => ?_, hkeys.imp fun {row row'} hlt a ha b hb => ?_⟩
  · refine (SourceRow.pairwise_slots_expandAll hdistinct).imp_of_mem fun {a b} ha hb hlt => ?_
    rw [SourceRow.choice, SourceRow.choice, SourceRow.key_of_mem_expandAll ha,
      SourceRow.key_of_mem_expandAll hb]
    exact Prod.Lex.right _ hlt
  · refine Prod.Lex.left _ _ ?_
    rwa [SourceRow.key_of_mem_expandAll ha, SourceRow.key_of_mem_expandAll hb]

theorem mem_choice_sourceRows_iff (hdistinct : expanded.Nodup)
    {choice : String × List (Option String)} :
    choice ∈ (sourceRows sources expanded).map (SourceRow.choice expanded) ↔
      IsChoice sources expanded choice := by
  obtain ⟨key, slots⟩ := choice
  rw [IsChoice, ← mem_rowKeys_iff, ← map_key_mergeSources, sourceRows_eq]
  constructor
  · intro h
    obtain ⟨sub, hsub, heq⟩ := List.mem_map.1 h
    obtain ⟨row, hrow, hsub⟩ := List.mem_flatMap.1 hsub
    obtain ⟨rfl, rfl⟩ := Prod.mk.inj heq
    have hkey : row.key = sub.key := (SourceRow.key_of_mem_expandAll hsub).symm
    refine ⟨List.mem_map.2 ⟨row, hrow, hkey⟩, ?_⟩
    have hunbound := isUnbound_of_mem_mergeSources hrow expanded
    rw [hkey] at hunbound
    exact (SourceRow.mem_slots_expandAll_iff hdistinct hunbound).1
      (List.mem_map.2 ⟨sub, hsub, rfl⟩)
  · rintro ⟨hkey, hslots⟩
    obtain ⟨row, hrow, rfl⟩ := List.mem_map.1 hkey
    have hunbound := isUnbound_of_mem_mergeSources hrow expanded
    obtain ⟨sub, hsub, rfl⟩ :=
      List.mem_map.1 ((SourceRow.mem_slots_expandAll_iff hdistinct hunbound).2 hslots)
    refine List.mem_map.2 ⟨sub, List.mem_flatMap.2 ⟨row, hrow, hsub⟩, ?_⟩
    rw [SourceRow.choice, SourceRow.key_of_mem_expandAll hsub]

/-- **Expanding distinct sources gives one row for each choice.** -/
theorem isExpansion_sourceRows (sources : Sources) {expanded : List String}
    (hdistinct : expanded.Nodup) :
    IsExpansion sources expanded (sourceRows sources expanded) where
  increasing := List.pairwise_map.2 (pairwise_choice_sourceRows hdistinct)
  exhaustive _ := mem_choice_sourceRows_iff hdistinct
  chosen sub hsub source hsource := by
    rw [sourceRows_eq] at hsub
    obtain ⟨row, hrow, hsub⟩ := List.mem_flatMap.1 hsub
    rw [SourceRow.key_of_mem_expandAll hsub]
    exact SourceRow.expandsTo_of_mem_expandAll hdistinct
      (isUnbound_of_mem_mergeSources hrow expanded) hsub hsource
  others sub hsub source hsource := by
    rw [sourceRows_eq] at hsub
    obtain ⟨row, hrow, hsub⟩ := List.mem_flatMap.1 hsub
    obtain ⟨hget, hbound⟩ := SourceRow.get_of_mem_expandAll hsource hsub
    obtain ⟨hreport, hfree⟩ :=
      isUnbound_of_mem_mergeSources hrow [source] source (List.mem_singleton.2 rfl)
    rw [hget, hbound, SourceRow.key_of_mem_expandAll hsub]
    exact ⟨hfree, hreport⟩

/-- Two sources of which the second one failed for one row and reported nothing for another. -/
def partlyFailedSources : Sources :=
  .ofList [
    ("sets", .ofList [("n1", .value (.object [("b", .int 2), ("a", .int 1)])),
      ("n2", .value (.int 5)), ("n3", .value (.object []))]),
    ("jobs", .ofList [("n1", .value (.object [("x", .null), ("y", .null)])),
      ("n2", .error "timeout")])]

/-- A map of two entries beside another one gives four rows, a number and a failure give one, and
an empty map gives none. -/
theorem isExpansion_partlyFailedSources :
    ["sets", "jobs"].Nodup ∧
      IsExpansion partlyFailedSources ["sets", "jobs"]
        (sourceRows partlyFailedSources ["sets", "jobs"]) ∧
      (sourceRows partlyFailedSources ["sets", "jobs"]).map (SourceRow.choice ["sets", "jobs"]) =
        [("n1", [some "a", some "x"]), ("n1", [some "a", some "y"]),
          ("n1", [some "b", some "x"]), ("n1", [some "b", some "y"]), ("n2", [none, none])] :=
  ⟨by decide, isExpansion_sourceRows partlyFailedSources (by decide), by decide⟩

end ClusterReport.Sheet
