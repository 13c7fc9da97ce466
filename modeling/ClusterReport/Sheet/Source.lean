/-
**Sources of a sheet.**

A sheet is made of named sources, each of which reported something for some row keys.  The rows of
a sheet are the row keys that occur in any source, in order, and a source that has nothing for a
row is absent from it.  A source whose entries are maps can be expanded: each row then becomes one
row for every entry of the map, bound to that entry by its key.

Main definitions:

* `ClusterReport.Sheet.Sources` — what every source reported by row key;
* `ClusterReport.Sheet.SourceRow` — one row over all sources;
* `ClusterReport.Sheet.mergeSources` — the rows of some sources;
* `ClusterReport.Sheet.SourceRow.expand` — the rows that a row becomes for the entries of a source;
* `ClusterReport.Sheet.sourceRows` — the rows after expanding several sources in turn.

Main results:

* `ClusterReport.Sheet.map_key_mergeSources` — the merged rows carry the row keys, in order;
* `ClusterReport.Sheet.SourceRow.key_of_mem_expand` — expanding a row keeps its key.
-/

import ClusterReport.Cell

set_option relaxedAutoImplicit false
set_option autoImplicit false

namespace ClusterReport.Sheet

/-- What every source reported, by source and row key. -/
abbrev Sources := Dict (Dict (Cell Json))

/-- One row: what every source reported for it, and the entry that each expanded source is bound
to. -/
structure SourceRow where
  key : String
  entries : Dict (Cell Json) := .empty
  bound : Dict String := .empty

namespace SourceRow

/-- What a source reported for the row; an unknown source is absent. -/
def get (row : SourceRow) (source : String) : Cell Json := (row.entries.get? source).getD .absent

/-- The key of the entry that an expanded source is bound to. -/
def boundKey? (row : SourceRow) (source : String) : Option String := row.bound.get? source

def set (row : SourceRow) (source : String) (cell : Cell Json) : SourceRow :=
  { row with entries := row.entries.insert source cell }

/-- The row bound to one entry of what a source reported. -/
def bind (row : SourceRow) (source key : String) (value : Json) : SourceRow :=
  { row.set source (.value value) with bound := row.bound.insert source key }

/-- One row for every entry of the map that a source reported.  Anything but a map is an error,
and a source that reported nothing or failed leaves the row as it is. -/
def expand (source : String) (row : SourceRow) : List SourceRow :=
  match row.entries.get? source with
  | some (.value reported) =>
    match reported.toDict? with
    | some map => map.entries.map fun e => row.bind source e.1 e.2
    | none => [row.set source (.error (source ++ " cannot be expanded"))]
  | _ => [row]

@[simp] theorem key_set (row : SourceRow) (source : String) (cell : Cell Json) :
    (row.set source cell).key = row.key := rfl

/-- Expanding a row keeps its key. -/
theorem key_of_mem_expand {source : String} {row sub : SourceRow} (h : sub ∈ row.expand source) :
    sub.key = row.key := by
  unfold expand at h
  split at h
  · split at h
    · obtain ⟨e, _, rfl⟩ := List.mem_map.mp h
      rfl
    · rw [List.mem_singleton.mp h, key_set]
  · rw [List.mem_singleton.mp h]

end SourceRow

def rowKeys (sources : Sources) : List String :=
  (Dict.ofList (sources.values.flatMap fun rows => rows.keys.map fun key => (key, ()))).keys

/-- One row for every row key of some sources. -/
def mergeSources (sources : Sources) : List SourceRow :=
  (rowKeys sources).map fun key =>
    { key, entries := sources.map fun _ rows => (rows.get? key).getD .absent }

/-- The merged rows carry the row keys, in order. -/
@[simp] theorem map_key_mergeSources (sources : Sources) :
    (mergeSources sources).map SourceRow.key = rowKeys sources := by
  simp [mergeSources, Function.comp_def]

/-- The rows of some sources after expanding the given ones in turn. -/
def sourceRows (sources : Sources) (expanded : List String) : List SourceRow :=
  expanded.foldl (fun rows source => rows.flatMap (SourceRow.expand source)) (mergeSources sources)

end ClusterReport.Sheet
