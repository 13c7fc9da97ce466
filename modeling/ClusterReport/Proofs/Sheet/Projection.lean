/-
**What projectors find and records keep.**

A record has for every column what the projector of the column finds in the row.  Many projectors
need the attributes that one source reported for the row: where the source has none, each of these
projectors finds nothing, and for the very reason that the source has none.

Main definitions:

* `ClusterReport.Sheet.Missing.cell` — the reason why there is no value, as a cell;
* `ClusterReport.Sheet.Projector.Needs` — the projectors that need the attributes of a source;
* `ClusterReport.Sheet.Projector.asTaken` — what written attributes are taken for.

Main results:

* `ClusterReport.Sheet.Record.cell_project` — a record has what the projectors find;
* `ClusterReport.Sheet.Projector.Needs.cell_eq` — **what is found where there are no attributes**;
* `ClusterReport.Sheet.Projector.needs_reading`, `needs_percent`, `needs_firstOf` — projectors that
  need attributes;
* `ClusterReport.Sheet.Projector.attributes_of_get` — the attributes of a source that reported what
  was fetched;
* `ClusterReport.Sheet.Projector.cell_reading` — what the reading of an attribute finds.
-/

import ClusterReport.Proofs.Fetched.ReadBack
import ClusterReport.Sheet.Declaration

set_option relaxedAutoImplicit false
set_option autoImplicit false

namespace ClusterReport.Sheet

/-! ### Records -/

/-- A record has under the key of a column what the projector of the column finds. -/
theorem Record.cell_project {columns : List Column} (hkeys : (columns.map Column.key).Nodup)
    {c : Column} (hc : c ∈ columns) (row : SourceRow) :
    Record.cell (project row (columns.map .column)) c.key = c.projector.cell row := by
  induction columns with
  | nil => cases hc
  | cons first rest ih =>
      obtain ⟨hfirst, hrest⟩ := List.nodup_cons.1 hkeys
      have hget : Entries.get? c.key (project row ((first :: rest).map .column)) =
          if c.key = first.key then some (.cell (first.projector.cell row))
          else Entries.get? c.key (project row (rest.map .column)) := by
        rw [List.map_cons, project, Entries.get?_cons, Field.project, Field.key]
      rw [Record.cell, hget]
      rcases List.mem_cons.1 hc with rfl | hc
      · rw [if_pos rfl]
      · have hne : c.key ≠ first.key :=
          fun heq => hfirst (heq ▸ List.mem_map_of_mem (f := Column.key) hc)
        rw [if_neg hne]
        exact ih hrest hc

/-! ### Projectors that need attributes -/

/-- The reason why there is no value, as a cell. -/
def Missing.cell : Missing → Cell Scalar
  | noEntry => .absent
  | fault cause => .error cause

namespace Projector

/-- A projector that finds no value where a source has no attributes, for the same reason. -/
def Needs (source : String) (p : Projector) : Prop :=
  ∀ row why, attributes row source = .error why → p row = .error why

/-- **What is found where there are no attributes** is the reason for that. -/
theorem Needs.cell_eq {source : String} {p : Projector} (h : p.Needs source) {row : SourceRow}
    {why : Missing} (hwhy : attributes row source = .error why) : p.cell row = why.cell := by
  rw [cell, h row why hwhy]
  cases why <;> rfl

/-- The reading of an attribute needs the attributes. -/
theorem needs_reading (kind : String) (read : Json → Option Scalar) (source : String)
    (spellings : List String) : (reading kind read source spellings).Needs source := by
  intro row why hwhy
  rw [reading, lookup, hwhy]
  rfl

theorem asNumber_of_error {p : Projector} {row : SourceRow} {why : Missing}
    (h : p row = .error why) : asNumber p row = .error why := by
  rw [asNumber, h]
  rfl

/-- A percentage needs what its part needs. -/
theorem needs_percent {source : String} {part : Projector} (hpart : part.Needs source)
    (total : Projector) : (percent part total).Needs source := by
  intro row why hwhy
  rw [percent, asNumber_of_error (hpart row why hwhy)]
  rfl

/-- The first of some projectors needs what all of them need. -/
theorem needs_firstOf {source : String} {p : Projector} {rest : List Projector}
    (h : ∀ q ∈ p :: rest, q.Needs source) : (firstOf (p :: rest)).Needs source := by
  intro row why hwhy
  have hp : p row = .error why := h p List.mem_cons_self row why hwhy
  cases why with
  | fault cause => exact firstOf_cons_fault p rest row cause hp
  | noEntry =>
      rw [firstOf_cons_missing p rest row hp]
      -- the later ones find nothing either, down to the end of the list
      induction rest generalizing p with
      | nil => rfl
      | cons q rest ih =>
          have hrest : ∀ q' ∈ q :: rest, q'.Needs source :=
            fun q' hq' => h q' (List.mem_cons_of_mem _ hq')
          have hq : q row = .error .noEntry := hrest q List.mem_cons_self row .noEntry hwhy
          rw [firstOf_cons_missing q rest row hq]
          exact ih hrest hq

/-! ### Attributes of a source -/

/-- The attributes that were fetched. -/
def ofFetched : Fetched Stats → Except Missing Stats
  | .data stats => .ok stats
  | .failed cause => .error (.fault cause)

/-- What written attributes are taken for: a failure if they are nothing but an error text. -/
def asTaken : Fetched Stats → Fetched Stats
  | .failed cause => .failed cause
  | .data stats =>
    match Fetched.causeOf? stats.toJson with
    | some cause => .failed cause
    | none => .data stats

theorem asTaken_data_eq_self_iff {stats : Stats} :
    asTaken (.data stats) = .data stats ↔ ¬ stats.IsLoneError := by
  rw [← Stats.causeOf?_toJson_eq_none_iff, asTaken]
  cases Fetched.causeOf? stats.toJson <;> simp

theorem attributes_of_toDict? {row : SourceRow} {source : String} {document : Json} {stats : Stats}
    (h : row.get source = .value document) (hdict : document.toDict? = some stats)
    (hlone : ¬ stats.IsLoneError) : attributes row source = .ok stats := by
  rw [attributes, h]
  dsimp only
  rw [hdict]
  dsimp only
  split
  case h_1 cause hentries =>
    exact absurd ⟨cause, by rw [← hentries, Dict.ofList_entries]⟩ hlone
  case h_2 => rfl

theorem attributes_of_get_object {row : SourceRow} {source : String} {stats : Stats}
    (h : row.get source = .value stats.toJson) :
    attributes row source = ofFetched (asTaken (.data stats)) := by
  by_cases hlone : stats.IsLoneError
  · obtain ⟨cause, rfl⟩ := hlone
    rw [attributes, h]
    rfl
  · have hdict : stats.toJson.toDict? = some stats := congrArg some stats.ofList_entries
    rw [attributes_of_toDict? h hdict hlone, asTaken_data_eq_self_iff.2 hlone]
    rfl

/-- The attributes of a source that reported data, or a failure, as it is written. -/
theorem attributes_of_get {row : SourceRow} {source : String} {fetched : Fetched Stats}
    (h : row.get source = .value (fetched.toJson Stats.toJson)) :
    attributes row source = ofFetched (asTaken fetched) := by
  cases fetched with
  | data stats => exact attributes_of_get_object h
  | failed cause =>
      -- a written failure is an object like any other
      have hobject : row.get source = .value (Stats.toJson (.ofList [("error", .str cause)])) := h
      exact attributes_of_get_object hobject

/-- **What the reading of an attribute finds** in a source that has attributes, where the value of
this one reads: nothing if it is missing, and what it reads as otherwise. -/
theorem cell_reading {row : SourceRow} {source : String} {stats : Stats}
    (h : attributes row source = .ok stats) (kind : String) {read : Json → Option Scalar}
    {key : String} (hread : ∀ value, stats.get? key = some value →
      value ≠ .null ∧ read value ≠ none) :
    (reading kind read source [key]).cell row = .ofOption ((stats.get? key).bind read) := by
  rw [cell, reading, lookup, h]
  cases hvalue : stats.get? key with
  | none =>
      simp [hvalue, bind, Except.bind, Cell.ofOption]
  | some value =>
      obtain ⟨hnull, hreads⟩ := hread value hvalue
      obtain ⟨scalar, hscalar⟩ := Option.ne_none_iff_exists'.1 hreads
      have hfound : (some value).filter (fun value => !value.isNull) = some value :=
        Option.filter_some_pos (by rw [Json.isNull_eq_false_iff.2 hnull]; rfl)
      simp [hvalue, hfound, hscalar, bind, Except.bind, Cell.ofOption]

theorem not_isLoneError_of_attributes {row : SourceRow} {source : String} {stats : Stats}
    (h : attributes row source = .ok stats) : ¬ stats.IsLoneError := by
  rintro ⟨cause, rfl⟩
  rw [attributes] at h
  split at h
  · cases h
  · cases h
  · split at h
    · cases h
    · split at h
      · cases h
      · rename_i hentries
        obtain rfl := Except.ok.inj h
        exact hentries cause rfl

end Projector
end ClusterReport.Sheet
