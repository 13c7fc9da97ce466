/-
**What the listing of namespaces lists.**

The listing has one record for each namespace of a node, one for each node that failed as a whole,
and one for each node of which no more than the build is known.  A failure comes along in three
forms, as what was fetched, as a written document and as a cell, and the record of a namespace that
failed shows its cause in all columns of figures.

Attributes that are nothing but an error text are the exception: they are written like a failure,
and are shown as one.  A document whose objects name each field once has no such attributes.

Main definitions:

* `ClusterReport.Listing.Namespaces.Entry`, `Entry.IsOf` — what the listing has records for;
* `ClusterReport.Listing.Namespaces.Shows` — that a record shows an entry;
* `ClusterReport.Listing.Namespaces.Lists` — that there is one record for each entry;
* `ClusterReport.Listing.Namespaces.IsListing` — what is true of the records of the listing.

Main results:

* `ClusterReport.Listing.Namespaces.mem_entries_iff`, `nodup_entries` — the entries in the order of
  the rows;
* `ClusterReport.Listing.Namespaces.shows_expand` — the rows of a node stand for its entries, as
  what the written attributes are taken for;
* `ClusterReport.Listing.Namespaces.lists_iff` — every entry is listed as it is exactly when no
  attributes are nothing but an error text;
* `ClusterReport.Listing.Namespaces.isListing_namespaces` — **the listing has one record for each
  entry**, and none else;
* `ClusterReport.Listing.Namespaces.not_lists_repeatedError` — an entry that names one field twice
  is shown as a failure.
-/

import ClusterReport.Listing.Namespaces
import ClusterReport.Proofs.Sheet.Expansion
import ClusterReport.Proofs.Sheet.Listed
import ClusterReport.Proofs.Sheet.Projection
import Mathlib.Data.List.Nodup

set_option relaxedAutoImplicit false
set_option autoImplicit false

namespace ClusterReport.Listing.Namespaces

open Sheet

/-! ### Entries -/

/-- What the listing has a record for: a namespace of a node, a node that failed as a whole, or a
node of which nothing was reported. -/
inductive Entry where
  | reported (node name : String) (fetched : Fetched Stats)
  | failed (node cause : String)
  | unreported (node : String)

namespace Entry

def node : Entry → String
  | reported node _ _ => node
  | failed node _ => node
  | unreported node => node

/-- The cell that names the namespace of an entry. -/
def nameCell : Entry → Cell Scalar
  | reported _ name _ => .value (.text name)
  | failed _ cause => .error cause
  | unreported _ => .absent

def attributes : Entry → Except Missing Stats
  | reported _ _ fetched => Projector.ofFetched fetched
  | failed _ cause => .error (.fault cause)
  | unreported _ => .error .noEntry

/-- The entries of a cluster. -/
inductive IsOf (stats : ClusterStats) (metadata : ClusterMetadata) : Entry → Prop
  | reported {node name : String} {entries : Keyed Stats} {fetched : Fetched Stats}
      (hnode : stats.namespaces.get? node = some (.data entries))
      (hname : entries.get? name = some fetched) :
      IsOf stats metadata (.reported node name fetched)
  | failed {node cause : String} (hnode : stats.namespaces.get? node = some (.failed cause)) :
      IsOf stats metadata (.failed node cause)
  | unreported {node build : String} (hnode : stats.namespaces.get? node = none)
      (hbuild : metadata.builds.get? node = some build) :
      IsOf stats metadata (.unreported node)

/-- The entry with what its written attributes are taken for. -/
def asTaken : Entry → Entry
  | reported node name fetched => reported node name (Projector.asTaken fetched)
  | failed node cause => failed node cause
  | unreported node => unreported node

end Entry

/-- A record shows an entry: it names the node and the namespace, it is projected from a row in
which the statistics have the attributes of the entry, and where there are none it says why in every
column of figures. -/
structure Shows (e : Entry) (r : Record) : Prop where
  node : r.cell "Node" = .value (.text e.node)
  name : r.cell "Namespace" = e.nameCell
  projected : ∃ row, r = project row (declaration none).fields ∧
    Projector.attributes row statistics = e.attributes
  missing : ∀ why, e.attributes = .error why →
    ∀ c ∈ columns, c.key ∉ ["Namespace", "Node", "Build"] → r.cell c.key = why.cell

/-- There is one record for each of some entries. -/
def Lists (isListed : Entry → Prop) (shows : Entry → Record → Prop) (records : List Record) :
    Prop :=
  ∃ entries : List Entry, entries.Nodup ∧ (∀ e, e ∈ entries ↔ isListed e) ∧
    List.Forall₂ shows entries records

/-! ### Columns -/

theorem nodup_keys_columns : (columns.map Column.key).Nodup := by decide

theorem needs_of_mem_columns {c : Column} (hc : c ∈ columns)
    (hkey : c.key ∉ ["Namespace", "Node", "Build"]) : c.projector.Needs statistics := by
  have hfigure (a : Attribute) : (figure a).Needs statistics := Projector.needs_reading _ _ _ _
  have hfirst (a b : Attribute) : (Projector.firstOf [figure a, figure b]).Needs statistics :=
    Projector.needs_firstOf fun q hq => by
      rcases List.mem_pair.1 hq with rfl | rfl
      exacts [hfigure a, hfigure b]
  have hall : ∀ c ∈ columns, c.key ∈ ["Namespace", "Node", "Build"] ∨
      c.projector.Needs statistics := by
    simp only [columns, List.forall_mem_cons]
    refine ⟨.inl (by decide), .inl (by decide), .inl (by decide),
      .inr (Projector.needs_reading _ _ _ _), .inr (hfigure _), .inr (hfigure _), .inr (hfigure _),
      .inr (hfigure _), .inr (Projector.needs_percent (hfigure _) _), .inr (hfirst _ _),
      .inr (hfirst _ _), .inr (hfirst _ _), .inr (hfigure _), fun c hc => ?_⟩
    cases hc
  exact (hall c hc).resolve_left hkey

/-! ### Rows -/

def entriesAt (stats : ClusterStats) (node : String) : List Entry :=
  match stats.namespaces.get? node with
  | some (.data entries) => entries.entries.map fun e => .reported node e.1 e.2
  | some (.failed cause) => [.failed node cause]
  | none => [.unreported node]

/-- The entries of a cluster, in the order of the rows. -/
def entries (stats : ClusterStats) (metadata : ClusterMetadata) : List Entry :=
  (rowKeys (sources stats metadata)).flatMap (entriesAt stats)

theorem node_of_mem_entriesAt {stats : ClusterStats} {node : String} {e : Entry}
    (h : e ∈ entriesAt stats node) : e.node = node := by
  unfold entriesAt at h
  split at h
  · obtain ⟨_, _, rfl⟩ := List.mem_map.1 h
    rfl
  · rw [List.mem_singleton.1 h]
    rfl
  · rw [List.mem_singleton.1 h]
    rfl

theorem nodup_entriesAt (stats : ClusterStats) (node : String) :
    (entriesAt stats node).Nodup := by
  unfold entriesAt
  split
  · rename_i entries _
    -- the names of the namespaces increase
    refine List.pairwise_map.2 (entries.sorted.imp fun {a b} hlt heq => ?_)
    injection heq with _ hname _
    exact String.ne_of_lt hlt hname
  · exact List.nodup_singleton _
  · exact List.nodup_singleton _

/-- No entry is there twice. -/
theorem nodup_entries (stats : ClusterStats) (metadata : ClusterMetadata) :
    (entries stats metadata).Nodup := by
  refine List.nodup_flatMap.2 ⟨fun node _ => nodup_entriesAt stats node, ?_⟩
  refine (pairwise_rowKeys _).imp fun {a b} hlt e ha hb => ?_
  exact String.ne_of_lt hlt ((node_of_mem_entriesAt ha).symm.trans (node_of_mem_entriesAt hb))

theorem get?_sources (stats : ClusterStats) (metadata : ClusterMetadata) (source : String) :
    (sources stats metadata).get? source =
      if source = builds then some (plainCells .str metadata.builds)
      else if source = statistics then some (nodeCells NodeStats.toJson stats.namespaces)
      else none := by
  rw [sources, Dict.get?_ofList]
  rfl

theorem mem_rowKeys_sources_iff {stats : ClusterStats} {metadata : ClusterMetadata}
    {node : String} :
    node ∈ rowKeys (sources stats metadata) ↔
      (∃ fetched, stats.namespaces.get? node = some fetched) ∨
        ∃ build, metadata.builds.get? node = some build := by
  rw [mem_rowKeys_iff]
  constructor
  · rintro ⟨source, rows, cell, hrows, hcell⟩
    rw [get?_sources] at hrows
    split at hrows
    · obtain rfl := Option.some.inj hrows
      rw [plainCells, Dict.get?_map] at hcell
      obtain ⟨build, hbuild, -⟩ := Option.map_eq_some_iff.1 hcell
      exact .inr ⟨build, hbuild⟩
    · split at hrows
      · obtain rfl := Option.some.inj hrows
        rw [nodeCells, Dict.get?_map] at hcell
        obtain ⟨fetched, hfetched, -⟩ := Option.map_eq_some_iff.1 hcell
        exact .inl ⟨fetched, hfetched⟩
      · cases hrows
  · rintro (⟨fetched, hfetched⟩ | ⟨build, hbuild⟩)
    · refine ⟨statistics, _, (Cell.ofFetched fetched).map NodeStats.toJson,
        get?_sources stats metadata statistics, ?_⟩
      rw [nodeCells, Dict.get?_map, hfetched, Option.map_some]
    · refine ⟨builds, _, .value (.str build), get?_sources stats metadata builds, ?_⟩
      rw [plainCells, Dict.get?_map, hbuild, Option.map_some]

/-- The entries are those of the cluster. -/
theorem mem_entries_iff {stats : ClusterStats} {metadata : ClusterMetadata} {e : Entry} :
    e ∈ entries stats metadata ↔ e.IsOf stats metadata := by
  constructor
  · intro h
    obtain ⟨node, hnode, he⟩ := List.mem_flatMap.1 h
    unfold entriesAt at he
    split at he
    case h_1 entries hget =>
      obtain ⟨⟨name, fetched⟩, hentry, rfl⟩ := List.mem_map.1 he
      exact .reported hget (Dict.mem_entries_iff.1 hentry)
    case h_2 cause hget =>
      rw [List.mem_singleton.1 he]
      exact .failed hget
    case h_3 hget =>
      rw [List.mem_singleton.1 he]
      rcases mem_rowKeys_sources_iff.1 hnode with ⟨fetched, hfetched⟩ | ⟨build, hbuild⟩
      · rw [hget] at hfetched
        cases hfetched
      · exact .unreported hget hbuild
  · intro h
    cases h with
    | @reported node name entries fetched hnode hname =>
        refine List.mem_flatMap.2 ⟨node, mem_rowKeys_sources_iff.2 (.inl ⟨_, hnode⟩), ?_⟩
        rw [entriesAt, hnode]
        exact List.mem_map.2 ⟨(name, fetched), Dict.mem_entries_iff.2 hname, rfl⟩
    | @failed node cause hnode =>
        refine List.mem_flatMap.2 ⟨node, mem_rowKeys_sources_iff.2 (.inl ⟨_, hnode⟩), ?_⟩
        rw [entriesAt, hnode]
        exact List.mem_singleton.2 rfl
    | @unreported node build hnode hbuild =>
        refine List.mem_flatMap.2 ⟨node, mem_rowKeys_sources_iff.2 (.inr ⟨_, hbuild⟩), ?_⟩
        rw [entriesAt, hnode]
        exact List.mem_singleton.2 rfl

theorem reported_sources_statistics (stats : ClusterStats) (metadata : ClusterMetadata)
    (node : String) :
    reported (sources stats metadata) node statistics =
      ((stats.namespaces.get? node).map fun fetched =>
        (Cell.ofFetched fetched).map NodeStats.toJson).getD .absent := by
  rw [reported, get?_sources]
  exact congrArg (Option.getD · _) (Dict.get?_map _ _ _)

/-! ### Records -/

theorem shows_project {e : Entry} {row : SourceRow} (hnode : row.key = e.node)
    (hname : (Projector.boundKey statistics).cell row = e.nameCell)
    (hattributes : Projector.attributes row statistics = e.attributes) :
    Shows e (project row (declaration none).fields) where
  node := by
    have hmem : { title := "Node", projector := .rowKey } ∈ columns := by simp [columns]
    rw [← hnode]
    exact Record.cell_project nodup_keys_columns hmem row
  name := by
    have hmem : { title := "Namespace", projector := .boundKey statistics } ∈ columns :=
      List.mem_cons_self
    exact (Record.cell_project nodup_keys_columns hmem row).trans hname
  projected := ⟨row, rfl, hattributes⟩
  missing why hwhy c hc hkey :=
    (Record.cell_project nodup_keys_columns hc row).trans
      ((needs_of_mem_columns hc hkey).cell_eq (hattributes.trans hwhy))

theorem cell_boundKey (row : SourceRow) (source : String) :
    (Projector.boundKey source).cell row =
      match row.boundKey? source, row.get source with
      | some key, _ => .value (.text key)
      | none, .error cause => .error cause
      | none, _ => .absent := by
  rw [Projector.cell, Projector.boundKey]
  cases row.boundKey? source with
  | some key => rfl
  | none => cases row.get source <;> rfl

/-- A row bound to what was fetched stands for that, as what its written attributes are taken
for. -/
theorem shows_bind (row : SourceRow) (name : String) (fetched : Fetched Stats) :
    Shows (.reported row.key name (Projector.asTaken fetched))
      (project (row.bind statistics name (fetched.toJson Stats.toJson))
        (declaration none).fields) := by
  refine shows_project rfl ?_ ?_
  · rw [cell_boundKey, SourceRow.boundKey?_bind, if_pos rfl]
    rfl
  · refine Projector.attributes_of_get ?_
    rw [SourceRow.get_bind, if_pos rfl]

/-- The rows of a node stand for its entries. -/
theorem shows_expand {stats : ClusterStats} {row : SourceRow}
    (hget : row.get statistics =
      ((stats.namespaces.get? row.key).map fun fetched =>
        (Cell.ofFetched fetched).map NodeStats.toJson).getD .absent)
    (hfree : row.boundKey? statistics = none) :
    List.Forall₂ (fun e sub => Shows e.asTaken (project sub (declaration none).fields))
      (entriesAt stats row.key) (row.expand statistics) := by
  rw [SourceRow.expand_eq, entriesAt]
  cases hnode : stats.namespaces.get? row.key with
  | none =>
      rw [hnode, Option.map_none, Option.getD_none] at hget
      rw [hget]
      refine .cons (shows_project rfl ?_ ?_) .nil
      · rw [cell_boundKey, hfree, hget]
        rfl
      · rw [Projector.attributes, hget]
        rfl
  | some fetched =>
      rw [hnode, Option.map_some, Option.getD_some] at hget
      cases fetched with
      | failed cause =>
          change row.get statistics = .error cause at hget
          rw [hget]
          refine .cons (shows_project rfl ?_ ?_) .nil
          · rw [cell_boundKey, hfree, hget]
            rfl
          · rw [Projector.attributes, hget]
            rfl
      | data entries =>
          change row.get statistics = .value (NodeStats.toJson entries) at hget
          have hdict : (NodeStats.toJson entries).toDict? =
              some (entries.map fun _ fetched => fetched.toJson Stats.toJson) :=
            congrArg some (Dict.ofList_entries _)
          rw [hget]
          dsimp only
          rw [hdict]
          dsimp only [Dict.map]
          rw [List.map_map, List.forall₂_map_left_iff, List.forall₂_map_right_iff,
            List.forall₂_same]
          exact fun e _ => shows_bind row e.1 e.2

/-- The rows stand for the entries. -/
theorem shows_sourceRows (stats : ClusterStats) (metadata : ClusterMetadata) :
    List.Forall₂ (fun e sub => Shows e.asTaken (project sub (declaration none).fields))
      (entries stats metadata) (sourceRows (sources stats metadata) [statistics]) := by
  rw [entries, sourceRows_singleton, ← map_key_mergeSources, List.flatMap_map]
  simp only [List.flatMap_def]
  refine List.rel_flatten ?_
  rw [List.forall₂_map_left_iff, List.forall₂_map_right_iff, List.forall₂_same]
  intro row hrow
  obtain ⟨hget, hfree⟩ :=
    isUnbound_of_mem_mergeSources hrow [statistics] statistics List.mem_cons_self
  rw [reported_sources_statistics] at hget
  exact shows_expand hget hfree

/-! ### The listing -/

def records (stats : ClusterStats) (metadata : ClusterMetadata) : List Record :=
  sortAll (declaration none).orderKeys (keptRecords (declaration none) (sources stats metadata))

theorem groups_build (stats : ClusterStats) (metadata : ClusterMetadata) :
    (Sheet.build (declaration none) title (sources stats metadata)).groups =
      [{ records := records stats metadata }] :=
  groups_build_of_groupKeys rfl title _ _

theorem Lists.exists_shows {isListed : Entry → Prop} {shows : Entry → Record → Prop}
    {records : List Record} (h : Lists isListed shows records) {e : Entry} (he : isListed e) :
    ∃ r ∈ records, shows e r := by
  obtain ⟨entries, -, hall, hshows⟩ := h
  have hmem := (hall e).2 he
  clear hall
  induction hshows with
  | nil => cases hmem
  | @cons first r rest records hfirst _ ih =>
      rcases List.mem_cons.1 hmem with rfl | hmem
      · exact ⟨r, List.mem_cons_self, hfirst⟩
      · obtain ⟨r', hr', hshows⟩ := ih hmem
        exact ⟨r', List.mem_cons_of_mem _ hr', hshows⟩

theorem Lists.imp {isListed : Entry → Prop} {shows shows' : Entry → Record → Prop}
    {records : List Record} (h : Lists isListed shows records)
    (himp : ∀ e r, isListed e → shows e r → shows' e r) : Lists isListed shows' records := by
  obtain ⟨entries, hnodup, hmem, hshows⟩ := h
  have hboth := (List.forall₂_and_left entries records).2 ⟨fun e he => (hmem e).1 he, hshows⟩
  exact ⟨entries, hnodup, hmem, hboth.imp fun e r h => himp e r h.1 h.2⟩

theorem Lists.of_perm {isListed : Entry → Prop} {shows : Entry → Record → Prop}
    {records records' : List Record} (hperm : records.Perm records')
    (h : Lists isListed shows records) : Lists isListed shows records' := by
  obtain ⟨entries, hnodup, hmem, hshows⟩ := h
  obtain ⟨entries', hentries, hshows'⟩ := exists_perm_of_forall₂ hperm hshows
  exact ⟨entries', hentries.nodup_iff.2 hnodup, fun e => hentries.mem_iff.trans (hmem e), hshows'⟩

/-- Every entry is listed as what its written attributes are taken for. -/
theorem lists_asTaken (stats : ClusterStats) (metadata : ClusterMetadata) :
    Lists (Entry.IsOf stats metadata) (fun e r => Shows e.asTaken r) (records stats metadata) := by
  refine Lists.of_perm (perm_sortAll _ _).symm ?_
  refine ⟨entries stats metadata, nodup_entries stats metadata, fun _ => mem_entries_iff, ?_⟩
  exact List.forall₂_map_right_iff.2 (shows_sourceRows stats metadata)

theorem Shows.not_isLoneError {e : Entry} {r : Record} (h : Shows e r) {attributes : Stats}
    (hattributes : e.attributes = .ok attributes) : ¬ attributes.IsLoneError := by
  obtain ⟨row, -, hrow⟩ := h.projected
  exact Projector.not_isLoneError_of_attributes (hrow.trans hattributes)

theorem Entry.IsOf.asTaken_eq_self {stats : ClusterStats} {metadata : ClusterMetadata} {e : Entry}
    (h : e.IsOf stats metadata) (hlone : ¬ Nested.HasLoneError 2 stats.namespaces) :
    e.asTaken = e := by
  cases h with
  | @reported node name entries fetched hnode hname =>
      cases fetched with
      | failed cause => rfl
      | data attributes =>
          have hkept : ¬ attributes.IsLoneError :=
            fun h => hlone ⟨node, entries, hnode, name, attributes, hname, h⟩
          rw [asTaken, Projector.asTaken_data_eq_self_iff.2 hkept]
  | failed => rfl
  | unreported => rfl

/-- Every entry is listed as it is exactly when no attributes are nothing but an error text. -/
theorem lists_iff (stats : ClusterStats) (metadata : ClusterMetadata) :
    Lists (Entry.IsOf stats metadata) Shows (records stats metadata) ↔
      ¬ Nested.HasLoneError 2 stats.namespaces := by
  constructor
  · rintro hlists ⟨node, entries, hnode, name, attributes, hname, hlone⟩
    obtain ⟨r, -, hshows⟩ := hlists.exists_shows (.reported hnode hname)
    exact hshows.not_isLoneError rfl hlone
  · intro hlone
    refine (lists_asTaken stats metadata).imp fun e r he hshows => ?_
    rwa [he.asTaken_eq_self hlone] at hshows

/-! ### Documents that name every field once -/

theorem distinct_of_record? {names : List String} {document : Json}
    {fields : List (String × Json)} (hdistinct : document.Distinct)
    (h : document.record? names = some fields) : ∀ field ∈ fields, field.2.Distinct := by
  intro field hfield
  cases hdistinct with
  | object all _ heach =>
      rw [Json.record?] at h
      split at h
      · obtain rfl := Option.some.inj h
        exact heach field (List.mem_filter.1 hfield).1
      · cases h
  | array items heach =>
      rw [Json.record?] at h
      split at h
      · obtain rfl := Option.some.inj h
        exact heach field.2 (List.of_mem_zip hfield).2
      · cases h
  | _ => cases h

theorem not_hasLoneError_defaulted {name : String} {fields : List (String × Json)}
    (hfields : ∀ field ∈ fields, field.2.Distinct) {stats : NamespaceStats}
    (h : Json.defaulted? name .empty NamespaceStats.ofJson? fields = some stats) :
    ¬ Nested.HasLoneError 2 stats := by
  unfold Json.defaulted? at h
  split at h
  · rename_i value hvalue
    exact Nested.not_hasLoneError_of_distinct (hfields _ (Entries.mem_of_get? hvalue)) h
  · obtain rfl := Option.some.inj h
    rintro ⟨node, entries, hnode, -⟩
    cases hnode

/-- Statistics have no attributes that are nothing but an error text, if their document names every
field once. -/
theorem not_hasLoneError_namespaces {document : Json} {stats : ClusterStats}
    (hdistinct : document.Distinct) (h : ClusterStats.ofJson? document = some stats) :
    ¬ Nested.HasLoneError 2 stats.namespaces := by
  simp only [ClusterStats.ofJson?, Option.bind_eq_bind, Option.bind_eq_some_iff,
    Option.pure_def] at h
  obtain ⟨fields, hrecord, _, -, _, -, _, -, namespaceStats, hstats, namespaceConfigs, hconfigs,
    _, -, _, -, _, -, h⟩ := h
  obtain rfl := Option.some.inj h
  have hfields := distinct_of_record? hdistinct hrecord
  intro hlone
  rcases Nested.hasLoneError_merge hlone with hlone | hlone
  · exact not_hasLoneError_defaulted hfields hstats hlone
  · exact not_hasLoneError_defaulted hfields hconfigs hlone

/-- What is true of the records of the listing: there is one for each entry, and it shows the entry
as what its written attributes are taken for.  These are the entries themselves exactly when no
attributes are nothing but an error text, which is the case whenever the statistics were read from
a document in which no object names a field twice. -/
structure IsListing (stats : ClusterStats) (metadata : ClusterMetadata) (records : List Record) :
    Prop where
  taken : Lists (Entry.IsOf stats metadata) (fun e r => Shows e.asTaken r) records
  exact_iff : Lists (Entry.IsOf stats metadata) Shows records ↔
    ¬ Nested.HasLoneError 2 stats.namespaces
  distinct : ∀ document, document.Distinct → ClusterStats.ofJson? document = some stats →
    Lists (Entry.IsOf stats metadata) Shows records

/-- **The listing of namespaces has one record for each entry**, and none else. -/
theorem isListing_namespaces (stats : ClusterStats) (metadata : ClusterMetadata) :
    ∃ records, (Sheet.build (declaration none) title (sources stats metadata)).groups =
        [{ records }] ∧
      IsListing stats metadata records :=
  ⟨records stats metadata, groups_build stats metadata, lists_asTaken stats metadata,
    lists_iff stats metadata, fun _ hdistinct h =>
      (lists_iff stats metadata).2 (not_hasLoneError_namespaces hdistinct h)⟩

/-- The text of statistics in which an entry names its only field twice. -/
def repeatedErrorText : String :=
  "\x7b\"namespace_stats\":\x7b\"n1\":\x7b\"test\":"
    ++ "\x7b\"error\":\"timeout\",\"error\":\"refused\"\x7d\x7d\x7d\x7d"

/-- An entry that names its only field twice is shown as a failure, though it is read as data. -/
theorem not_lists_repeatedError :
    ¬ ∀ text document stats metadata records, Json.ofText? text = some document →
      ClusterStats.ofJson? document = some stats →
      (Sheet.build (declaration none) title (sources stats metadata)).groups = [{ records }] →
      Lists (Entry.IsOf stats metadata) Shows records := by
  intro h
  let attributes : Stats := .ofList [("error", .str "refused")]
  let document : Json :=
    .object [("namespace_stats", .object [("n1", .object [("test",
      .object [("error", .str "timeout"), ("error", .str "refused")])])])]
  let stats : ClusterStats :=
    { namespaceStats := .ofList [("n1", .data (.ofList [("test", .data attributes)]))] }
  have htext : Json.ofText? repeatedErrorText = some document := by cbv
  have hlists := h repeatedErrorText document stats {} _ htext rfl (groups_build _ _)
  exact (lists_iff _ _).1 hlists ⟨"n1", _, rfl, "test", attributes, rfl, "refused", rfl⟩

end ClusterReport.Listing.Namespaces
