/-
**What the listing of stop-writes metrics lists.**

On the way into the sheet the entries of a node are put under a name, which is the namespace, the
set and the metric joined by slashes.  A slash in the name of a namespace or a set makes two names
read the same that are not: of the entries with such a name the last one is listed and the others
are lost.  Metrics have no slash in their names, and those of a namespace are not those of a set, so
that this befalls only sets of one node.

Main definitions:

* `ClusterReport.Listing.StopWrites.Shows` — that a record shows an entry of a node;
* `ClusterReport.Listing.StopWrites.entries`, `keptEntries` — the entries of a cluster, and those
  whose names no later one has;
* `ClusterReport.Listing.StopWrites.SetsApart` — that the names of sets read differently;
* `ClusterReport.Listing.StopWrites.IsListing` — what is true of the records of the listing.

Main results:

* `ClusterReport.Listing.StopWrites.eq_or_sets_of_entryName_eq` — only sets are taken for each
  other;
* `ClusterReport.Listing.StopWrites.shows_project` — the record of an entry shows it;
* `ClusterReport.Listing.StopWrites.lists_keptEntries` — there is one record for each entry whose
  name no later one has;
* `ClusterReport.Listing.StopWrites.lists_entries_iff` — every entry is listed exactly when the
  names of sets read differently;
* `ClusterReport.Listing.StopWrites.isListing_stopWrites` — **the listing has one record for each
  entry** but those of sets that are taken for others;
* `ClusterReport.Listing.StopWrites.not_lists_slashedSets` — two sets with slashes have one record.
-/

import ClusterReport.Listing.StopWrites
import ClusterReport.Proofs.Dict.OfList
import ClusterReport.Proofs.Sheet.Expansion
import ClusterReport.Proofs.Sheet.Listed
import ClusterReport.Proofs.Sheet.Projection
import ClusterReport.Proofs.StopWrites.Locality
import Mathlib.Data.List.Sort

set_option relaxedAutoImplicit false
set_option autoImplicit false

namespace ClusterReport

namespace Text

/-! ### Texts joined by a slash -/

theorem append_cons_inj {c : Char} {a b s t : List Char} (ha : c ∉ a) (hb : c ∉ b)
    (h : a ++ c :: s = b ++ c :: t) : a = b ∧ s = t := by
  rcases List.append_eq_append_iff.1 h with ⟨more, rfl, hrest⟩ | ⟨more, rfl, hrest⟩
  · cases more with
    | nil => simpa using hrest
    | cons first more =>
        obtain ⟨rfl, -⟩ := List.cons.inj hrest
        simp at hb
  · cases more with
    | nil => simpa [eq_comm] using hrest
    | cons first more =>
        obtain ⟨rfl, -⟩ := List.cons.inj hrest
        simp at ha

theorem toList_slash (a s : String) : (a ++ "/" ++ s).toList = a.toList ++ '/' :: s.toList := by
  simp

/-- Texts joined by a slash are read off from the left if the first ones have none. -/
theorem slash_inj {a b s t : String} (ha : '/' ∉ a.toList) (hb : '/' ∉ b.toList)
    (h : a ++ "/" ++ s = b ++ "/" ++ t) : a = b ∧ s = t := by
  rw [← String.toList_inj, toList_slash, toList_slash] at h
  exact (append_cons_inj ha hb h).imp String.toList_inj.1 String.toList_inj.1

theorem slash_inj_right {a b s t : String} (hs : '/' ∉ s.toList) (ht : '/' ∉ t.toList)
    (h : a ++ "/" ++ s = b ++ "/" ++ t) : a = b ∧ s = t := by
  rw [← String.toList_inj, toList_slash, toList_slash, ← List.reverse_inj] at h
  simp only [List.reverse_append, List.reverse_cons, List.append_assoc, List.singleton_append] at h
  obtain ⟨hlast, hfirst⟩ :=
    append_cons_inj (List.mem_reverse.not.2 hs) (List.mem_reverse.not.2 ht) h
  exact ⟨String.toList_inj.1 (List.reverse_injective hfirst),
    String.toList_inj.1 (List.reverse_injective hlast)⟩

end Text

namespace Listing.StopWrites

open ClusterReport.StopWrites
open Sheet

/-! ### Entries and records -/

/-- A record shows an entry of a node in all columns. -/
structure Shows (node : String) (e : Entry) (r : Record) : Prop where
  node : r.cell "Node" = .value (.text node)
  namespaceName : r.cell "Namespace" = .ofOption (e.namespaceName.map .text)
  setName : r.cell "Set" = .ofOption (e.setName.map .text)
  metric : r.cell "Metric" = .value (.text e.metric)
  usage : r.cell "Usage" = .ofOption (Projector.numberOf? (.int e.usage))
  threshold : r.cell "Threshold" =
    .ofOption (e.threshold.bind fun t => Projector.numberOf? t.toJson)
  config : r.cell "Config" = .ofOption (e.config.map .text)
  stopsWrites : r.cell "Stop Writes" = .value (.bool e.stopsWrites)

/-- There is one record for each of some entries of nodes. -/
abbrev Lists (entries : List (String × Entry)) (records : List Record) : Prop :=
  ListsEach (fun x r => Shows x.1 x.2 r) entries records

/-- The entries of a cluster, node by node. -/
def entries (stats : ClusterStats) : List (String × Entry) :=
  (summary stats).keys.flatMap fun node => (entriesAt stats node).map fun e => (node, e)

/-- The entries whose names no later one has. -/
def lastOfName (es : List Entry) : List Entry := es.pwFilter fun a b => entryName a ≠ entryName b

/-- The entries of a cluster whose names no later one of their node has. -/
def keptEntries (stats : ClusterStats) : List (String × Entry) :=
  (summary stats).keys.flatMap fun node =>
    (lastOfName (entriesAt stats node)).map fun e => (node, e)

/-- No two sets of a node, evaluated for the same metric, read the same when each is joined to its
namespace. -/
def SetsApart (stats : ClusterStats) : Prop :=
  ∀ node metric name set name' set',
    ⟨some name, some set, metric⟩ ∈ (entriesAt stats node).map Entry.key →
    ⟨some name', some set', metric⟩ ∈ (entriesAt stats node).map Entry.key →
    name ++ "/" ++ set = name' ++ "/" ++ set' → name = name' ∧ set = set'

/-! ### Names -/

section Names

variable {stats : ClusterStats} {node : String} {a b e : Entry}

theorem about_of_mem_entriesAt (h : e ∈ entriesAt stats node) :
    (∃ name, e.key = ⟨some name, none, e.metric⟩ ∧ e.metric ∈ namespaceMetricNames.flatten) ∨
      ∃ name set, e.key = ⟨some name, some set, e.metric⟩ ∧ e.metric ∈ setMetricNames.flatten := by
  rw [(perm_entriesAt stats node).mem_iff, mem_evaluated_iff] at h
  rcases h with ⟨name, ns, -, he⟩ | ⟨name, set, ofSet, -, he⟩
  · obtain ⟨hname, hset⟩ := names_of_mem_namespace he
    refine .inl ⟨name, ?_, metric_of_mem_namespace he⟩
    rw [Entry.key, hname, hset]
  · obtain ⟨hname, hset⟩ := names_of_mem_setEntries he
    refine .inr ⟨name, set, ?_, ?_⟩
    · rw [Entry.key, hname, hset]
    · rcases metric_of_mem_setEntries he with h | h | h <;> rw [h] <;> decide

theorem mem_keys_of_mem_entriesAt (h : e ∈ entriesAt stats node) :
    node ∈ (summary stats).keys := by
  rw [entriesAt] at h
  cases hes : (summary stats).get? node with
  | none =>
      rw [hes] at h
      cases h
  | some es => exact Dict.mem_keys_iff.2 ⟨es, hes⟩

theorem nodup_keys_entriesAt : ((entriesAt stats node).map Entry.key).Nodup :=
  ((perm_entriesAt stats node).map Entry.key).nodup_iff.2 (nodup_keys_evaluated stats node)

theorem eq_of_key_eq (ha : a ∈ entriesAt stats node) (hb : b ∈ entriesAt stats node)
    (h : a.key = b.key) : a = b :=
  List.inj_on_of_nodup_map nodup_keys_entriesAt ha hb h

theorem slash_notMem_metric (h : e ∈ entriesAt stats node) : '/' ∉ e.metric.toList := by
  have hnames : ∀ metric ∈ (namespaceMetricNames ++ setMetricNames).flatten,
      '/' ∉ metric.toList := by decide
  refine hnames _ ?_
  rw [List.flatten_append, List.mem_append]
  rcases about_of_mem_entriesAt h with ⟨_, -, hmetric⟩ | ⟨_, _, -, hmetric⟩
  · exact .inl hmetric
  · exact .inr hmetric

theorem entryName_of_key {key : Key} (h : e.key = key) :
    entryName e =
      key.namespaceName.getD "" ++ "/" ++ key.setName.getD "" ++ "/" ++ key.metric := by
  subst h
  rfl

/-- **Only sets are taken for each other.** -/
theorem eq_or_sets_of_entryName_eq (ha : a ∈ entriesAt stats node) (hb : b ∈ entriesAt stats node)
    (h : entryName a = entryName b) :
    a = b ∨ ∃ metric name set name' set', a.key = ⟨some name, some set, metric⟩ ∧
      b.key = ⟨some name', some set', metric⟩ ∧ name ++ "/" ++ set = name' ++ "/" ++ set' := by
  -- the last slash is the one before the metric
  obtain ⟨-, hmetric⟩ :=
    Text.slash_inj_right (slash_notMem_metric ha) (slash_notMem_metric hb) h
  have hapart : ∀ metric ∈ setMetricNames.flatten, metric ∉ namespaceMetricNames.flatten := by
    decide
  have hslash : '/' ∉ b.metric.toList := slash_notMem_metric hb
  rcases about_of_mem_entriesAt ha with ⟨name, hkey, hnames⟩ | ⟨name, set, hkey, hnames⟩
  · rcases about_of_mem_entriesAt hb with ⟨name', hkey', -⟩ | ⟨-, -, -, hnames'⟩
    · rw [entryName_of_key hkey, entryName_of_key hkey', hmetric] at h
      obtain ⟨hjoined, -⟩ := Text.slash_inj_right hslash hslash h
      have hempty : '/' ∉ ((none : Option String).getD "").toList := by decide
      obtain ⟨hname, -⟩ := Text.slash_inj_right hempty hempty hjoined
      refine .inl (eq_of_key_eq ha hb ?_)
      rw [hkey, hkey', hmetric, show name = name' from hname]
    · exact absurd (hmetric ▸ hnames) (hapart _ hnames')
  · rcases about_of_mem_entriesAt hb with ⟨-, -, hnames'⟩ | ⟨name', set', hkey', -⟩
    · exact absurd hnames' (hapart _ (hmetric ▸ hnames))
    · rw [entryName_of_key hkey, entryName_of_key hkey', hmetric] at h
      obtain ⟨hjoined, -⟩ := Text.slash_inj_right hslash hslash h
      exact .inr ⟨b.metric, name, set, name', set', hmetric ▸ hkey, hkey', hjoined⟩

/-- The names of sets read differently exactly when the names of entries do. -/
theorem setsApart_iff : SetsApart stats ↔ ∀ node, ∀ a ∈ entriesAt stats node,
    ∀ b ∈ entriesAt stats node, entryName a = entryName b → a = b := by
  constructor
  · intro hapart node a ha b hb h
    rcases eq_or_sets_of_entryName_eq ha hb h with rfl |
      ⟨metric, name, set, name', set', hkey, hkey', hjoined⟩
    · rfl
    · obtain ⟨rfl, rfl⟩ := hapart node metric name set name' set'
        (List.mem_map.2 ⟨a, ha, hkey⟩) (List.mem_map.2 ⟨b, hb, hkey'⟩) hjoined
      exact eq_of_key_eq ha hb (hkey.trans hkey'.symm)
  · intro h node metric name set name' set' hmem hmem' hjoined
    obtain ⟨a, ha, hkey⟩ := List.mem_map.1 hmem
    obtain ⟨b, hb, hkey'⟩ := List.mem_map.1 hmem'
    have hnames : entryName a = entryName b := by
      rw [entryName_of_key hkey, entryName_of_key hkey']
      exact congrArg (· ++ "/" ++ metric) hjoined
    obtain rfl := h node a ha b hb hnames
    cases hkey.symm.trans hkey'
    exact ⟨rfl, rfl⟩

theorem setsApart_of_slash_notMem
    (h : ∀ node, ∀ e ∈ entriesAt stats node, ∀ name ∈ e.namespaceName, '/' ∉ name.toList) :
    SetsApart stats := by
  intro node metric name set name' set' hmem hmem' hjoined
  obtain ⟨a, ha, hkey⟩ := List.mem_map.1 hmem
  obtain ⟨b, hb, hkey'⟩ := List.mem_map.1 hmem'
  exact Text.slash_inj (h node a ha name (congrArg Key.namespaceName hkey))
    (h node b hb name' (congrArg Key.namespaceName hkey')) hjoined

end Names

/-! ### Cells -/

/-- The fields of the document of an entry, those that are missing included. -/
def fields (e : Entry) : List (String × Option Json) :=
  [("metric", some (.str e.metric)), ("metric_usage", some (.int e.usage)),
    ("stop_writes", some (.bool e.stopsWrites)),
    ("metric_threshold", e.threshold.map Threshold.toJson), ("config", e.config.map .str),
    ("namespace", e.namespaceName.map .str), ("set", e.setName.map .str)]

theorem toJson_eq (e : Entry) : e.toJson = .object (Entries.present (fields e)) := by
  simp [Entry.toJson, Entries.present, fields]

section Cells

variable {row : SourceRow} {e : Entry}

theorem exists_attributes (h : row.get metrics = .value e.toJson) :
    ∃ attributes, Projector.attributes row metrics = .ok attributes ∧
      ∀ key, attributes.get? key = (Entries.get? key (fields e)).join := by
  have hkeys : ((fields e).map (·.1)).Nodup := by
    have hnames : (fields e).map (·.1) = ["metric", "metric_usage", "stop_writes",
      "metric_threshold", "config", "namespace", "set"] := rfl
    rw [hnames]
    decide
  have hget := Dict.get?_ofList_present hkeys
  refine ⟨.ofList (Entries.present (fields e)), ?_, hget⟩
  refine Projector.attributes_of_toDict? h (congrArg Json.toDict? (toJson_eq e)) ?_
  rintro ⟨cause, hlone⟩
  have hmetric := hget "metric"
  rw [hlone] at hmetric
  cases hmetric

theorem cell_field (h : row.get metrics = .value e.toJson) (kind : String)
    {read : Json → Option Scalar} {key : String} (value? : Option Json)
    (hfield : (Entries.get? key (fields e)).join = value?)
    (hread : ∀ value, value? = some value → value ≠ .null ∧ read value ≠ none) :
    (Projector.reading kind read metrics [key]).cell row = .ofOption (value?.bind read) := by
  obtain ⟨attributes, hattributes, hget⟩ := exists_attributes h
  have hvalue := (hget key).trans hfield
  rw [Projector.cell_reading hattributes kind (hvalue ▸ hread), hvalue]

theorem cell_text (h : row.get metrics = .value e.toJson) {key : String} (text? : Option String)
    (hfield : (Entries.get? key (fields e)).join = text?.map .str) :
    (Projector.text metrics [key]).cell row = .ofOption (text?.map .text) := by
  refine (cell_field h "string" _ hfield ?_).trans ?_
  · rintro _ hvalue
    obtain ⟨text, -, rfl⟩ := Option.map_eq_some_iff.1 hvalue
    exact ⟨Json.noConfusion, Option.some_ne_none _⟩
  · cases text? <;> rfl

theorem cell_threshold (h : row.get metrics = .value e.toJson) :
    (Projector.number metrics ["metric_threshold"]).cell row =
      .ofOption (e.threshold.bind fun t => Projector.numberOf? t.toJson) := by
  refine (cell_field h "number" (e.threshold.map Threshold.toJson) rfl ?_).trans ?_
  · rintro _ hvalue
    obtain ⟨threshold, -, rfl⟩ := Option.map_eq_some_iff.1 hvalue
    cases threshold <;> simp [Threshold.toJson, Projector.numberOf?]
  · cases e.threshold <;> rfl

/-- The record of an entry shows it. -/
theorem shows_project (h : row.get metrics = .value e.toJson) :
    Shows row.key e (project row (declaration false).fields) := by
  have hcell (i : Nat) (hi : i < columns.length) :
      Record.cell (project row (columns.map .column)) columns[i].key =
        columns[i].projector.cell row :=
    Record.cell_project (by decide) (List.getElem_mem hi) row
  exact {
    namespaceName := (hcell 0 (by decide)).trans (cell_text h e.namespaceName rfl)
    setName := (hcell 1 (by decide)).trans (cell_text h e.setName rfl)
    node := hcell 2 (by decide)
    metric := (hcell 3 (by decide)).trans (cell_text h (some e.metric) rfl)
    usage := (hcell 4 (by decide)).trans <| cell_field h "number" (some (.int e.usage)) rfl <| by
      rintro _ ⟨⟩
      simp [Projector.numberOf?]
    threshold := (hcell 5 (by decide)).trans (cell_threshold h)
    config := (hcell 6 (by decide)).trans (cell_text h e.config rfl)
    stopsWrites := (hcell 7 (by decide)).trans <|
      cell_field h "boolean" (some (.bool e.stopsWrites)) rfl <| by
        rintro _ ⟨⟩
        simp [Projector.truthOf?] }

end Cells

/-! ### Rows -/

theorem rowKeys_sources (stats : ClusterStats) :
    rowKeys (sources stats) = (summary stats).keys := by
  refine List.Pairwise.eq_of_mem_iff (pairwise_rowKeys _) (Dict.pairwise_keys _) fun node => ?_
  rw [mem_rowKeys_iff, Dict.mem_keys_iff]
  constructor
  · rintro ⟨source, rows, cell, hrows, hcell⟩
    have hsource := Dict.mem_of_get?_ofList hrows
    obtain ⟨rfl, rfl⟩ := Prod.mk.inj (List.mem_singleton.1 hsource)
    rw [plainCells, Dict.get?_map] at hcell
    obtain ⟨es, hes, -⟩ := Option.map_eq_some_iff.1 hcell
    exact ⟨es, hes⟩
  · rintro ⟨es, hes⟩
    refine ⟨metrics, _, .value (entriesJson es), rfl, ?_⟩
    rw [plainCells, Dict.get?_map, hes, Option.map_some]

theorem reported_sources {stats : ClusterStats} {node : String}
    (h : node ∈ (summary stats).keys) :
    reported (sources stats) node metrics = .value (entriesJson (entriesAt stats node)) := by
  obtain ⟨es, hes⟩ := Dict.mem_keys_iff.1 h
  have hreported : (plainCells entriesJson (summary stats)).get? node =
      some (.value (entriesJson es)) := by
    rw [plainCells, Dict.get?_map, hes, Option.map_some]
  have hsource : (sources stats).get? metrics = some (plainCells entriesJson (summary stats)) := rfl
  rw [reported, hsource, Option.bind_some, hreported, Option.getD_some, entriesAt, hes,
    Option.getD_some]

/-- **The rows of a node are listed with the entries whose names no later one has.** -/
theorem lists_expand {row : SourceRow} {es : List Entry}
    (h : row.get metrics = .value (entriesJson es)) :
    Lists ((lastOfName es).map fun e => (row.key, e))
      ((row.expand metrics).map fun sub => project sub (declaration false).fields) := by
  let named (e : Entry) : String × Json := (entryName e, e.toJson)
  let record (e : String × Json) : Record :=
    project (row.bind metrics e.1 e.2) (declaration false).fields
  have hdict : (entriesJson es).toDict? = some (.ofList (es.map named)) :=
    congrArg some (Dict.ofList_entries _)
  have hkept : Entries.lastOfKey (es.map named) = (lastOfName es).map named :=
    List.pwFilter_map named es
  have hrecords : ((row.expand metrics).map fun sub => project sub (declaration false).fields) =
      (Dict.ofList (es.map named)).entries.map record := by
    rw [SourceRow.expand_eq, h]
    dsimp only
    rw [hdict]
    dsimp only
    rw [List.map_map]
    rfl
  rw [hrecords]
  refine ListsEach.of_perm ((Dict.perm_entries_ofList _).map record).symm ?_
  rw [hkept, List.map_map]
  refine ListsEach.of_map fun e _ => ?_
  have hget : (row.bind metrics (entryName e) e.toJson).get metrics = .value e.toJson := by
    rw [SourceRow.get_bind, if_pos rfl]
  exact shows_project hget

/-! ### The listing -/

def records (stats : ClusterStats) : List Record :=
  sortAll (declaration false).orderKeys (keptRecords (declaration false) (sources stats))

theorem groups_build (stats : ClusterStats) :
    (Sheet.build (declaration false) title (sources stats)).groups =
      [{ records := records stats }] :=
  groups_build_of_groupKeys rfl title _ _

/-- **There is one record for each entry whose name no later one has.** -/
theorem lists_keptEntries (stats : ClusterStats) : Lists (keptEntries stats) (records stats) := by
  refine ListsEach.of_perm (perm_sortAll _ _).symm ?_
  have hrows : keptRecords (declaration false) (sources stats) =
      (mergeSources (sources stats)).flatMap fun row =>
        (row.expand metrics).map fun sub => project sub (declaration false).fields := by
    rw [← List.map_flatMap, ← sourceRows_singleton]
    rfl
  rw [hrows, keptEntries, ← rowKeys_sources, ← map_key_mergeSources, List.flatMap_map]
  refine ListsEach.flatMap fun row hrow => lists_expand ?_
  obtain ⟨hget, -⟩ := isUnbound_of_mem_mergeSources hrow [metrics] metrics List.mem_cons_self
  have hkey : row.key ∈ (summary stats).keys := by
    rw [← rowKeys_sources, ← map_key_mergeSources]
    exact List.mem_map_of_mem hrow
  exact hget.trans (reported_sources hkey)

theorem keptEntries_sublist (stats : ClusterStats) :
    (keptEntries stats).Sublist (entries stats) := by
  rw [keptEntries, entries]
  generalize (summary stats).keys = nodes
  induction nodes with
  | nil => exact .slnil
  | cons node rest ih =>
      rw [List.flatMap_cons, List.flatMap_cons]
      exact ((List.pwFilter_sublist _).map _).append ih

/-- The entries of a node are those of the cluster that name the node. -/
theorem mem_keptEntries_iff {stats : ClusterStats} {node : String} {e : Entry} :
    (node, e) ∈ keptEntries stats ↔
      node ∈ (summary stats).keys ∧ e ∈ lastOfName (entriesAt stats node) := by
  rw [keptEntries, List.mem_flatMap]
  constructor
  · rintro ⟨other, hother, hmem⟩
    obtain ⟨kept, hkept, heq⟩ := List.mem_map.1 hmem
    obtain ⟨rfl, rfl⟩ := Prod.mk.inj heq
    exact ⟨hother, hkept⟩
  · rintro ⟨hnode, he⟩
    exact ⟨node, hnode, List.mem_map.2 ⟨e, he, rfl⟩⟩

/-- **Every entry is listed exactly when the names of sets read differently.** -/
theorem lists_entries_iff (stats : ClusterStats) :
    Lists (entries stats) (records stats) ↔ SetsApart stats := by
  rw [setsApart_iff]
  constructor
  · intro hlists node a ha b hb hnames
    have hlength := hlists.length_eq.symm.trans (lists_keptEntries stats).length_eq
    have hkept : keptEntries stats = entries stats :=
      (keptEntries_sublist stats).eq_of_length hlength.symm
    have hnode : node ∈ (summary stats).keys := mem_keys_of_mem_entriesAt ha
    have hlast {e : Entry} (he : e ∈ entriesAt stats node) :
        e ∈ lastOfName (entriesAt stats node) := by
      refine (mem_keptEntries_iff.1 (hkept ▸ ?_)).2
      exact List.mem_flatMap.2 ⟨node, hnode, List.mem_map.2 ⟨e, he, rfl⟩⟩
    have hdistinct : ((lastOfName (entriesAt stats node)).map entryName).Nodup :=
      List.pairwise_map.2 (List.pairwise_pwFilter _)
    exact List.inj_on_of_nodup_map hdistinct (hlast ha) (hlast hb) hnames
  · intro hapart
    have hkept : keptEntries stats = entries stats := by
      refine List.flatMap_congr fun node _ => ?_
      have hdistinct : ((entriesAt stats node).map entryName).Nodup :=
        (nodup_keys_entriesAt.of_map Entry.key).map_on (hapart node)
      rw [lastOfName, List.pwFilter_eq_self.2 (List.pairwise_map.1 hdistinct)]
    exact hkept ▸ lists_keptEntries stats

/-- What is true of the records of the listing: there is one for each entry whose name no later one
has, and these are all entries exactly when the names of sets read differently, which is the case
whenever no name of a namespace has a slash. -/
structure IsListing (stats : ClusterStats) (records : List Record) : Prop where
  kept : Lists (keptEntries stats) records
  complete_iff : Lists (entries stats) records ↔ SetsApart stats
  slashless : (∀ node, ∀ e ∈ entriesAt stats node, ∀ name ∈ e.namespaceName,
    '/' ∉ name.toList) → Lists (entries stats) records

/-- **The listing has one record for each entry** but those of sets that are taken for others. -/
theorem isListing_stopWrites (stats : ClusterStats) :
    ∃ records, (Sheet.build (declaration false) title (sources stats)).groups = [{ records }] ∧
      IsListing stats records :=
  ⟨records stats, groups_build stats, lists_keptEntries stats, lists_entries_iff stats,
    fun h => (lists_entries_iff stats).2 (setsApart_of_slash_notMem h)⟩

/-- The counts of two sets, a slash in the name of one and in the namespace of the other. -/
def slashedSets : ClusterStats where
  setStats :=
    let counted (objects : String) : Stats :=
      .ofList [("objects", .str objects), ("stop-writes-count", .str "5")]
    .ofList [("n1", .data (.ofList [
      ("a", .data (.ofList [("b/c", .data (counted "1"))])),
      ("a/b", .data (.ofList [("c", .data (counted "9"))]))]))]

/-- Two sets with slashes have one record. -/
theorem not_lists_slashedSets :
    ¬ ∀ stats records,
      (Sheet.build (declaration false) title (sources stats)).groups = [{ records }] →
      Lists (entries stats) records := by
  intro h
  have hapart := (lists_entries_iff slashedSets).1 (h slashedSets _ (groups_build slashedSets))
  have hset (name set : String) (hevaluated : ∃ e, evaluation? slashedSets "n1"
      ⟨some name, some set, "objects"⟩ = some e ∧ e.key = ⟨some name, some set, "objects"⟩) :
      ⟨some name, some set, "objects"⟩ ∈ (entriesAt slashedSets "n1").map Entry.key := by
    obtain ⟨e, he, hkey⟩ := hevaluated
    refine List.mem_map.2 ⟨e, ?_, hkey⟩
    rw [entriesAt_eq, mem_entriesOfNode_iff, hkey, he]
  have hnames := hapart "n1" "objects" "a" "b/c" "a/b" "c" (hset _ _ ⟨_, rfl, rfl⟩)
    (hset _ _ ⟨_, rfl, rfl⟩) rfl
  exact absurd hnames.1 (by decide)

end Listing.StopWrites
end ClusterReport
