/-
**What merged statistics hold.**

Fetched data is merged by key, level by level: by node, by namespace, by set, and at the bottom the
attributes, which are documents.  At every level the keys of both sides remain, and an entry is a
failure if the overlay's is, or if the overlay has no entry and the base's is a failure; two entries
of data are merged in the same way one level below.

Main definitions:

* `ClusterReport.Nested` — attributes behind any number of levels of keys;
* `ClusterReport.Nested.merge` — the merge at any number of levels;
* `ClusterReport.MergesEntries` — what the entries of merged data are;
* `ClusterReport.Nested.Canonical` — that all attributes list their fields in key order.

Main results:

* `ClusterReport.Nested.merge_one`, `merge_two`, `merge_three` — the statistics of nodes, namespaces
  and sets are those behind one, two and three levels of keys;
* `ClusterReport.mergesEntries_merge` — what the entries of merged data are;
* `ClusterReport.Nested.merge_self`, `merge_merge` — merging is idempotent at every number of
  levels;
* `ClusterReport.merge_overlays` — **the overlay wins at every path and at every level, and an
  overlay that is merged in already changes nothing more**.
-/

import ClusterReport.Proofs.Json.Merge

set_option relaxedAutoImplicit false
set_option autoImplicit false

universe u

namespace ClusterReport

/-! ### Entries of merged data -/

/-- What the entries of merged data are: the keys are those of both sides, an entry is a failure
with the cause of the overlay, or with that of the base where the overlay has no entry, and it is
data where one side has data that the other one does not replace. -/
structure MergesEntries {α : Type u} (combine : α → α → α) (base overlay merged : Keyed α) :
    Prop where
  mem_keys : ∀ key, key ∈ merged.keys ↔ key ∈ base.keys ∨ key ∈ overlay.keys
  failed_iff : ∀ key cause, merged.get? key = some (.failed cause) ↔
    overlay.get? key = some (.failed cause) ∨
      overlay.get? key = none ∧ base.get? key = some (.failed cause)
  data_iff : ∀ key value, merged.get? key = some (.data value) ↔
    (∃ mine theirs, base.get? key = some (.data mine) ∧ overlay.get? key = some (.data theirs) ∧
      value = combine mine theirs) ∨
    base.data? key = none ∧ overlay.get? key = some (.data value) ∨
    overlay.get? key = none ∧ base.get? key = some (.data value)

/-- What the entries of data merged by key are. -/
theorem mergesEntries_merge {α : Type u} (combine : α → α → α) (base overlay : Keyed α) :
    MergesEntries combine base overlay (Keyed.merge combine base overlay) where
  mem_keys key := by
    rw [Dict.mem_keys_iff, Dict.mem_keys_iff, Dict.mem_keys_iff, Keyed.get?_merge]
    cases base.get? key <;> cases overlay.get? key <;> simp
  failed_iff key cause := by
    rw [Keyed.get?_merge]
    cases base.get? key with
    | none => cases overlay.get? key <;> simp
    | some mine =>
        cases overlay.get? key with
        | none => simp
        | some theirs => cases mine <;> cases theirs <;> simp [Fetched.merge]
  data_iff key value := by
    rw [Keyed.get?_merge, Keyed.data?]
    cases base.get? key with
    | none => cases overlay.get? key <;> simp
    | some mine =>
        cases overlay.get? key with
        | none => simp
        | some theirs => cases mine <;> cases theirs <;> simp [Fetched.merge, eq_comm]

/-! ### Any number of levels -/

/-- Attributes behind some number of levels of keys, at each of which a fetch may have failed. -/
def Nested : Nat → Type
  | 0 => Stats
  | depth + 1 => Keyed (Nested depth)

namespace Nested

/-- Attributes behind some number of levels of keys, merged. -/
def merge : (depth : Nat) → Nested depth → Nested depth → Nested depth
  | 0 => Stats.merge
  | depth + 1 => Keyed.merge (merge depth)

/-- Attributes by node are behind one level of keys. -/
theorem merge_one : merge 1 = NodeStats.merge := rfl

/-- Attributes by node and namespace are behind two levels of keys. -/
theorem merge_two : merge 2 = NamespaceStats.merge := rfl

/-- Attributes by node, namespace and set are behind three levels of keys. -/
theorem merge_three : merge 3 = SetStats.merge := rfl

/-- Whether all attributes list the fields of their objects in key order. -/
def Canonical : (depth : Nat) → Nested depth → Prop
  | 0, attributes => ∀ key value, Dict.get? (α := Json) attributes key = some value →
      value.Canonical
  | depth + 1, entries => ∀ key value,
      Dict.get? (α := Fetched (Nested depth)) entries key = some (.data value) →
        Canonical depth value

theorem canonical_ofAttributes {es : List (String × Json)} (h : ∀ e ∈ es, e.2.Canonical) :
    Canonical 0 (Dict.ofList es) :=
  fun _ _ hvalue => h _ (Dict.mem_of_get?_ofList hvalue)

theorem canonical_ofEntries {depth : Nat} {es : List (String × Fetched (Nested depth))}
    (h : ∀ e ∈ es, ∀ value, e.2 = .data value → value.Canonical) :
    Canonical (depth + 1) (Dict.ofList es) :=
  fun _ _ hvalue => h _ (Dict.mem_of_get?_ofList hvalue) _ rfl

theorem canonical_merge {depth : Nat} {base overlay : Nested depth} (hbase : base.Canonical)
    (hoverlay : overlay.Canonical) : Canonical depth (merge depth base overlay) := by
  induction depth with
  | zero =>
      intro key value hvalue
      have hmerge := (Dict.get?_mergeWith Json.merge base overlay key).symm.trans hvalue
      cases hold : Dict.get? (α := Json) base key with
      | none =>
          rw [hold, Option.merge_none_left] at hmerge
          exact hoverlay key value hmerge
      | some old =>
          cases hnew : Dict.get? (α := Json) overlay key with
          | none =>
              rw [hold, hnew] at hmerge
              exact Option.some.inj hmerge ▸ hbase key old hold
          | some new =>
              rw [hold, hnew] at hmerge
              exact Option.some.inj hmerge ▸ (hbase key old hold).merge (hoverlay key new hnew)
  | succ depth ih =>
      intro key value hvalue
      rcases ((mergesEntries_merge (merge depth) base overlay).data_iff key value).1 hvalue with
        ⟨mine, theirs, hmine, htheirs, rfl⟩ | ⟨-, htheirs⟩ | ⟨-, hmine⟩
      · exact ih (hbase key mine hmine) (hoverlay key theirs htheirs)
      · exact hoverlay key value htheirs
      · exact hbase key value hmine

end Nested

/-! ### Merging twice -/

section

variable {α : Type u} {combine : α → α → α}

/-- What was fetched merged with itself is itself if data is. -/
theorem Fetched.merge_self {f : Fetched α}
    (h : ∀ value, f = .data value → combine value value = value) : f.merge combine f = f := by
  cases f with
  | failed cause => rfl
  | data value => exact congrArg data (h value rfl)

/-- Merging in once more what was fetched changes nothing if it does not change data. -/
theorem Fetched.merge_merge {base overlay : Fetched α}
    (hself : ∀ value, overlay = .data value → combine value value = value)
    (hagain : ∀ old value, base = .data old → overlay = .data value →
      combine (combine old value) value = combine old value) :
    (base.merge combine overlay).merge combine overlay = base.merge combine overlay := by
  cases overlay with
  | failed cause => cases base <;> rfl
  | data value =>
      cases base with
      | failed cause => exact congrArg data (hself value rfl)
      | data old => exact congrArg data (hagain old value rfl rfl)

end

namespace Nested

/-- Statistics merged with themselves are themselves, behind any number of levels of keys. -/
theorem merge_self {depth : Nat} {stats : Nested depth} (h : stats.Canonical) :
    merge depth stats stats = stats := by
  induction depth with
  | zero => exact Dict.mergeWith_self fun key value hvalue => Json.merge_self (h key value hvalue)
  | succ depth ih =>
      refine Dict.mergeWith_self fun key entry hentry => Fetched.merge_self fun value hvalue => ?_
      exact ih (h key value (hvalue ▸ hentry))

/-- **An overlay that is merged in already changes nothing more**, behind any number of levels of
keys. -/
theorem merge_merge {depth : Nat} {base overlay : Nested depth} (hbase : base.Canonical)
    (hoverlay : overlay.Canonical) :
    merge depth (merge depth base overlay) overlay = merge depth base overlay := by
  induction depth with
  | zero =>
      refine Dict.mergeWith_mergeWith (fun key value hvalue => ?_)
        fun key old value hold hvalue => ?_
      · exact Json.merge_self (hoverlay key value hvalue)
      · exact Json.merge_merge (hbase key old hold) (hoverlay key value hvalue)
  | succ depth ih =>
      refine Dict.mergeWith_mergeWith (fun key entry hentry => ?_)
        fun key old entry hold hentry => ?_
      · exact Fetched.merge_self fun value hvalue =>
          merge_self (hoverlay key value (hvalue ▸ hentry))
      · refine Fetched.merge_merge (fun value hvalue => ?_) fun mine theirs hmine htheirs => ?_
        · exact merge_self (hoverlay key value (hvalue ▸ hentry))
        · exact ih (hbase key mine (hmine ▸ hold)) (hoverlay key theirs (htheirs ▸ hentry))

end Nested

/-! ### Documents and statistics -/

theorem Stats.toJson_merge (base overlay : Stats) :
    (base.merge overlay).toJson = base.toJson.merge overlay.toJson := by
  change Json.object _ = Json.merge (.object _) (.object _)
  rw [Json.merge_object]
  refine congrArg Json.object ((Dict.sorted _).ext_get?
    (Json.sorted_mergeFields base.sorted overlay.entries) fun key => ?_)
  rw [Json.get?_mergeFields overlay.sorted]
  exact Dict.get?_mergeWith Json.merge base overlay key

/-- **The overlay wins at every path of a document and at every level of keys, and an overlay that
is merged in already changes nothing more.**  Documents are taken in the form in which they are
read, where an object has each of its fields once and in key order. -/
theorem merge_overlays {document overlay : Json} (hdocument : document.Canonical)
    (hoverlay : overlay.Canonical) {depth : Nat} {stats configs : Nested (depth + 1)}
    (hstats : stats.Canonical) (hconfigs : configs.Canonical) :
    (∀ path, Json.MergesAt document overlay (document.merge overlay) path) ∧
      document.merge document = document ∧
      (document.merge overlay).merge overlay = document.merge overlay ∧
      (∀ mine theirs : Stats, (mine.merge theirs).toJson = mine.toJson.merge theirs.toJson) ∧
      MergesEntries (Nested.merge depth) stats configs (Nested.merge (depth + 1) stats configs) ∧
      Nested.merge (depth + 1) stats stats = stats ∧
      Nested.merge (depth + 1) (Nested.merge (depth + 1) stats configs) configs =
        Nested.merge (depth + 1) stats configs :=
  ⟨Json.mergesAt_merge document hoverlay, Json.merge_self hdocument,
    Json.merge_merge hdocument hoverlay, Stats.toJson_merge,
    mergesEntries_merge (Nested.merge depth) stats configs,
    Nested.merge_self hstats, Nested.merge_merge hstats hconfigs⟩

/-- An object with two objects and a number in it. -/
def layeredDocument : Json :=
  (Json.object [("memory", .object [("free", .int 1), ("used", .int 2)]), ("nodes", .int 3),
    ("rack", .object [("id", .int 4)])]).canonical

/-- An object that has the same fields, two of them of another kind. -/
def layeredOverlay : Json :=
  (Json.object [("memory", .object [("total", .int 6), ("used", .str "5")]),
    ("nodes", .object [("n1", .null)]), ("rack", .int 7)]).canonical

/-- Statistics of two nodes, the second of which failed, as did a namespace of the first. -/
def partlyFailedStats : NamespaceStats :=
  .ofList [("n1", .data (.ofList [("bar", .failed "timeout"),
    ("test", .data (.ofList [("memory", layeredDocument)]))])), ("n2", .failed "down")]

/-- Configurations of two nodes, with a failure where the statistics have data. -/
def partlyFailedConfigs : NamespaceStats :=
  .ofList [("n1", .data (.ofList [("bar", .data (.ofList [("memory", layeredOverlay)])),
    ("test", .failed "refused")])), ("n3", .data .empty)]

/-- A text of the overlay stands where there was a number, a number hides the object below it, and a
failure stays where the overlay has no entry. -/
theorem merge_overlays_partlyFailed :
    layeredDocument.Canonical ∧ layeredOverlay.Canonical ∧
      Nested.Canonical 2 partlyFailedStats ∧ Nested.Canonical 2 partlyFailedConfigs ∧
      (layeredDocument.merge layeredOverlay).at? ["memory", "used"] = some (.str "5") ∧
      (layeredDocument.merge layeredOverlay).at? ["rack", "id"] = none ∧
      (partlyFailedStats.merge partlyFailedConfigs).get? "n2" = some (.failed "down") ∧
      (partlyFailedStats.merge partlyFailedConfigs).merge partlyFailedConfigs =
        partlyFailedStats.merge partlyFailedConfigs := by
  have hdocument : layeredDocument.Canonical := Json.canonical_isCanonical _
  have hoverlay : layeredOverlay.Canonical := Json.canonical_isCanonical _
  have hattributes {j : Json} (hj : j.Canonical) :
      Nested.Canonical 0 (Dict.ofList [("memory", j)]) :=
    Nested.canonical_ofAttributes (List.forall_mem_singleton.2 hj)
  have hstats : Nested.Canonical 2 partlyFailedStats := by
    refine Nested.canonical_ofEntries (List.forall_mem_cons.2 ⟨?_, ?_⟩)
    · rintro _ ⟨⟩
      refine Nested.canonical_ofEntries (List.forall_mem_cons.2 ⟨by rintro _ ⟨⟩, ?_⟩)
      refine List.forall_mem_singleton.2 ?_
      rintro _ ⟨⟩
      exact hattributes hdocument
    · exact List.forall_mem_singleton.2 (by rintro _ ⟨⟩)
  have hconfigs : Nested.Canonical 2 partlyFailedConfigs := by
    refine Nested.canonical_ofEntries (List.forall_mem_cons.2 ⟨?_, ?_⟩)
    · rintro _ ⟨⟩
      refine Nested.canonical_ofEntries (List.forall_mem_cons.2 ⟨?_, ?_⟩)
      · rintro _ ⟨⟩
        exact hattributes hoverlay
      · exact List.forall_mem_singleton.2 (by rintro _ ⟨⟩)
    · refine List.forall_mem_singleton.2 ?_
      rintro _ ⟨⟩
      exact fun _ _ hvalue => by cases hvalue
  obtain ⟨hpaths, -, -, -, hentries, -, hagain⟩ :=
    merge_overlays hdocument hoverlay hstats hconfigs
  refine ⟨hdocument, hoverlay, hstats, hconfigs, ?_, ?_, ?_, hagain⟩
  · exact (hpaths ["memory", "used"]).overlay_leaf (.str "5") rfl rfl
  · exact (hpaths ["rack", "id"]).hidden ⟨["rack"], .int 7, ⟨["id"], rfl⟩, by decide, rfl, rfl⟩
  · exact (hentries.failed_iff "n2" "down").2 (.inr ⟨rfl, rfl⟩)

end ClusterReport
