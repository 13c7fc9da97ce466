/-
**Respelled statistics.**

Statistics are respelled attribute by attribute: at every level of keys the same entries are there
and the same ones failed, and at the bottom each attribute is the same value in one of its
spellings.  Such statistics become equal once all integers are spelled as texts, and that can be
done before or after they are merged.

Main definitions:

* `ClusterReport.Dict.Related`, `Keyed.Related` — entries that go together key by key;
* `ClusterReport.Keyed.mapData` — fetched data with a function applied to what was fetched;
* `ClusterReport.Stats.Respelled`, `NodeStats.Respelled`, `NamespaceStats.Respelled`,
  `SetStats.Respelled` — statistics before and after some attributes were respelled;
* `ClusterReport.Stats.spelled`, `NodeStats.spelled`, `NamespaceStats.spelled`, `SetStats.spelled` —
  statistics with all integers spelled as texts.

Main results:

* `ClusterReport.Keyed.mapData_merge` — a function that goes through merging does so one level
  above;
* `ClusterReport.NodeStats.spelled_merge`, `NamespaceStats.spelled_merge`,
  `SetStats.spelled_merge` — **merging does not depend on the spelling**;
* `ClusterReport.Stats.int?_spelled`, `text?_spelled`, `reports_spelled` — **neither do readings**.
-/

import ClusterReport.Proofs.Attribute.Spelling
import ClusterReport.Proofs.Dict.Lookup
import ClusterReport.StopWrites.Diagnosis
import Mathlib.Data.List.Forall2

set_option relaxedAutoImplicit false
set_option autoImplicit false

universe u v w

namespace ClusterReport

variable {α : Type u} {β : Type v}

/-! ### Entries that go together -/

theorem map_eq_of_rel {γ : Type w} {r : α → β → Prop} {f : α → γ} {g : β → γ}
    {x : Option α} {y : Option β} (h : Option.Rel r x y) (hr : ∀ {x y}, r x y → f x = g y) :
    x.map f = y.map g := by
  cases h with
  | some hxy => exact congrArg some (hr hxy)
  | none => rfl

namespace Dict

/-- The dictionaries have the same keys, and the values under each key go together. -/
def Related (r : α → β → Prop) (a : Dict α) (b : Dict β) : Prop :=
  ∀ key, Option.Rel r (a.get? key) (b.get? key)

/-- Values that go together and have one image make equal dictionaries of images. -/
theorem Related.map_eq {γ : Type w} {r : α → β → Prop} {f : α → γ} {g : β → γ}
    {a : Dict α} {b : Dict β} (h : Related r a b) (hr : ∀ {x y}, r x y → f x = g y) :
    (a.map fun _ => f) = b.map fun _ => g := by
  refine ext_get? fun key => ?_
  rw [get?_map, get?_map]
  exact map_eq_of_rel (h key) hr

theorem Related.forall₂_entries {r : α → β → Prop} {a : Dict α} {b : Dict β}
    (h : Related r a b) :
    List.Forall₂ (fun e f => e.1 = f.1 ∧ r e.2 f.2) a.entries b.entries := by
  have hkeys : a.keys = b.keys := by
    rw [← keys_map (fun _ _ => ()) a, ← keys_map (fun _ _ => ()) b, h.map_eq fun _ => rfl]
  rw [← List.forall₂_eq_eq_eq, keys, keys, List.forall₂_map_left_iff,
    List.forall₂_map_right_iff] at hkeys
  refine List.forall₂_iff_zip.2 ⟨hkeys.length_eq, fun {e f} hmem => ?_⟩
  have hkey : e.1 = f.1 := List.forall₂_zip hkeys hmem
  obtain ⟨he, hf⟩ := List.of_mem_zip hmem
  have hrel := h e.1
  rw [mem_entries_iff.1 he, hkey, mem_entries_iff.1 hf] at hrel
  cases hrel with
  | some hvalues => exact ⟨hkey, hvalues⟩

theorem related_ofList {r : α → β → Prop} {es : List (String × α)} {fs : List (String × β)}
    (h : List.Forall₂ (fun e f => e.1 = f.1 ∧ r e.2 f.2) es fs) :
    Related r (ofList es) (ofList fs) := by
  intro key
  rw [get?_ofList, get?_ofList]
  have hreverse := List.forall₂_reverse_iff.2 h
  generalize es.reverse = es at hreverse ⊢
  generalize fs.reverse = fs at hreverse ⊢
  induction hreverse with
  | nil => exact .none
  | @cons e f _ _ hentry _ ih =>
      rw [Entries.get?_cons, Entries.get?_cons, hentry.1]
      split
      case isTrue => exact .some hentry.2
      case isFalse => exact ih

end Dict

/-- Both fetches came back with data that goes together, or failed with the same cause. -/
inductive Fetched.Related (r : α → β → Prop) : Fetched α → Fetched β → Prop where
  | failed (cause : String) : Related r (.failed cause) (.failed cause)
  | data {x : α} {y : β} (h : r x y) : Related r (.data x) (.data y)

namespace Keyed

/-- The same entries are there, and what was fetched goes together. -/
def Related (r : α → β → Prop) : Keyed α → Keyed β → Prop := Dict.Related (Fetched.Related r)

/-- Fetched data with a function applied to what was fetched. -/
def mapData (f : α → β) (d : Keyed α) : Keyed β := Dict.map (fun _ fetched => fetched.map f) d

theorem Related.mapData_eq {γ : Type w} {r : α → β → Prop} {f : α → γ} {g : β → γ}
    {a : Keyed α} {b : Keyed β} (h : Related r a b) (hr : ∀ {x y}, r x y → f x = g y) :
    mapData f a = mapData g b := by
  refine Dict.Related.map_eq h fun hxy => ?_
  cases hxy with
  | failed cause => rfl
  | data hxy => exact congrArg Fetched.data (hr hxy)

/-- **A function that goes through merging does so one level above.** -/
theorem mapData_merge {combine : α → α → α} {combine' : β → β → β} {f : α → β}
    (hf : ∀ x y, f (combine x y) = combine' (f x) (f y)) (base overlay : Keyed α) :
    mapData f (merge combine base overlay) =
      merge combine' (mapData f base) (mapData f overlay) := by
  refine Dict.map_mergeWith (fun mine theirs => ?_) base overlay
  cases theirs with
  | failed cause => cases mine <;> rfl
  | data value =>
      cases mine with
      | failed cause => rfl
      | data old => exact congrArg Fetched.data (hf old value)

@[simp] theorem keys_mapData (f : α → β) (d : Keyed α) : Dict.keys (mapData f d) = Dict.keys d :=
  Dict.keys_map _ _

@[simp] theorem data?_mapData (f : α → β) (d : Keyed α) (key : String) :
    data? (mapData f d) key = (data? d key).map f := by
  rw [data?, mapData, Dict.get?_map, data?]
  cases Dict.get? d key with
  | none => rfl
  | some fetched => cases fetched <;> rfl

@[simp] theorem fetched_mapData (f : α → β) (d : Keyed α) :
    fetched (mapData f d) = d.fetched.map fun _ => f := by
  refine Dict.ext_get? fun key => ?_
  have hdata := data?_mapData f d key
  rw [fetched, Dict.get?_filterMap, Dict.get?_map, fetched, Dict.get?_filterMap]
  exact hdata

theorem entries_fetched_mapData (f : α → β) (d : Keyed α) :
    (fetched (mapData f d)).entries = d.fetched.entries.map fun e => (e.1, f e.2) := by
  rw [fetched_mapData, Dict.map]

theorem values_fetched_mapData (f : α → β) (d : Keyed α) :
    (fetched (mapData f d)).values = d.fetched.values.map f := by
  rw [Dict.values, entries_fetched_mapData, Dict.values, List.map_map, List.map_map]
  rfl

theorem getD_map_mapData (f : α → β) (d : Option (Keyed α)) :
    (d.map (mapData f)).getD .empty = mapData f (d.getD .empty) := by
  cases d <;> rfl

end Keyed

/-! ### Attributes -/

namespace Stats

/-- Attributes before and after some of them were respelled. -/
def Respelled : Stats → Stats → Prop := Dict.Related Json.Respelled

/-- The attributes with all integers spelled as texts. -/
def spelled (stats : Stats) : Stats := stats.map fun _ => Json.spelled

theorem Respelled.spelled_eq {stats other : Stats} (h : Respelled stats other) :
    stats.spelled = other.spelled := Dict.Related.map_eq h Json.Respelled.spelled_eq

theorem spelled_merge (base overlay : Stats) :
    (base.merge overlay).spelled = base.spelled.merge overlay.spelled :=
  Dict.map_mergeWith Json.spelled_merge base overlay

theorem get?_spelled (stats : Stats) (key : String) :
    Dict.get? stats.spelled key = (Dict.get? stats key).map Json.spelled := Dict.get?_map _ _ _

@[simp] theorem int?_spelled (stats : Stats) (key : String) :
    stats.spelled.int? key = stats.int? key := by
  rw [int?, get?_spelled, int?, Option.bind_map]
  exact congrArg (Option.bind _) (funext Json.toInt?_spelled)

@[simp] theorem text?_spelled (stats : Stats) (key : String) :
    stats.spelled.text? key = stats.text? key := by
  rw [text?, get?_spelled, text?, Option.bind_map]
  exact congrArg (Option.bind _) (funext Json.toText?_spelled)

/-- A respelled attribute is still there, and a null still is none. -/
@[simp] theorem reports_spelled (stats : Stats) (key : String) :
    stats.spelled.reports key = stats.reports key := by
  rw [reports, get?_spelled, reports]
  cases Dict.get? stats key with
  | none => rfl
  | some value =>
      have hspelled := Json.respelled_spelled value
      rw [Option.map_some]
      generalize value.spelled = other at hspelled ⊢
      cases hspelled <;> rfl

end Stats

/-! ### Statistics -/

/-- Statistics of nodes before and after some attributes were respelled. -/
def NodeStats.Respelled : NodeStats → NodeStats → Prop := Keyed.Related Stats.Respelled

/-- Statistics of namespaces before and after some attributes were respelled. -/
def NamespaceStats.Respelled : NamespaceStats → NamespaceStats → Prop :=
  Keyed.Related NodeStats.Respelled

/-- Statistics of sets before and after some attributes were respelled. -/
def SetStats.Respelled : SetStats → SetStats → Prop := Keyed.Related NamespaceStats.Respelled

/-- Statistics of nodes with all integers spelled as texts. -/
def NodeStats.spelled : NodeStats → NodeStats := Keyed.mapData Stats.spelled

/-- Statistics of namespaces with all integers spelled as texts. -/
def NamespaceStats.spelled : NamespaceStats → NamespaceStats := Keyed.mapData NodeStats.spelled

/-- Statistics of sets with all integers spelled as texts. -/
def SetStats.spelled : SetStats → SetStats := Keyed.mapData NamespaceStats.spelled

theorem NodeStats.Respelled.spelled_eq {stats other : NodeStats}
    (h : NodeStats.Respelled stats other) : NodeStats.spelled stats = NodeStats.spelled other :=
  Keyed.Related.mapData_eq h Stats.Respelled.spelled_eq

theorem NamespaceStats.Respelled.spelled_eq {stats other : NamespaceStats}
    (h : NamespaceStats.Respelled stats other) :
    NamespaceStats.spelled stats = NamespaceStats.spelled other :=
  Keyed.Related.mapData_eq h NodeStats.Respelled.spelled_eq

theorem SetStats.Respelled.spelled_eq {stats other : SetStats}
    (h : SetStats.Respelled stats other) : SetStats.spelled stats = SetStats.spelled other :=
  Keyed.Related.mapData_eq h NamespaceStats.Respelled.spelled_eq

theorem NodeStats.spelled_merge (base overlay : NodeStats) :
    NodeStats.spelled (base.merge overlay) =
      (NodeStats.spelled base).merge (NodeStats.spelled overlay) :=
  Keyed.mapData_merge Stats.spelled_merge base overlay

theorem NamespaceStats.spelled_merge (base overlay : NamespaceStats) :
    NamespaceStats.spelled (base.merge overlay) =
      (NamespaceStats.spelled base).merge (NamespaceStats.spelled overlay) :=
  Keyed.mapData_merge NodeStats.spelled_merge base overlay

theorem SetStats.spelled_merge (base overlay : SetStats) :
    SetStats.spelled (base.merge overlay) =
      (SetStats.spelled base).merge (SetStats.spelled overlay) :=
  Keyed.mapData_merge NamespaceStats.spelled_merge base overlay

end ClusterReport
