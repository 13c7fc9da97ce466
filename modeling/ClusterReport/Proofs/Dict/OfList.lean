/-
**What a dictionary made of a list keeps.**

A dictionary made of a list has for each key of the list the last entry with that key, and so it
keeps all entries exactly when no two of them have one key.  A list with distinct keys is looked up
in whatever order it stands, which is the case of records that name their fields and leave out some
of them.

Main definitions:

* `ClusterReport.Entries.lastOfKey` — the last entry for each key of a list;
* `ClusterReport.Entries.present` — the fields of a record that are there.

Main results:

* `ClusterReport.Dict.perm_entries_ofList` — **the entries are the last ones of each key**;
* `ClusterReport.Dict.get?_ofList_of_nodup` — lookup in a list with distinct keys;
* `ClusterReport.Dict.get?_ofList_present` — lookup in a record with fields left out.
-/

import ClusterReport.Proofs.Dict.Lookup
import Mathlib.Data.List.Nodup
import Mathlib.Data.List.Pairwise

set_option relaxedAutoImplicit false
set_option autoImplicit false

universe u

namespace ClusterReport

variable {α : Type u}

namespace Entries

/-! ### Keys that occur again -/

/-- The last entry for each key. -/
def lastOfKey (es : List (String × α)) : List (String × α) := es.pwFilter fun a b => a.1 ≠ b.1

theorem insertNew_of_mem_keys {es : List (String × α)} (hes : Sorted es) {key : String}
    (hkey : key ∈ es.map (·.1)) (value : α) : insertNew key value es = es := by
  refine (Sorted.insertNew hes key value).ext_get? hes fun other => ?_
  rw [get?_insertNew hes]
  by_cases hother : other = key
  · obtain ⟨old, hold⟩ := Option.ne_none_iff_exists'.1 (mem_keys_iff.1 hkey)
    rw [hother, hold, Option.some_or]
  · rw [if_neg hother, Option.or_none]

/-- A key that is not there is added to the entries. -/
theorem perm_insertNew {es : List (String × α)} {key : String} (hkey : key ∉ es.map (·.1))
    (value : α) : (insertNew key value es).Perm ((key, value) :: es) := by
  induction es with
  | nil => exact .refl _
  | cons e rest ih =>
      obtain ⟨k, v⟩ := e
      rw [List.map_cons, List.mem_cons, not_or] at hkey
      unfold insertNew
      split
      case isTrue => exact .refl _
      case isFalse =>
        rw [if_neg hkey.1]
        exact ((ih hkey.2).cons _).trans (.swap _ _ _)

/-- **Brought into order, a list is left with the last entry for each key.** -/
theorem perm_normalise (es : List (String × α)) : (normalise es).Perm (lastOfKey es) := by
  induction es with
  | nil => exact .refl _
  | cons e rest ih =>
      have hcons : normalise (e :: rest) = insertNew e.1 e.2 (normalise rest) := rfl
      have hkeys : e.1 ∈ (normalise rest).map (·.1) ↔ ∃ other ∈ lastOfKey rest, e.1 = other.1 := by
        rw [(ih.map _).mem_iff, List.mem_map]
        exact exists_congr fun _ => and_congr_right fun _ => eq_comm
      rw [hcons, lastOfKey]
      by_cases hmem : e.1 ∈ (normalise rest).map (·.1)
      · obtain ⟨other, hother, heq⟩ := hkeys.1 hmem
        rw [List.pwFilter_cons_of_neg fun hall => hall other hother heq,
          insertNew_of_mem_keys (sorted_normalise rest) hmem]
        exact ih
      · rw [List.pwFilter_cons_of_pos fun other hother heq => hmem (hkeys.2 ⟨other, hother, heq⟩)]
        exact (perm_insertNew hmem _).trans (ih.cons e)

/-! ### Distinct keys -/

theorem get?_reverse {es : List (String × α)} (hkeys : (es.map (·.1)).Nodup) (key : String) :
    get? key es.reverse = get? key es := by
  induction es with
  | nil => rfl
  | cons e rest ih =>
      obtain ⟨k, v⟩ := e
      obtain ⟨hk, hrest⟩ := List.nodup_cons.1 hkeys
      rw [List.reverse_cons, get?_append, ih hrest, get?_cons, get?_cons]
      by_cases hkey : key = k
      · rw [if_pos hkey, if_pos hkey, hkey, get?_eq_none_iff.2 hk, Option.none_or]
      · rw [if_neg hkey, if_neg hkey, get?_nil, Option.or_none]

/-- The fields of a record that are there. -/
def present (fields : List (String × Option α)) : List (String × α) :=
  fields.flatMap fun field => (field.2.map fun value => (field.1, value)).toList

theorem keys_present_sublist (fields : List (String × Option α)) :
    ((present fields).map (·.1)).Sublist (fields.map (·.1)) := by
  induction fields with
  | nil => exact .slnil
  | cons field rest ih =>
      obtain ⟨key, value⟩ := field
      rw [present, List.flatMap_cons, List.map_append]
      cases value with
      | none => exact ih.cons key
      | some value => exact ih.cons_cons key

theorem get?_present {fields : List (String × Option α)} (hkeys : (fields.map (·.1)).Nodup)
    (key : String) : get? key (present fields) = (get? key fields).join := by
  induction fields with
  | nil => rfl
  | cons field rest ih =>
      obtain ⟨k, value⟩ := field
      obtain ⟨hk, hrest⟩ := List.nodup_cons.1 hkeys
      have hcons : present ((k, value) :: rest) =
          (value.map fun value => (k, value)).toList ++ present rest := rfl
      rw [hcons, get?_append, ih hrest, get?_cons]
      by_cases hkey : key = k
      · rw [if_pos hkey, hkey, get?_eq_none_iff.2 hk]
        cases value <;> simp [get?_cons]
      · rw [if_neg hkey]
        cases value <;> simp [get?_cons, hkey]

end Entries

namespace Dict

/-- **The entries of a dictionary made of a list are the last ones of each key.** -/
theorem perm_entries_ofList (es : List (String × α)) :
    (ofList es).entries.Perm (Entries.lastOfKey es) :=
  Entries.perm_normalise es

/-- A list with distinct keys is looked up as it stands. -/
theorem get?_ofList_of_nodup {es : List (String × α)} (hkeys : (es.map (·.1)).Nodup)
    (key : String) : (ofList es).get? key = Entries.get? key es := by
  rw [get?_ofList, Entries.get?_reverse hkeys]

/-- A record with fields left out is looked up as it stands. -/
theorem get?_ofList_present {fields : List (String × Option α)}
    (hkeys : (fields.map (·.1)).Nodup) (key : String) :
    (ofList (Entries.present fields)).get? key = (Entries.get? key fields).join := by
  rw [get?_ofList_of_nodup ((Entries.keys_present_sublist fields).nodup hkeys),
    Entries.get?_present hkeys]

end Dict
end ClusterReport
