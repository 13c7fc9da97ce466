/-
**What dictionaries hold.**

What a dictionary lists and what its keys map to are the same thing, and a dictionary made of a list
maps a key to the last of the values that the list has for it.

Main definitions:

* `ClusterReport.Dict.erase` — a dictionary without a key.

Main results:

* `ClusterReport.Dict.mem_entries_iff`, `mem_keys_iff` — the entries and the keys by lookup;
* `ClusterReport.Dict.map_insert`, `insert_eq_map`, `keys_insert_of_get?` — setting the value of a
  key;
* `ClusterReport.Dict.get?_ofList`, `get?_ofList_eq_getLast?` — **of several entries with one key
  the last one stays**;
* `ClusterReport.Dict.mergeWith_self`, `mergeWith_mergeWith` — merging by key is idempotent where it
  is for the values;
* `ClusterReport.Dict.map_mergeWith` — a function goes through merging where it does for the values.
-/

import ClusterReport.Dict

set_option relaxedAutoImplicit false
set_option autoImplicit false

universe u v

namespace ClusterReport

variable {α : Type u}

namespace Entries

theorem get?_eq_none_iff {key : String} {es : List (String × α)} :
    get? key es = none ↔ key ∉ es.map (·.1) := by
  induction es with
  | nil => simp
  | cons e rest ih =>
      obtain ⟨k, v⟩ := e
      rw [get?_cons, List.map_cons, List.mem_cons, not_or, ← ih]
      by_cases h : key = k <;> simp [h]

/-- The keys are those that map to something. -/
theorem mem_keys_iff {key : String} {es : List (String × α)} :
    key ∈ es.map (·.1) ↔ get? key es ≠ none := by
  rw [Ne, get?_eq_none_iff, Decidable.not_not]

/-- The first of two lists that has the key decides. -/
theorem get?_append (key : String) (es fs : List (String × α)) :
    get? key (es ++ fs) = (get? key es).or (get? key fs) := by
  induction es with
  | nil => rfl
  | cons e rest ih =>
      obtain ⟨k, v⟩ := e
      rw [List.cons_append, get?_cons, get?_cons, ih]
      by_cases h : key = k
      · rw [if_pos h, if_pos h, Option.some_or]
      · rw [if_neg h, if_neg h]

theorem get?_eq_head? (key : String) (es : List (String × α)) :
    get? key es = (es.filter fun e => e.1 = key).head?.map (·.2) := by
  induction es with
  | nil => rfl
  | cons e rest ih =>
      obtain ⟨k, v⟩ := e
      rw [get?_cons]
      by_cases h : key = k
      · rw [if_pos h, List.filter_cons_of_pos (by simpa using h.symm)]
        rfl
      · rw [if_neg h, ih, List.filter_cons_of_neg (by simpa using Ne.symm h)]

theorem get?_insertNew {es : List (String × α)} (hes : Sorted es) (key other : String) (value : α) :
    get? other (insertNew key value es) =
      (get? other es).or (if other = key then some value else none) := by
  induction es with
  | nil => rfl
  | cons e rest ih =>
      obtain ⟨k, v⟩ := e
      have hrest : Sorted rest := (List.pairwise_cons.1 hes).2
      unfold insertNew
      split
      case isTrue hkey =>
        by_cases hother : other = key
        · -- the new key is below all that are there
          have hnone : get? other ((k, v) :: rest) = none :=
            hes.get?_eq_none_of_lt_first (hother ▸ hkey)
          rw [get?_cons, if_pos hother, if_pos hother, hnone, Option.none_or]
        · rw [get?_cons, if_neg hother, if_neg hother, Option.or_none]
      case isFalse =>
        split
        case isTrue heq =>
          rw [get?_cons]
          by_cases hother : other = k
          · rw [if_pos hother, Option.some_or]
          · rw [if_neg hother, if_neg fun h => hother (h.trans heq), Option.or_none]
        case isFalse =>
          rw [get?_cons, get?_cons, ih hrest]
          by_cases hother : other = k
          · rw [if_pos hother, if_pos hother, Option.some_or]
          · rw [if_neg hother, if_neg hother]

end Entries

namespace Dict

/-- The entries are the keys with what they map to. -/
theorem mem_entries_iff {d : Dict α} {key : String} {value : α} :
    (key, value) ∈ d.entries ↔ d.get? key = some value :=
  ⟨fun h => d.sorted.get?_of_mem h, Entries.mem_of_get?⟩

/-- The keys are those that map to something. -/
theorem mem_keys_iff {d : Dict α} {key : String} :
    key ∈ d.keys ↔ ∃ value, d.get? key = some value := by
  rw [keys, List.mem_map]
  constructor
  · rintro ⟨⟨k, value⟩, h, rfl⟩
    exact ⟨value, mem_entries_iff.1 h⟩
  · rintro ⟨value, h⟩
    exact ⟨(key, value), mem_entries_iff.2 h, rfl⟩

theorem mem_values_iff {d : Dict α} {value : α} :
    value ∈ d.values ↔ ∃ key, d.get? key = some value := by
  rw [values, List.mem_map]
  constructor
  · rintro ⟨⟨key, value⟩, h, rfl⟩
    exact ⟨key, mem_entries_iff.1 h⟩
  · rintro ⟨key, h⟩
    exact ⟨(key, value), mem_entries_iff.2 h, rfl⟩

@[simp] theorem keys_map {β : Type v} (f : String → α → β) (d : Dict α) :
    (d.map f).keys = d.keys := by
  simp [keys, map]

theorem size_eq_length_keys (d : Dict α) : d.size = d.keys.length := by
  simp [size, keys]

/-- A value can be set before or after all values are replaced. -/
theorem map_insert {β : Type v} (f : String → α → β) (d : Dict α) (key : String) (value : α) :
    (d.insert key value).map f = (d.map f).insert key (f key value) := by
  refine ext_get? fun other => ?_
  rw [get?_map, get?_insert, get?_insert, get?_map]
  by_cases hother : other = key
  · rw [if_pos hother, if_pos hother, hother, Option.map_some]
  · rw [if_neg hother, if_neg hother]

theorem isEmpty_insert (d : Dict α) (key : String) (value : α) :
    (d.insert key value).isEmpty = false := by
  have hmem : (key, value) ∈ (d.insert key value).entries := by
    rw [mem_entries_iff, get?_insert, if_pos rfl]
  rw [isEmpty, List.isEmpty_eq_false_iff]
  exact List.ne_nil_of_mem hmem

/-- Setting the value of a key that is there replaces the value. -/
theorem insert_eq_map {d : Dict α} {key : String} {old : α} (h : d.get? key = some old) (new : α) :
    d.insert key new = d.map fun k value => if k = key then new else value := by
  refine ext_get? fun other => ?_
  rw [get?_insert, get?_map]
  by_cases hother : other = key
  · rw [if_pos hother, hother, h, Option.map_some, if_pos rfl]
  · simp [hother]

theorem map_values_insert {β : Type v} {d : Dict α} {key : String} {old new : α}
    (h : d.get? key = some old) {g : α → β} (hg : g new = g old) :
    (d.insert key new).values.map g = d.values.map g := by
  rw [insert_eq_map h, values, values, map, List.map_map, List.map_map, List.map_map]
  refine List.map_congr_left fun e he => ?_
  rw [Function.comp_apply, Function.comp_apply, Function.comp_apply]
  split
  · rename_i hkey
    have hvalue : d.get? e.1 = some e.2 := mem_entries_iff.1 he
    rw [hkey, h] at hvalue
    rw [hg, Option.some.inj hvalue]
  · rfl

/-- Setting the value of a key that is there adds no key. -/
theorem keys_insert_of_get? {d : Dict α} {key : String} {old : α} (h : d.get? key = some old)
    (new : α) : (d.insert key new).keys = d.keys := by
  rw [insert_eq_map h, keys_map]

theorem pairwise_keys (d : Dict α) : d.keys.Pairwise (· < ·) :=
  (Entries.sorted_iff_keys d.entries).1 d.sorted

theorem nodup_keys (d : Dict α) : d.keys.Nodup := d.pairwise_keys.imp fun h => String.ne_of_lt h

/-- The dictionary without a key. -/
def erase (d : Dict α) (key : String) : Dict α :=
  d.filterMap fun other value => if other = key then none else some value

@[simp] theorem get?_erase (d : Dict α) (key other : String) :
    (d.erase key).get? other = if other = key then none else d.get? other := by
  rw [erase, get?_filterMap]
  by_cases hother : other = key
  · simp [hother]
  · simp [hother]

/-- **Of several entries with one key the last one stays.** -/
theorem get?_ofList (es : List (String × α)) (key : String) :
    (ofList es).get? key = Entries.get? key es.reverse := by
  change Entries.get? key (Entries.normalise es) = _
  induction es with
  | nil => rfl
  | cons e rest ih =>
      have hcons : Entries.normalise (e :: rest) =
          Entries.insertNew e.1 e.2 (Entries.normalise rest) := rfl
      rw [hcons, Entries.get?_insertNew (Entries.sorted_normalise rest), ih, List.reverse_cons,
        Entries.get?_append]
      rfl

/-- A key of a dictionary made of a list has the value of its last entry. -/
theorem get?_ofList_eq_getLast? (es : List (String × α)) (key : String) :
    (ofList es).get? key = (es.filter fun e => e.1 = key).getLast?.map (·.2) := by
  rw [get?_ofList, Entries.get?_eq_head?, List.filter_reverse, List.head?_reverse]

/-- A dictionary can be made again of the entries that are not dropped. -/
theorem ofList_filterMap {β : Type v} (f : String → α → Option β) (d : Dict α) :
    ofList (d.entries.filterMap fun e => (f e.1 e.2).map fun value => (e.1, value)) =
      d.filterMap f :=
  ofList_entries (d.filterMap f)

theorem mem_of_get?_ofList {es : List (String × α)} {key : String} {value : α}
    (h : (ofList es).get? key = some value) : (key, value) ∈ es := by
  rw [get?_ofList] at h
  exact List.mem_reverse.1 (Entries.mem_of_get? h)

theorem mem_keys_ofList {es : List (String × α)} {key : String} :
    key ∈ (ofList es).keys ↔ key ∈ es.map (·.1) := by
  have hnone : (ofList es).get? key = none ↔ key ∉ es.map (·.1) := by
    rw [get?_ofList, Entries.get?_eq_none_iff, List.map_reverse, List.mem_reverse]
  rw [mem_keys_iff, ← Option.ne_none_iff_exists', Ne, hnone, Decidable.not_not]

/-! ### Merges -/

/-- A dictionary merged with itself is itself if its values are. -/
theorem mergeWith_self {f : α → α → α} {d : Dict α}
    (h : ∀ key value, d.get? key = some value → f value value = value) : d.mergeWith f d = d := by
  refine ext_get? fun key => ?_
  rw [get?_mergeWith]
  cases hvalue : d.get? key with
  | none => rfl
  | some value => exact congrArg some (h key value hvalue)

/-- Merging a dictionary in once more changes nothing if it changes none of the values. -/
theorem mergeWith_mergeWith {f : α → α → α} {base overlay : Dict α}
    (hself : ∀ key value, overlay.get? key = some value → f value value = value)
    (hagain : ∀ key old value, base.get? key = some old → overlay.get? key = some value →
      f (f old value) value = f old value) :
    (base.mergeWith f overlay).mergeWith f overlay = base.mergeWith f overlay := by
  refine ext_get? fun key => ?_
  rw [get?_mergeWith, get?_mergeWith]
  cases hvalue : overlay.get? key with
  | none => cases base.get? key <;> rfl
  | some value =>
      cases hold : base.get? key with
      | none => exact congrArg some (hself key value hvalue)
      | some old => exact congrArg some (hagain key old value hold hvalue)

/-- A function that goes through combining values goes through merging by key. -/
theorem map_mergeWith {β : Type v} {combine : α → α → α} {combine' : β → β → β}
    {f : α → β} (hf : ∀ x y, f (combine x y) = combine' (f x) (f y)) (base overlay : Dict α) :
    ((base.mergeWith combine overlay).map fun _ => f) =
      (base.map fun _ => f).mergeWith combine' (overlay.map fun _ => f) := by
  refine ext_get? fun key => ?_
  rw [get?_map, get?_mergeWith, get?_mergeWith, get?_map, get?_map]
  cases base.get? key with
  | none => cases overlay.get? key <;> rfl
  | some mine =>
      cases overlay.get? key with
      | none => rfl
      | some theirs => exact congrArg some (hf mine theirs)

end Dict
end ClusterReport
