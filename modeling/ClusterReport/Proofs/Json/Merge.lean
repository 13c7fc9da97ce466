/-
**What a merged document holds.**

A document is looked into along a path of keys through its objects.  What two merged documents hold
at a path is decided by the overlay as soon as it says something about the path: a leaf of the
overlay stands there as it is, and hides whatever the base has below it.  An object stands for
itself where the base has no object, and otherwise the two objects are merged.  Where the overlay is
silent the base is left alone.  It follows that merging twice is merging once, and that a document
merged with itself is itself.

Main definitions:

* `ClusterReport.Json.at?` — what a document holds at a path;
* `ClusterReport.Json.StopsBefore` — that a document has a leaf on the way of a path;
* `ClusterReport.Json.MergesAt` — what the merge of two documents holds at a path.

Main results:

* `ClusterReport.Json.get?_mergeFields` — the fields of two objects merged, by key;
* `ClusterReport.Json.at?_merge_of_some`, `at?_merge_of_none` — the merge at a path that the overlay
  reaches, and at one that it does not;
* `ClusterReport.Json.mergesAt_merge` — **what the merge of two documents holds at any path**;
* `ClusterReport.Json.merge_self`, `merge_merge` — **merging is idempotent**.
-/

import ClusterReport.Fetched.Merge
import ClusterReport.Proofs.Dict.Lookup

set_option relaxedAutoImplicit false
set_option autoImplicit false

namespace ClusterReport.Json

/-! ### Paths -/

/-- What a document holds at the end of a path of keys through its objects. -/
def at? (j : Json) : List String → Option Json
  | [] => some j
  | key :: rest => (j.field? key).bind fun value => value.at? rest

@[simp] theorem at?_nil (j : Json) : j.at? [] = some j := rfl

theorem at?_cons (j : Json) (key : String) (rest : List String) :
    j.at? (key :: rest) = (j.field? key).bind fun value => value.at? rest := rfl

theorem at?_append (j : Json) (path more : List String) :
    j.at? (path ++ more) = (j.at? path).bind fun value => value.at? more := by
  induction path generalizing j with
  | nil => rfl
  | cons key rest ih =>
      rw [List.cons_append, at?_cons, at?_cons, Option.bind_assoc]
      exact Option.bind_congr fun value _ => ih value

theorem field?_of_not_object {j : Json} (h : j.isObject = false) (key : String) :
    j.field? key = none := by
  cases j with
  | object fields => cases h
  | _ => rfl

theorem at?_cons_of_not_object {j : Json} (h : j.isObject = false) (key : String)
    (rest : List String) : j.at? (key :: rest) = none := by
  rw [at?_cons, field?_of_not_object h, Option.bind_none]

/-- Whether a document has a leaf on the way of a path, before its end. -/
def StopsBefore (j : Json) (path : List String) : Prop :=
  ∃ start leaf, start <+: path ∧ start ≠ path ∧ j.at? start = some leaf ∧ leaf.isObject = false

theorem StopsBefore.at?_eq_none {j : Json} {path : List String} (h : j.StopsBefore path) :
    j.at? path = none := by
  obtain ⟨start, leaf, ⟨more, rfl⟩, hne, hleaf, hobject⟩ := h
  cases more with
  | nil => exact absurd (List.append_nil start).symm hne
  | cons key rest => rw [at?_append, hleaf, Option.bind_some, at?_cons_of_not_object hobject]

theorem stopsBefore_of_not_object {j : Json} (h : j.isObject = false) (key : String)
    (rest : List String) : j.StopsBefore (key :: rest) :=
  ⟨[], j, List.nil_prefix, List.cons_ne_nil key rest |>.symm, rfl, h⟩

/-- What stops a path below an object is what stops the rest of it below one of the fields. -/
theorem stopsBefore_cons_iff {fields : List (String × Json)} {key : String} {rest : List String} :
    (object fields).StopsBefore (key :: rest) ↔
      ∃ value, Entries.get? key fields = some value ∧ value.StopsBefore rest := by
  constructor
  · rintro ⟨start, leaf, hprefix, hne, hleaf, hobject⟩
    cases start with
    | nil =>
        rw [at?_nil, Option.some.injEq] at hleaf
        rw [← hleaf] at hobject
        cases hobject
    | cons first start =>
        obtain ⟨rfl, hstart⟩ := List.cons_prefix_cons.1 hprefix
        obtain ⟨value, hvalue, hleaf⟩ := Option.bind_eq_some_iff.1 hleaf
        exact ⟨value, hvalue, start, leaf, hstart, fun h => hne (h ▸ rfl), hleaf, hobject⟩
  · rintro ⟨value, hvalue, start, leaf, hprefix, hne, hleaf, hobject⟩
    refine ⟨key :: start, leaf, List.cons_prefix_cons.2 ⟨rfl, hprefix⟩, ?_, ?_, hobject⟩
    · exact fun h => hne (List.cons.inj h).2
    · rw [at?_cons, show (object fields).field? key = some value from hvalue, Option.bind_some]
      exact hleaf

/-! ### Fields of merged objects -/

/-- The fields of two merged objects: the merge of the two values where both have one, and the only
value where one of them has it. -/
theorem get?_mergeFields {theirs : List (String × Json)} (h : Entries.Sorted theirs)
    (mine : List (String × Json)) (key : String) :
    Entries.get? key (mergeFields mine theirs) =
      Option.merge merge (Entries.get? key mine) (Entries.get? key theirs) := by
  -- the fields merged in so far have other keys than those that follow
  induction theirs generalizing mine with
  | nil => cases hmine : Entries.get? key mine <;> simp [mergeFields, hmine]
  | cons first rest ih =>
      obtain ⟨k, value⟩ := first
      obtain ⟨hlt, hrest⟩ := List.pairwise_cons.1 h
      rw [mergeFields, ih hrest, Entries.get?_insert, Entries.get?_cons]
      by_cases hkey : key = k
      · subst hkey
        rw [if_pos rfl, if_pos rfl, Entries.get?_eq_none_of_lt hlt]
        cases Entries.get? key mine <;> rfl
      · rw [if_neg hkey, if_neg hkey]

theorem merge_object (mine theirs : List (String × Json)) :
    merge (.object mine) (.object theirs) = .object (mergeFields mine theirs) := by
  rw [merge]

theorem sorted_mergeFields {mine : List (String × Json)} (h : Entries.Sorted mine)
    (theirs : List (String × Json)) : Entries.Sorted (mergeFields mine theirs) := by
  induction theirs generalizing mine with
  | nil => rwa [mergeFields]
  | cons first rest ih =>
      obtain ⟨key, value⟩ := first
      rw [mergeFields]
      exact ih (h.insert key _)

/-! ### Merges at a path -/

/-- Where the overlay reaches a path, what it holds there is merged over what the base holds. -/
theorem at?_merge_of_some {overlay value : Json} (hoverlay : overlay.Canonical) (base : Json)
    {path : List String} (h : overlay.at? path = some value) :
    (merge base overlay).at? path =
      some ((base.at? path).elim value fun old => merge old value) := by
  induction path generalizing base overlay with
  | nil =>
      obtain rfl : overlay = value := Option.some.inj h
      rfl
  | cons key rest ih =>
      obtain ⟨child, hchild, hvalue⟩ := Option.bind_eq_some_iff.1 h
      cases hoverlay with
      | object theirs hsorted heach =>
          have hcanonical : child.Canonical := heach (key, child) (Entries.mem_of_get? hchild)
          by_cases hbase : base.isObject = false
          · rw [merge_object_of_not_object base theirs hbase, at?_cons_of_not_object hbase]
            exact h
          · cases base with
            | object mine =>
                rw [merge_object, at?_cons, at?_cons, field?, field?, get?_mergeFields hsorted,
                  show Entries.get? key theirs = some child from hchild]
                cases Entries.get? key mine with
                | none => exact hvalue
                | some old => exact ih hcanonical old hvalue
            | _ => exact absurd rfl hbase
      | _ => cases hchild

/-- Where the overlay does not reach a path, the base is seen unless a leaf of the overlay hides
it. -/
theorem at?_merge_of_none {overlay : Json} (hoverlay : overlay.Canonical) (base : Json)
    {path : List String} (h : overlay.at? path = none) :
    (overlay.StopsBefore path → (merge base overlay).at? path = none) ∧
      (¬ overlay.StopsBefore path → (merge base overlay).at? path = base.at? path) := by
  induction path generalizing base overlay with
  | nil => cases h
  | cons key rest ih =>
      by_cases hleaf : overlay.isObject = false
      · -- the overlay is a leaf itself
        rw [merge_of_not_object base overlay hleaf]
        exact ⟨fun _ => h, fun hopen => absurd (stopsBefore_of_not_object hleaf key rest) hopen⟩
      · cases hoverlay with
        | object theirs hsorted heach =>
            by_cases hbase : base.isObject = false
            · rw [merge_object_of_not_object base theirs hbase, at?_cons_of_not_object hbase]
              exact ⟨fun _ => h, fun _ => h⟩
            · cases base with
              | object mine =>
                  rw [stopsBefore_cons_iff, merge_object, at?_cons, at?_cons, field?, field?,
                    get?_mergeFields hsorted]
                  cases htheirs : Entries.get? key theirs with
                  | none =>
                      refine ⟨fun ⟨value, hvalue, _⟩ => ?_, fun _ => ?_⟩
                      · cases hvalue
                      · cases Entries.get? key mine <;> rfl
                  | some child =>
                      have hcanonical : child.Canonical :=
                        heach (key, child) (Entries.mem_of_get? htheirs)
                      have hchild : child.at? rest = none := by
                        rwa [at?_cons, show (object theirs).field? key = some child from htheirs]
                          at h
                      have hstops : (∃ value, some child = some value ∧ value.StopsBefore rest) ↔
                          child.StopsBefore rest :=
                        ⟨fun ⟨value, hvalue, hstop⟩ => Option.some.inj hvalue ▸ hstop,
                          fun hstop => ⟨child, rfl, hstop⟩⟩
                      rw [hstops]
                      cases Entries.get? key mine with
                      | none => exact ⟨fun _ => hchild, fun _ => hchild⟩
                      | some old => exact ih hcanonical old hchild
              | _ => exact absurd rfl hbase
        | _ => exact absurd rfl hleaf

/-- What the merge of two documents holds at a path. -/
structure MergesAt (base overlay merged : Json) (path : List String) : Prop where
  overlay_leaf : ∀ leaf, overlay.at? path = some leaf → leaf.isObject = false →
    merged.at? path = some leaf
  overlay_object : ∀ theirs, overlay.at? path = some (.object theirs) →
    (∀ mine, base.at? path ≠ some (.object mine)) → merged.at? path = some (.object theirs)
  both_objects : ∀ mine theirs, base.at? path = some (.object mine) →
    overlay.at? path = some (.object theirs) →
    ∃ fields, merged.at? path = some (.object fields) ∧
      ∀ key, key ∈ fields.map (·.1) ↔ key ∈ mine.map (·.1) ∨ key ∈ theirs.map (·.1)
  hidden : overlay.StopsBefore path → merged.at? path = none
  silent : overlay.at? path = none → ¬ overlay.StopsBefore path →
    merged.at? path = base.at? path

theorem mem_keys_mergeFields {mine theirs : List (String × Json)} (h : Entries.Sorted theirs)
    {key : String} :
    key ∈ (mergeFields mine theirs).map (·.1) ↔
      key ∈ mine.map (·.1) ∨ key ∈ theirs.map (·.1) := by
  rw [Entries.mem_keys_iff, Entries.mem_keys_iff, Entries.mem_keys_iff, get?_mergeFields h]
  cases Entries.get? key mine <;> cases Entries.get? key theirs <;> simp

theorem Canonical.of_at? {j value : Json} (hj : j.Canonical) {path : List String}
    (h : j.at? path = some value) : value.Canonical := by
  induction path generalizing j with
  | nil => exact Option.some.inj h ▸ hj
  | cons key rest ih =>
      obtain ⟨child, hchild, hvalue⟩ := Option.bind_eq_some_iff.1 h
      cases hj with
      | object fields _ heach => exact ih (heach (key, child) (Entries.mem_of_get? hchild)) hvalue
      | _ => cases hchild

/-- **What the merge of two documents holds at any path.** -/
theorem mergesAt_merge (base : Json) {overlay : Json} (hoverlay : overlay.Canonical)
    (path : List String) : MergesAt base overlay (merge base overlay) path where
  overlay_leaf leaf hleaf hobject := by
    rw [at?_merge_of_some hoverlay base hleaf]
    cases base.at? path with
    | none => rfl
    | some old => exact congrArg some (merge_of_not_object old leaf hobject)
  overlay_object theirs htheirs hbase := by
    rw [at?_merge_of_some hoverlay base htheirs]
    cases hold : base.at? path with
    | none => rfl
    | some old =>
        refine congrArg some (merge_object_of_not_object old theirs ?_)
        cases old with
        | object mine => exact absurd hold (hbase mine)
        | _ => rfl
  both_objects mine theirs hmine htheirs := by
    refine ⟨mergeFields mine theirs, ?_, fun key => ?_⟩
    · rw [at?_merge_of_some hoverlay base htheirs, hmine, Option.elim_some, merge_object]
    · cases hoverlay.of_at? htheirs with
      | object _ hsorted _ => exact mem_keys_mergeFields hsorted
  hidden hstops := (at?_merge_of_none hoverlay base hstops.at?_eq_none).1 hstops
  silent hnone hopen := (at?_merge_of_none hoverlay base hnone).2 hopen

theorem Canonical.merge {base overlay : Json} (hbase : base.Canonical)
    (hoverlay : overlay.Canonical) : (base.merge overlay).Canonical := by
  induction hoverlay generalizing base with
  | object theirs htheirs heach ih =>
      by_cases hleaf : base.isObject = false
      · rw [merge_object_of_not_object base theirs hleaf]
        exact .object theirs htheirs heach
      · cases hbase with
        | object mine hmine hmineEach =>
            have hmerged := sorted_mergeFields hmine theirs
            rw [merge_object]
            refine .object _ hmerged fun field hfield => ?_
            have hget := hmerged.get?_of_mem hfield
            rw [get?_mergeFields htheirs] at hget
            cases hold : Entries.get? field.1 mine with
            | none =>
                rw [hold, Option.merge_none_left] at hget
                exact heach _ (Entries.mem_of_get? hget)
            | some old =>
                have hcanonical := hmineEach _ (Entries.mem_of_get? hold)
                cases hvalue : Entries.get? field.1 theirs with
                | none =>
                    rw [hold, hvalue] at hget
                    exact Option.some.inj hget ▸ hcanonical
                | some value =>
                    rw [hold, hvalue] at hget
                    exact Option.some.inj hget ▸ ih _ (Entries.mem_of_get? hvalue) hcanonical
        | _ => exact absurd rfl hleaf
  | null => exact merge_of_not_object base .null rfl ▸ .null
  | bool value => exact merge_of_not_object base (.bool value) rfl ▸ .bool value
  | int value => exact merge_of_not_object base (.int value) rfl ▸ .int value
  | float value => exact merge_of_not_object base (.float value) rfl ▸ .float value
  | str value => exact merge_of_not_object base (.str value) rfl ▸ .str value
  | array items heach => exact merge_of_not_object base (.array items) rfl ▸ .array items heach

/-! ### Merging twice -/

/-- A document merged with itself is itself. -/
theorem merge_self {j : Json} (h : j.Canonical) : merge j j = j := by
  induction h with
  | object fields hsorted heach ih =>
      rw [merge_object]
      refine congrArg object ((sorted_mergeFields hsorted fields).ext_get? hsorted fun key => ?_)
      rw [get?_mergeFields hsorted]
      cases hvalue : Entries.get? key fields with
      | none => rfl
      | some value => exact congrArg some (ih (key, value) (Entries.mem_of_get? hvalue))
  | _ => exact merge_of_not_object _ _ rfl

/-- **An overlay that is merged in already changes nothing more.** -/
theorem merge_merge {base overlay : Json} (hbase : base.Canonical) (hoverlay : overlay.Canonical) :
    merge (merge base overlay) overlay = merge base overlay := by
  induction hoverlay generalizing base with
  | object theirs htheirs heach ih =>
      by_cases hleaf : base.isObject = false
      · -- the overlay stands in the place of the base
        rw [merge_object_of_not_object base theirs hleaf]
        exact merge_self (.object theirs htheirs heach)
      · cases hbase with
        | object mine hmine hmineEach =>
            have hmerged := sorted_mergeFields hmine theirs
            rw [merge_object, merge_object]
            refine congrArg object ((sorted_mergeFields hmerged theirs).ext_get? hmerged
              fun key => ?_)
            rw [get?_mergeFields htheirs, get?_mergeFields htheirs]
            cases hvalue : Entries.get? key theirs with
            | none => cases Entries.get? key mine <;> rfl
            | some value =>
                have hmem := Entries.mem_of_get? hvalue
                cases hold : Entries.get? key mine with
                | none => exact congrArg some (merge_self (heach (key, value) hmem))
                | some old =>
                    exact congrArg some
                      (ih (key, value) hmem (hmineEach (key, old) (Entries.mem_of_get? hold)))
        | _ => exact absurd rfl hleaf
  | _ => rw [merge_of_not_object _ _ rfl, merge_of_not_object _ _ rfl]

end ClusterReport.Json
