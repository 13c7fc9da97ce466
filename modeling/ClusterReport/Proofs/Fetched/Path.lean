/-
**What fetched data tells along a path.**

Attributes stand behind a path of keys, one for each level.  A fetch that failed on the way has
failed for everything behind it, so that along a path there is nothing, a failure, or attributes.
Merging goes along the path: the attributes that merged data has there are those of the two sides,
merged.  And whatever is added, removed or made fail at one path is not seen along any other one.

Main definitions:

* `ClusterReport.Nested.along`, `dataAlong` — what fetched data tells along a path, and the
  attributes among it;
* `ClusterReport.Nested.EditedAt`, `Edited` — that fetched data, or statistics, differ at one path
  at most.

Main results:

* `ClusterReport.Nested.dataAlong_merge` — **merged data tells what the two sides tell, merged**;
* `ClusterReport.Nested.EditedAt.along_eq` — **an edit is seen along the paths that lead to it, and
  along no others**.
-/

import ClusterReport.Proofs.Fetched.Merge

set_option relaxedAutoImplicit false
set_option autoImplicit false

universe u

namespace ClusterReport

/-- The entries that are known behind a key: none where nothing was asked for, and no knowing
after a failure. -/
def Fetched.entries? {α : Type u} : Option (Fetched (Keyed α)) → Option (Keyed α)
  | none => some .empty
  | some (data entries) => some entries
  | some (failed _) => none

theorem Fetched.data?_failed_merge {α : Type u} (combine : α → α → α) (cause : String)
    (overlay : Option (Fetched α)) :
    (Option.merge (merge combine) (some (failed cause)) overlay).bind data? =
      overlay.bind data? := by
  cases overlay with
  | none => rfl
  | some overlay => cases overlay <;> rfl

theorem Fetched.data?_merge_failed {α : Type u} (combine : α → α → α) (base : Option (Fetched α))
    (cause : String) :
    (Option.merge (merge combine) base (some (failed cause))).bind data? = none := by
  cases base with
  | none => rfl
  | some base => cases base <;> rfl

theorem Keyed.isSome_get?_merge {α : Type u} (combine : α → α → α) (base overlay : Keyed α)
    (key : String) : ((merge combine base overlay).get? key).isSome =
      ((base.get? key).isSome || (overlay.get? key).isSome) := by
  rw [get?_merge]
  cases base.get? key <;> cases overlay.get? key <;> rfl

theorem Keyed.data?_merge_of_failed {α : Type u} (combine : α → α → α) (base : Keyed α)
    {overlay : Keyed α} {key cause : String} (h : overlay.get? key = some (.failed cause)) :
    (merge combine base overlay).data? key = none := by
  rw [data?, get?_merge, h]
  exact Fetched.data?_merge_failed combine _ cause

theorem Keyed.data?_merge_of_data {α : Type u} (combine : α → α → α) {base overlay : Keyed α}
    {key : String} {mine theirs : α} (hbase : base.get? key = some (.data mine))
    (hoverlay : overlay.get? key = some (.data theirs)) :
    (merge combine base overlay).data? key = some (combine mine theirs) := by
  rw [data?, get?_merge, hbase, hoverlay]
  rfl

namespace Nested

/-! ### Along a path -/

/-- What fetched data tells along a path of keys, one for each level.  A failure on the way is told
of everything behind it. -/
def along : (depth : Nat) → Option (Fetched (Nested depth)) → List String → Option (Fetched Stats)
  | 0, fetched, _ => fetched
  | _ + 1, some (.failed cause), _ => some (.failed cause)
  | depth + 1, some (.data entries), key :: rest =>
    along depth (Dict.get? (α := Fetched (Nested depth)) entries key) rest
  | _ + 1, _, _ => none

/-- The attributes that fetched data has at the end of a path. -/
def dataAlong (depth : Nat) (fetched : Option (Fetched (Nested depth))) (path : List String) :
    Option Stats :=
  (along depth fetched path).bind Fetched.data?

theorem along_of_entries? {depth : Nat} {fetched : Option (Fetched (Nested (depth + 1)))}
    {entries : Keyed (Nested depth)} (h : Fetched.entries? fetched = some entries) (key : String)
    (rest : List String) :
    along (depth + 1) fetched (key :: rest) = along depth (entries.get? key) rest := by
  cases fetched with
  | none =>
      obtain rfl := Option.some.inj h
      cases depth <;> rfl
  | some fetched =>
      cases fetched with
      | failed cause => cases h
      | data entries' =>
          obtain rfl := Option.some.inj h
          rfl

/-- Where entries are known, nothing is told of all of them at once. -/
theorem along_nil_of_entries? {depth : Nat} {fetched : Option (Fetched (Nested (depth + 1)))}
    {entries : Keyed (Nested depth)} (h : Fetched.entries? fetched = some entries) :
    along (depth + 1) fetched [] = none := by
  cases fetched with
  | none => rfl
  | some fetched =>
      cases fetched with
      | failed cause => cases h
      | data entries' => rfl

theorem along_none (depth : Nat) (path : List String) : along depth none path = none := by
  cases depth <;> rfl

theorem along_failed (depth : Nat) (cause : String) (path : List String) :
    along depth (some (.failed cause)) path = some (.failed cause) := by
  cases depth <;> rfl

/-- Attributes at the end of a path stand behind entries that were fetched. -/
theorem dataAlong_cons (depth : Nat) (entries : Keyed (Nested depth)) (key : String)
    (rest : List String) :
    dataAlong (depth + 1) (some (.data entries)) (key :: rest) =
      (entries.data? key).bind fun inner => dataAlong depth (some (.data inner)) rest := by
  change dataAlong depth (entries.get? key) rest = ((entries.get? key).bind Fetched.data?).bind _
  obtain _ | cause | inner := entries.get? key
  case none => rw [dataAlong, along_none]; rfl
  case some.failed => rw [dataAlong, along_failed]; rfl
  case some.data => rfl

theorem dataAlong_one (entries : NodeStats) (key : String) :
    dataAlong 1 (some (.data entries)) [key] = entries.data? key :=
  (dataAlong_cons 0 entries key []).trans (Option.bind_fun_some _)

theorem dataAlong_two (entries : NamespaceStats) (first second : String) :
    dataAlong 2 (some (.data entries)) [first, second] =
      (entries.data? first).bind fun inner => inner.data? second := by
  refine (dataAlong_cons 1 entries first [second]).trans ?_
  exact congrArg _ (funext fun inner => dataAlong_one inner second)

theorem dataAlong_three (entries : SetStats) (first second third : String) :
    dataAlong 3 (some (.data entries)) [first, second, third] =
      ((entries.data? first).bind fun inner => inner.data? second).bind fun inner =>
        inner.data? third := by
  refine (dataAlong_cons 2 entries first [second, third]).trans ?_
  rw [Option.bind_assoc]
  exact congrArg _ (funext fun inner => dataAlong_two inner second third)

/-! ### Merges -/

/-- **Merged data has along a path what the two sides tell there, merged.**  Of failures only this
much is true: the one of a whole node is not told where the overlay has entries that do not mention
what lies behind. -/
theorem dataAlong_merge (depth : Nat) (base overlay : Option (Fetched (Nested depth)))
    (path : List String) :
    dataAlong depth (Option.merge (Fetched.merge (merge depth)) base overlay) path =
      (Option.merge (Fetched.merge Stats.merge) (along depth base path)
        (along depth overlay path)).bind Fetched.data? := by
  induction depth generalizing path with
  | zero => rfl
  | succ depth ih =>
      -- only where both sides have entries does the path go on in both of them
      obtain _ | cause | theirs := overlay
      case none => rw [Option.merge_none_right, along_none, Option.merge_none_right, dataAlong]
      case some.failed =>
        rw [along_failed, Fetched.data?_merge_failed, dataAlong]
        cases base with
        | none => rfl
        | some base => cases base <;> rfl
      case some.data =>
        obtain _ | cause | mine := base
        case none => rw [Option.merge_none_left, along_none, Option.merge_none_left, dataAlong]
        case some.failed =>
          rw [along_failed, Fetched.data?_failed_merge]
          rfl
        case some.data =>
          cases path with
          | nil => rfl
          | cons key rest =>
              have hentry := Keyed.get?_merge (merge depth) mine theirs key
              exact (congrArg (dataAlong depth · rest) hentry).trans (ih _ _ rest)

/-! ### Edits -/

/-- Fetched data before and after an edit at a path.  The entries along the path are known before
and after, and all but the one that the path goes on with are the same; at the end of the path
anything may have come, gone, or failed. -/
inductive EditedAt : (depth : Nat) → List String → Option (Fetched (Nested depth)) →
    Option (Fetched (Nested depth)) → Prop
  | here {depth : Nat} (before after : Option (Fetched (Nested depth))) :
      EditedAt depth [] before after
  | behind {depth : Nat} {before after : Option (Fetched (Nested (depth + 1)))}
      {old new : Keyed (Nested depth)} {key : String} {rest : List String}
      (hbefore : Fetched.entries? before = some old) (hafter : Fetched.entries? after = some new)
      (hothers : ∀ other, other ≠ key → new.get? other = old.get? other)
      (hedited : EditedAt depth rest (old.get? key) (new.get? key)) :
      EditedAt (depth + 1) (key :: rest) before after

/-- Statistics before and after an edit at a path. -/
def Edited (depth : Nat) (path : List String) (before after : Nested depth) : Prop :=
  EditedAt depth path (some (.data before)) (some (.data after))

/-- **An edit is seen along the paths that lead to it, and along no others.** -/
theorem EditedAt.along_eq {depth : Nat} {edited path : List String}
    {before after : Option (Fetched (Nested depth))} (h : EditedAt depth edited before after)
    (hpath : ¬ edited <+: path) : along depth after path = along depth before path := by
  induction h generalizing path with
  | here => exact absurd List.nil_prefix hpath
  | @behind depth before after old new key rest hbefore hafter hothers _ ih =>
      cases path with
      | nil => rw [along_nil_of_entries? hbefore, along_nil_of_entries? hafter]
      | cons first path =>
          rw [along_of_entries? hbefore, along_of_entries? hafter]
          by_cases hfirst : first = key
          · subst hfirst
            exact ih fun h => hpath ((List.prefix_cons_inj first).2 h)
          · rw [hothers first hfirst]

end Nested
end ClusterReport
