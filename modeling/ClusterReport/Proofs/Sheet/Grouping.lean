/-
**What grouping and ordering do to records.**

Records are grouped by one key after the other, and each group is then sorted by one key after the
other.  Both are repeated stable sorts, and their joint effect is described by the tuples of cells
that a record has under the keys: the groups partition the records by the tuple under the group
keys, and stand in the order of these tuples; inside a group the records are sorted by the tuple
under the order keys, and those with one such tuple stand as they came.

Main definitions:

* `ClusterReport.Sheet.Record.tuple` — the cells of a record under some keys;
* `ClusterReport.Sheet.compareTuples` — the lexicographic order of tuples;
* `ClusterReport.Sheet.IsGrouping` — what grouping by some keys keeps true from key to key;
* `ClusterReport.Sheet.IsArrangement` — what is true of records grouped and then ordered.

Main results:

* `ClusterReport.Sheet.isGrouping_split` — cutting every group by one more key keeps a grouping;
* `ClusterReport.Sheet.pairwise_sortAll` — sorting by the last key first sorts by tuples;
* `ClusterReport.Sheet.isArrangement_order_group` — **grouping and ordering arrange the records**.
-/

import ClusterReport.Proofs.Cell.Order
import ClusterReport.Proofs.Sheet.Runs
import ClusterReport.Sheet.Grouping
import Mathlib.Data.List.Perm.Basic

set_option relaxedAutoImplicit false
set_option autoImplicit false

namespace ClusterReport.Sheet

open Std (OrientedCmp ReflCmp TransCmp)

/-! ### Tuples -/

/-- The cells of a record under some keys. -/
def Record.tuple (keys : List String) (r : Record) : List (Cell Scalar) := keys.map r.cell

/-- The lexicographic order of tuples of cells, the first cell being the most significant. -/
def compareTuples : List (Cell Scalar) → List (Cell Scalar) → Ordering :=
  List.compareLex (Cell.compare Scalar.compare)

instance : TransCmp compareTuples :=
  inferInstanceAs (TransCmp (List.compareLex (Cell.compare Scalar.compare)))

instance (key : String) : TransCmp (Record.compareAt key) where
  eq_swap {a b} := by
    change Cell.compare Scalar.compare (a.cell key) (b.cell key) =
      (Cell.compare Scalar.compare (b.cell key) (a.cell key)).swap
    exact OrientedCmp.eq_swap
  isLE_trans {a b c} hab hbc :=
    @TransCmp.isLE_trans _ (Cell.compare Scalar.compare) _ (a.cell key) (b.cell key) (c.cell key)
      hab hbc

@[simp] theorem Record.tuple_nil (r : Record) : Record.tuple [] r = [] := rfl

theorem Record.tuple_cons (key : String) (keys : List String) (r : Record) :
    Record.tuple (key :: keys) r = r.cell key :: Record.tuple keys r := rfl

theorem Record.tuple_concat (keys : List String) (key : String) (r : Record) :
    Record.tuple (keys ++ [key]) r = Record.tuple keys r ++ [r.cell key] := by
  simp [Record.tuple]

@[simp] theorem Record.length_tuple (keys : List String) (r : Record) :
    (Record.tuple keys r).length = keys.length := by
  simp [Record.tuple]

@[simp] theorem compareTuples_nil : compareTuples [] [] = .eq := rfl

theorem compareTuples_cons (c d : Cell Scalar) (s t : List (Cell Scalar)) :
    compareTuples (c :: s) (d :: t) =
      (Cell.compare Scalar.compare c d).then (compareTuples s t) :=
  List.compareLex_cons_cons

/-- Tuples of one length are compared from left to right, also when they are put together. -/
theorem compareTuples_append {s s' : List (Cell Scalar)} (h : s.length = s'.length)
    (t t' : List (Cell Scalar)) :
    compareTuples (s ++ t) (s' ++ t') = (compareTuples s s').then (compareTuples t t') := by
  induction s generalizing s' with
  | nil =>
      rw [List.length_eq_zero_iff.1 h.symm]
      rfl
  | cons c s ih =>
      cases s' with
      | nil => simp at h
      | cons d s' =>
          rw [List.cons_append, List.cons_append, compareTuples_cons, compareTuples_cons,
            ih (by simpa using h), Ordering.then_assoc]

theorem compareTuples_eq_iff (s t : List (Cell Scalar)) :
    compareTuples s t = .eq ↔
      List.Forall₂ (fun c d => Cell.compare Scalar.compare c d = .eq) s t := by
  induction s generalizing t with
  | nil =>
      cases t with
      | nil => simp
      | cons d t => simp [compareTuples, List.compareLex_nil_cons]
  | cons c s ih =>
      cases t with
      | nil => simp [compareTuples, List.compareLex_cons_nil]
      | cons d t => rw [compareTuples_cons, Ordering.then_eq_eq, ih, List.forall₂_cons]

theorem compareTuples_concat (keys : List String) (key : String) (r : Record)
    {tuple : List (Cell Scalar)} (h : tuple.length = keys.length) (c : Cell Scalar) :
    compareTuples (r.tuple (keys ++ [key])) (tuple ++ [c]) =
      (compareTuples (r.tuple keys) tuple).then (Cell.compare Scalar.compare (r.cell key) c) := by
  rw [Record.tuple_concat, compareTuples_append (by simp [h]), compareTuples_cons,
    compareTuples_nil, Ordering.then_eq]

/-! ### One key -/

theorem pairwise_sortAt (key : String) (records : List Record) :
    (sortAt key records).Pairwise fun a b => (Record.compareAt key a b).isLE = true :=
  pairwise_isLE_mergeSort records

/-- Sorting by a key keeps records in their order that have equal cells under it. -/
theorem filter_sortAt {key : String} (cell : Cell Scalar) (p : Record → Bool)
    (hp : ∀ r, p r = true → Cell.compare Scalar.compare (r.cell key) cell = .eq)
    (records : List Record) : (sortAt key records).filter p = records.filter p := by
  refine filter_mergeSort p ?_ records
  intro a b ha hb
  have hab : Cell.compare Scalar.compare (a.cell key) (b.cell key) = .eq :=
    TransCmp.eq_trans (hp a ha) (OrientedCmp.eq_symm (hp b hb))
  rw [Record.compareAt, hab]
  rfl

/-- The group that a run of records makes. -/
def Group.ofRun? (key : String) (g : Group) (run : List Record) : Option Group :=
  run.head?.map fun first => { key := g.key ++ [first.cell key], records := run }

/-- The runs of a group's records under one more key. -/
def Group.runs (key : String) (g : Group) : List (List Record) :=
  (sortAt key g.records).splitBy fun a b => Record.compareAt key a b == .eq

theorem Group.split_eq (key : String) (g : Group) :
    g.split key = (g.runs key).filterMap (g.ofRun? key) := rfl

theorem Group.map_records_split (key : String) (g : Group) :
    (g.split key).map Group.records = g.runs key := by
  have hne : ∀ run ∈ g.runs key, run ≠ [] := fun run hrun => List.ne_nil_of_mem_splitBy hrun
  rw [Group.split_eq]
  generalize g.runs key = runs at hne
  induction runs with
  | nil => rfl
  | cons run rest ih =>
      obtain ⟨first, records, rfl⟩ :=
        List.exists_cons_of_ne_nil (hne run List.mem_cons_self)
      have hfirst : g.ofRun? key (first :: records) =
          some { key := g.key ++ [first.cell key], records := first :: records } := rfl
      rw [List.filterMap_cons_some hfirst, List.map_cons,
        ih fun run hrun => hne run (List.mem_cons_of_mem _ hrun)]

theorem Group.perm_split (key : String) (g : Group) :
    ((g.split key).flatMap Group.records).Perm g.records := by
  rw [List.flatMap_def, Group.map_records_split, Group.runs, List.flatten_splitBy]
  exact List.mergeSort_perm _ _

/-- A group cut out by one more key has one more cell in its key, and holds the records with that
cell in the order they had. -/
theorem Group.of_mem_split {key : String} {g h : Group} (hh : h ∈ g.split key) :
    h.records ≠ [] ∧ ∃ cell, h.key = g.key ++ [cell] ∧ h.records =
      g.records.filter fun r => Cell.compare Scalar.compare (r.cell key) cell == .eq := by
  rw [Group.split_eq] at hh
  obtain ⟨run, hrun, hof⟩ := List.mem_filterMap.1 hh
  obtain ⟨first, hfirst, rfl⟩ := Option.map_eq_some_iff.1 hof
  have hmem : first ∈ run := List.mem_of_mem_head? hfirst
  refine ⟨List.ne_nil_of_mem hmem, first.cell key, rfl, ?_⟩
  have hall := eq_filter_of_mem_runs (pairwise_sortAt key g.records) hrun hmem
  -- the run holds all records of its place, and sorting has left these in their order
  exact hall.trans (filter_sortAt (first.cell key) _ (fun r hr => beq_iff_eq.1 hr) g.records)

theorem Group.pairwise_split (key : String) (g : Group) :
    (g.split key).Pairwise fun a b => compareTuples a.key b.key = .lt := by
  rw [Group.split_eq]
  refine List.Pairwise.filterMap _ ?_ (pairwise_runs (pairwise_sortAt key g.records))
  intro r s hlt a ha b hb
  obtain ⟨first, hfirst, rfl⟩ := Option.map_eq_some_iff.1 ha
  obtain ⟨first', hfirst', rfl⟩ := Option.map_eq_some_iff.1 hb
  have hcells := hlt first (List.mem_of_mem_head? hfirst) first' (List.mem_of_mem_head? hfirst')
  have hkey : compareTuples g.key g.key = .eq := ReflCmp.compare_self
  rw [compareTuples_append rfl, hkey, compareTuples_cons, compareTuples_nil, Ordering.then_eq]
  exact hcells

/-- What grouping by some keys keeps true: the groups partition the records by their tuples under
the keys, in the order of the tuples, and each group keeps its records as they came. -/
structure IsGrouping (keys : List String) (records : List Record) (groups : List Group) : Prop where
  perm : (groups.flatMap Group.records).Perm records
  length_key : ∀ g ∈ groups, g.key.length = keys.length
  records_eq : ∀ g ∈ groups, g.records =
    records.filter fun r => compareTuples (r.tuple keys) g.key == .eq
  records_ne_nil : keys ≠ [] → ∀ g ∈ groups, g.records ≠ []
  increasing : groups.Pairwise fun g h => compareTuples g.key h.key = .lt

theorem isGrouping_nil (records : List Record) : IsGrouping [] records [{ records }] where
  perm := by simp
  length_key g hg := by
    rw [List.mem_singleton.1 hg]
    rfl
  records_eq g hg := by
    rw [List.mem_singleton.1 hg]
    simp
  records_ne_nil h := absurd rfl h
  increasing := List.pairwise_singleton _ _

/-- **Cutting every group by one more key keeps a grouping.** -/
theorem isGrouping_split {keys : List String} {records : List Record} {groups : List Group}
    (h : IsGrouping keys records groups) (key : String) :
    IsGrouping (keys ++ [key]) records (groups.flatMap (Group.split key)) where
  perm := by
    rw [List.flatMap_assoc]
    exact (List.Perm.flatMap_left groups fun g _ => g.perm_split key).trans h.perm
  length_key part hpart := by
    obtain ⟨g, hg, hsplit⟩ := List.mem_flatMap.1 hpart
    obtain ⟨-, cell, hkey, -⟩ := Group.of_mem_split hsplit
    rw [hkey, List.length_append, List.length_append, h.length_key g hg]
    rfl
  records_eq part hpart := by
    obtain ⟨g, hg, hsplit⟩ := List.mem_flatMap.1 hpart
    obtain ⟨-, cell, hkey, hrecords⟩ := Group.of_mem_split hsplit
    -- equal under `keys` and under `key` is equal under all of them
    rw [hrecords, h.records_eq g hg, List.filter_filter]
    refine List.filter_congr fun r _ => ?_
    rw [hkey, compareTuples_concat keys key r (h.length_key g hg) cell]
    cases compareTuples (r.tuple keys) g.key <;> simp
  records_ne_nil _ part hpart := by
    obtain ⟨g, hg, hsplit⟩ := List.mem_flatMap.1 hpart
    exact (Group.of_mem_split hsplit).1
  increasing := by
    rw [List.pairwise_flatMap]
    refine ⟨fun g _ => g.pairwise_split key, ?_⟩
    refine h.increasing.imp_of_mem fun {g g'} hg hg' hlt part hpart part' hpart' => ?_
    obtain ⟨-, cell, hkey, -⟩ := Group.of_mem_split hpart
    obtain ⟨-, cell', hkey', -⟩ := Group.of_mem_split hpart'
    have hlength : g.key.length = g'.key.length := by
      rw [h.length_key g hg, h.length_key g' hg']
    rw [hkey, hkey', compareTuples_append hlength, hlt]
    rfl

/-- Grouping by some keys makes a grouping by them. -/
theorem isGrouping_group (keys : List String) (records : List Record) :
    IsGrouping keys records (group keys records) := by
  -- the keys are worked off from the left, behind those that have been
  have hrun : ∀ (rest done : List String) (groups : List Group), IsGrouping done records groups →
      IsGrouping (done ++ rest) records
        (rest.foldl (fun groups key => groups.flatMap (Group.split key)) groups) := by
    intro rest
    induction rest with
    | nil =>
        intro done groups h
        simpa using h
    | cons key rest ih =>
        intro done groups h
        have hnext := ih (done ++ [key]) _ (isGrouping_split h key)
        rwa [List.append_assoc] at hnext
  exact hrun keys [] _ (isGrouping_nil records)

/-! ### Ordering by some keys -/

/-- Records sorted by some keys, the first of them the most significant. -/
def sortAll (keys : List String) (records : List Record) : List Record :=
  keys.foldr sortAt records

theorem Group.records_order (keys : List String) (g : Group) :
    (g.order keys).records = sortAll keys g.records := rfl

theorem sortAll_cons (key : String) (keys : List String) (records : List Record) :
    sortAll (key :: keys) records = sortAt key (sortAll keys records) := rfl

theorem perm_sortAll (keys : List String) (records : List Record) :
    (sortAll keys records).Perm records := by
  induction keys with
  | nil => exact List.Perm.refl records
  | cons key keys ih => exact (List.mergeSort_perm _ _).trans ih

theorem filter_sortAll (keys : List String) (tuple : List (Cell Scalar)) (p : Record → Bool)
    (hp : ∀ r, p r = true → compareTuples (Record.tuple keys r) tuple = .eq)
    (records : List Record) : (sortAll keys records).filter p = records.filter p := by
  induction keys generalizing tuple with
  | nil => rfl
  | cons key keys ih =>
      -- a tuple with a place like that of a record has a first cell, and it decides about `key`
      cases tuple with
      | nil =>
          have hnone : ∀ r, ¬ p r = true := by
            intro r hr
            simpa [compareTuples, Record.tuple_cons, List.compareLex_cons_nil] using hp r hr
          rw [List.filter_eq_nil_iff.2 fun r _ => hnone r,
            List.filter_eq_nil_iff.2 fun r _ => hnone r]
      | cons cell tuple =>
          have hcell : ∀ r, p r = true → Cell.compare Scalar.compare (r.cell key) cell = .eq ∧
              compareTuples (Record.tuple keys r) tuple = .eq := by
            intro r hr
            have h := hp r hr
            rwa [Record.tuple_cons, compareTuples_cons, Ordering.then_eq_eq] at h
          rw [sortAll_cons, filter_sortAt cell p fun r hr => (hcell r hr).1,
            ih tuple fun r hr => (hcell r hr).2]

/-- **Sorting by the last key first sorts by tuples.** -/
theorem pairwise_sortAll (keys : List String) (records : List Record) :
    (sortAll keys records).Pairwise fun a b =>
      (compareTuples (Record.tuple keys a) (Record.tuple keys b)).isLE = true := by
  induction keys with
  | nil => exact List.pairwise_of_forall fun _ _ => rfl
  | cons key keys ih =>
      rw [List.pairwise_iff_forall_sublist]
      intro a b hab
      have hle : (Record.compareAt key a b).isLE = true :=
        List.pairwise_iff_forall_sublist.1 (pairwise_sortAt key _) hab
      rw [Record.tuple_cons, Record.tuple_cons, compareTuples_cons]
      change ((Record.compareAt key a b).then _).isLE = true
      cases hfirst : Record.compareAt key a b with
      | lt => rfl
      | gt => simp [hfirst] at hle
      | eq =>
          -- equal under `key`, the two stand as sorting by the other keys has left them
          let p (r : Record) : Bool := Record.compareAt key r b == .eq
          have hself : Record.compareAt key b b = .eq := ReflCmp.compare_self
          have hkept : [a, b].Sublist ((sortAt key (sortAll keys records)).filter p) := by
            have h := List.Sublist.filter p hab
            rwa [List.filter_cons_of_pos (by simp [p, hfirst]),
              List.filter_cons_of_pos (by simp [p, hself])] at h
          rw [filter_sortAt (b.cell key) p fun r hr => beq_iff_eq.1 hr] at hkept
          exact List.pairwise_iff_forall_sublist.1 ih (hkept.trans List.filter_sublist)

/-! ### Records grouped and ordered -/

/-- What is true of records that are grouped by some keys, each group then being ordered by others.
Cells are equal where the order of cells says so. -/
structure IsArrangement (groupKeys orderKeys : List String) (records : List Record)
    (groups : List Group) : Prop where
  /-- No record is lost, and none is there twice. -/
  perm : (groups.flatMap Group.records).Perm records
  /-- Only records without group keys make a group that may be empty. -/
  records_ne_nil : groupKeys ≠ [] → ∀ g ∈ groups, g.records ≠ []
  /-- The records of a group have equal cells under every group key. -/
  same_cells : ∀ g ∈ groups, ∀ a ∈ g.records, ∀ b ∈ g.records, ∀ key ∈ groupKeys,
    Record.compareAt key a b = .eq
  /-- The key of a group is the tuple of each of its records, cell by cell. -/
  key_tuple : ∀ g ∈ groups, ∀ r ∈ g.records,
    List.Forall₂ (fun c d => Cell.compare Scalar.compare c d = .eq) (r.tuple groupKeys) g.key
  /-- The keys increase strictly, so no two groups have the same. -/
  increasing : groups.Pairwise fun g h => compareTuples g.key h.key = .lt
  /-- Inside a group the records are in the order of their tuples under the order keys. -/
  sorted : ∀ g ∈ groups, g.records.Pairwise fun a b =>
    (compareTuples (a.tuple orderKeys) (b.tuple orderKeys)).isLE = true
  /-- Records of a group that have equal tuples under the order keys stand as they came. -/
  stable : ∀ g ∈ groups, ∀ tuple,
    (g.records.filter fun r => compareTuples (r.tuple orderKeys) tuple == .eq) =
      records.filter fun r => compareTuples (r.tuple groupKeys) g.key == .eq &&
        compareTuples (r.tuple orderKeys) tuple == .eq

theorem compareAt_of_compareTuples {keys : List String} {a b : Record}
    (h : compareTuples (a.tuple keys) (b.tuple keys) = .eq) {key : String} (hkey : key ∈ keys) :
    Record.compareAt key a b = .eq := by
  induction keys with
  | nil => simp at hkey
  | cons first rest ih =>
      rw [Record.tuple_cons, Record.tuple_cons, compareTuples_cons, Ordering.then_eq_eq] at h
      rcases List.mem_cons.1 hkey with rfl | hkey
      · exact h.1
      · exact ih h.2 hkey

/-- **Grouping by some keys and ordering by others arranges the records**, whatever the records,
the keys and the cells under them are. -/
theorem isArrangement_order_group (groupKeys orderKeys : List String) (records : List Record) :
    IsArrangement groupKeys orderKeys records
      ((group groupKeys records).map (Group.order orderKeys)) := by
  have h := isGrouping_group groupKeys records
  -- ordering changes neither the key of a group nor which records it has
  have hordered : ∀ g ∈ (group groupKeys records).map (Group.order orderKeys),
      ∃ g₀ ∈ group groupKeys records,
        g.key = g₀.key ∧ g.records = sortAll orderKeys g₀.records := by
    intro g hg
    obtain ⟨g₀, hg₀, rfl⟩ := List.mem_map.1 hg
    exact ⟨g₀, hg₀, rfl, Group.records_order orderKeys g₀⟩
  have htuple : ∀ g ∈ (group groupKeys records).map (Group.order orderKeys), ∀ r ∈ g.records,
      compareTuples (r.tuple groupKeys) g.key = .eq := by
    intro g hg r hr
    obtain ⟨g₀, hg₀, hkey, hrecords⟩ := hordered g hg
    rw [hrecords, (perm_sortAll orderKeys _).mem_iff, h.records_eq g₀ hg₀] at hr
    rw [hkey]
    simpa using (List.mem_filter.1 hr).2
  constructor
  case perm =>
    rw [List.flatMap_map]
    refine (List.Perm.flatMap_left _ fun g _ => ?_).trans h.perm
    exact perm_sortAll orderKeys g.records
  case records_ne_nil =>
    intro hkeys g hg hnil
    obtain ⟨g₀, hg₀, -, hrecords⟩ := hordered g hg
    rw [hrecords] at hnil
    have hperm := perm_sortAll orderKeys g₀.records
    rw [hnil] at hperm
    exact h.records_ne_nil hkeys g₀ hg₀ hperm.symm.eq_nil
  case same_cells =>
    intro g hg a ha b hb key hkey
    have hab := TransCmp.eq_trans (htuple g hg a ha) (OrientedCmp.eq_symm (htuple g hg b hb))
    exact compareAt_of_compareTuples hab hkey
  case key_tuple => exact fun g hg r hr => (compareTuples_eq_iff _ _).1 (htuple g hg r hr)
  case increasing =>
    rw [List.pairwise_map]
    exact h.increasing
  case sorted =>
    intro g hg
    obtain ⟨g₀, -, -, hrecords⟩ := hordered g hg
    rw [hrecords]
    exact pairwise_sortAll orderKeys g₀.records
  case stable =>
    intro g hg tuple
    obtain ⟨g₀, hg₀, hkey, hrecords⟩ := hordered g hg
    rw [hrecords, filter_sortAll orderKeys tuple _ fun r hr => beq_iff_eq.1 hr,
      h.records_eq g₀ hg₀, List.filter_filter, hkey]
    refine List.filter_congr fun r _ => ?_
    rw [Bool.and_comm]

end ClusterReport.Sheet
