/-
**Reading back what was written.**

A failure is written as an object of one field, and data as an object of its own: only the shape of
a document tells the two apart.  What is read from a document and written again reads back as it
was, unless somewhere attributes consist of an error text and nothing else, for these are written
like a failure.  No document whose objects name each field once is read as such attributes, since it
would have been read as a failure in their place; and merging cannot make them of other ones.

A field that an object names twice is the one exception: the object is then no failure, as it has
two fields, and of the two the last one stays.

Main definitions:

* `ClusterReport.Json.Distinct` — that no object in a document names a field twice;
* `ClusterReport.Stats.IsLoneError`, `ClusterReport.Nested.HasLoneError` — attributes that are
  written like a failure;
* `ClusterReport.ReadsBack` — what is true of reading back a kind of data that is merged, for what
  two documents are read as.

Main results:

* `ClusterReport.Keyed.ofJson?_toJson_iff` — entries read back together exactly when each one does;
* `ClusterReport.Nested.ofJson?_toJson_iff` — what was read reads back exactly when no attributes in
  it are written like a failure;
* `ClusterReport.Nested.hasLoneError_merge` — merging makes no such attributes;
* `ClusterReport.Nested.not_hasLoneError_of_distinct` — nor does reading, from a document that names
  every field once;
* `ClusterReport.readsBack_statistics` — **the statistics of nodes, namespaces and sets read back,
  merged or not, exactly when no attributes are written like a failure**;
* `ClusterReport.not_readBack_repeatedError` — one field named twice is not read back.
-/

import ClusterReport.Json.Reading
import ClusterReport.Proofs.Fetched.Merge
import Mathlib

set_option relaxedAutoImplicit false
set_option autoImplicit false

universe u v

namespace ClusterReport

/-! ### Entries converted one by one -/

namespace Entries

variable {α : Type u} {β : Type v}

theorem mapOption_cons_eq_some_iff {f : α → Option β} {e : String × α} {es : List (String × α)}
    {fs : List (String × β)} :
    mapOption f (e :: es) = some fs ↔
      ∃ value rest, f e.2 = some value ∧ mapOption f es = some rest ∧
        fs = (e.1, value) :: rest := by
  rw [mapOption]
  cases f e.2 with
  | none => simp
  | some value => cases mapOption f es <;> simp [eq_comm]

theorem exists_mem_of_mapOption {f : α → Option β} {es : List (String × α)}
    {fs : List (String × β)} (h : mapOption f es = some fs) {e : String × β} (he : e ∈ fs) :
    ∃ value, (e.1, value) ∈ es ∧ f value = some e.2 := by
  induction es generalizing fs with
  | nil =>
      obtain rfl : [] = fs := Option.some.inj h
      cases he
  | cons first rest ih =>
      obtain ⟨value, converted, hvalue, hrest, rfl⟩ := mapOption_cons_eq_some_iff.1 h
      rcases List.mem_cons.1 he with rfl | he
      · exact ⟨first.2, List.mem_cons_self, hvalue⟩
      · obtain ⟨old, hold, hconverted⟩ := ih hrest he
        exact ⟨old, List.mem_cons_of_mem _ hold, hconverted⟩

/-- A conversion undoes another one on a whole list exactly when it does on every entry. -/
theorem mapOption_map_eq_some_iff {f : β → Option α} {g : α → β} {es : List (String × α)} :
    mapOption f (es.map fun e => (e.1, g e.2)) = some es ↔ ∀ e ∈ es, f (g e.2) = some e.2 := by
  induction es with
  | nil => simp [mapOption]
  | cons e rest ih =>
      rw [List.map_cons, mapOption_cons_eq_some_iff, List.forall_mem_cons, ← ih]
      constructor
      · rintro ⟨value, converted, hvalue, hrest, heq⟩
        obtain ⟨he, rfl⟩ := List.cons.inj heq
        exact ⟨hvalue.trans (congrArg (some ·.2) he).symm, hrest⟩
      · rintro ⟨hvalue, hrest⟩
        exact ⟨e.2, rest, hvalue, hrest, rfl⟩

end Entries

/-! ### Documents -/

namespace Json

/-- The documents in which no object names a field twice. -/
inductive Distinct : Json → Prop where
  | null : Distinct .null
  | bool (value : Bool) : Distinct (.bool value)
  | int (value : Int) : Distinct (.int value)
  | float (value : Binary64) : Distinct (.float value)
  | str (value : String) : Distinct (.str value)
  | array (items : List Json) (each : ∀ item ∈ items, Distinct item) : Distinct (.array items)
  | object (fields : List (String × Json)) (nodup : (fields.map (·.1)).Nodup)
      (each : ∀ field ∈ fields, Distinct field.2) : Distinct (.object fields)

theorem canonicalItems_eq_self {items : List Json} (h : ∀ item ∈ items, item.canonical = item) :
    canonicalItems items = items := by
  induction items with
  | nil => rfl
  | cons item rest ih =>
      obtain ⟨hitem, hrest⟩ := List.forall_mem_cons.1 h
      rw [canonicalItems, hitem, ih hrest]

theorem canonicalFields_eq_self {fields : List (String × Json)}
    (h : ∀ field ∈ fields, field.2.canonical = field.2) : canonicalFields fields = fields := by
  induction fields with
  | nil => rfl
  | cons field rest ih =>
      obtain ⟨hfield, hrest⟩ := List.forall_mem_cons.1 h
      rw [canonicalFields, hfield, ih hrest]

theorem Canonical.canonical_eq {j : Json} (h : j.Canonical) : j.canonical = j := by
  induction h with
  | array items _ ih => rw [canonical, canonicalItems_eq_self ih]
  | object fields hsorted _ ih =>
      rw [canonical, canonicalFields_eq_self ih, hsorted.normalise_eq]
  | _ => rfl

end Json

/-! ### Data and failures -/

theorem Fetched.causeOf?_object_eq_some_iff {fields : List (String × Json)} {cause : String} :
    causeOf? (.object fields) = some cause ↔ fields = [("error", .str cause)] := by
  constructor
  · intro h
    unfold causeOf? at h
    split at h
    · obtain rfl := Option.some.inj h
      rename_i heq
      exact Json.object.inj heq
    · rename_i heq
      cases heq
    · cases h
  · rintro rfl
    rfl

/-- A document is read as data exactly when it is not a written failure, and reads. -/
theorem Fetched.ofJson?_eq_some_data_iff {α : Type u} {read : Json → Option α} {j : Json}
    {value : α} :
    ofJson? read j = some (data value) ↔ causeOf? j = none ∧ read j = some value := by
  unfold ofJson?
  cases causeOf? j with
  | none => cases read j <;> simp
  | some cause => simp

/-- Entries read back together exactly when each one does. -/
theorem Keyed.ofJson?_toJson_iff {α : Type u} (read : Json → Option α) (write : α → Json)
    (d : Keyed α) :
    ofJson? read (toJson write d) = some d ↔
      ∀ key entry, d.get? key = some entry →
        Fetched.ofJson? read (entry.toJson write) = some entry := by
  have hall : (∀ key entry, d.get? key = some entry →
      Fetched.ofJson? read (entry.toJson write) = some entry) ↔
      ∀ e ∈ d.entries, Fetched.ofJson? read (e.2.toJson write) = some e.2 :=
    ⟨fun h e he => h e.1 e.2 (Dict.mem_entries_iff.1 he),
      fun h key entry hget => h (key, entry) (Dict.mem_entries_iff.2 hget)⟩
  rw [hall, ← Entries.mapOption_map_eq_some_iff (g := Fetched.toJson write)]
  change (Entries.mapOption (Fetched.ofJson? read)
    (d.entries.map fun e => (e.1, e.2.toJson write))).map Dict.ofList = some d ↔ _
  constructor
  · intro h
    obtain ⟨es, hes, hd⟩ := Option.map_eq_some_iff.1 h
    -- the entries that were read back are in order, as the written ones were
    have hsorted : Entries.Sorted es :=
      Entries.Sorted.mapOption (d.map fun _ entry => entry.toJson write).sorted hes
    have hentries : es = d.entries := hsorted.normalise_eq.symm.trans (congrArg Dict.entries hd)
    rwa [hentries] at hes
  · intro h
    rw [h, Option.map_some, Dict.ofList_entries]

/-- Attributes that consist of the text of an error and nothing else. -/
def Stats.IsLoneError (s : Stats) : Prop := ∃ cause, s = .ofList [("error", .str cause)]

theorem Stats.causeOf?_toJson_eq_none_iff (s : Stats) :
    Fetched.causeOf? s.toJson = none ↔ ¬ s.IsLoneError := by
  rw [Option.eq_none_iff_forall_ne_some, IsLoneError, not_exists]
  refine forall_congr' fun cause => not_congr ?_
  rw [Stats.toJson, Json.ofDict, Fetched.causeOf?_object_eq_some_iff]
  constructor
  · intro h
    rw [← s.ofList_entries, h]
  · rintro rfl
    rfl

theorem Stats.ofJson?_toJson {s : Stats}
    (h : ∀ key value, s.get? key = some value → value.Canonical) : ofJson? s.toJson = some s := by
  have hfields : Json.canonicalFields s.entries = s.entries :=
    Json.canonicalFields_eq_self fun field hfield =>
      (h field.1 field.2 (Dict.mem_entries_iff.1 hfield)).canonical_eq
  rw [toJson, Json.ofDict, ofJson?, hfields, Dict.ofList_entries]

theorem Keyed.causeOf?_toJson {α : Type u} {write : α → Json}
    (h : ∀ value, (write value).isObject = true) (d : Keyed α) :
    Fetched.causeOf? (toJson write d) = none := by
  rw [Option.eq_none_iff_forall_ne_some]
  intro cause hcause
  have hentries := Fetched.causeOf?_object_eq_some_iff.1 hcause
  have hmem : ("error", Json.str cause) ∈ (d.map fun _ entry => entry.toJson write).entries := by
    rw [hentries]
    exact List.mem_singleton.2 rfl
  obtain ⟨e, -, he⟩ := List.mem_map.1 hmem
  have hwritten : e.2.toJson write = .str cause := (Prod.mk.inj he).2
  cases hentry : e.2 with
  | failed cause' =>
      rw [hentry] at hwritten
      cases hwritten
  | data value =>
      rw [hentry] at hwritten
      have hobject := h value
      rw [show write value = .str cause from hwritten] at hobject
      cases hobject

/-! ### Any number of levels -/

namespace Nested

def ofJson? : (depth : Nat) → Json → Option (Nested depth)
  | 0 => Stats.ofJson?
  | depth + 1 => Keyed.ofJson? (ofJson? depth)

def toJson : (depth : Nat) → Nested depth → Json
  | 0 => Stats.toJson
  | depth + 1 => Keyed.toJson (toJson depth)

/-- Whether some of the attributes consist of the text of an error and nothing else. -/
def HasLoneError : (depth : Nat) → Nested depth → Prop
  | 0, attributes => Stats.IsLoneError attributes
  | depth + 1, entries => ∃ key value,
      Dict.get? (α := Fetched (Nested depth)) entries key = some (.data value) ∧
        HasLoneError depth value

theorem isObject_toJson (depth : Nat) (stats : Nested depth) :
    (toJson depth stats).isObject = true := by
  cases depth <;> rfl

theorem canonical_of_ofJson? {depth : Nat} {j : Json} {stats : Nested depth}
    (h : ofJson? depth j = some stats) : stats.Canonical := by
  induction depth generalizing j with
  | zero =>
      cases j with
      | object fields =>
          obtain rfl : Dict.ofList (Json.canonicalFields fields) = stats := Option.some.inj h
          exact canonical_ofAttributes (Json.canonicalFields_each fields)
      | _ => cases h
  | succ depth ih =>
      cases j with
      | object fields =>
          obtain ⟨es, hes, rfl⟩ := Option.map_eq_some_iff.1 h
          refine canonical_ofEntries fun e he value hvalue => ?_
          obtain ⟨j, -, hj⟩ := Entries.exists_mem_of_mapOption hes he
          exact ih (Fetched.ofJson?_eq_some_data_iff.1 (hj.trans (congrArg some hvalue))).2
      | _ => cases h

/-- Data is kept apart from failures, and reads back, exactly when no attributes in it are nothing
but an error text. -/
theorem causeOf?_toJson_and_ofJson?_toJson_iff {depth : Nat} {stats : Nested depth}
    (h : stats.Canonical) :
    (Fetched.causeOf? (toJson depth stats) = none ∧
        ofJson? depth (toJson depth stats) = some stats) ↔
      ¬ HasLoneError depth stats := by
  induction depth with
  | zero =>
      exact (and_iff_left (Stats.ofJson?_toJson h)).trans (Stats.causeOf?_toJson_eq_none_iff stats)
  | succ depth ih =>
      -- what is written of the entries is an object each, so that the cause is found further down
      refine (and_iff_right (Keyed.causeOf?_toJson (isObject_toJson depth) stats)).trans
        ((Keyed.ofJson?_toJson_iff (ofJson? depth) (toJson depth) stats).trans ?_)
      constructor
      · rintro hall ⟨key, value, hvalue, hlone⟩
        exact (ih (h key value hvalue)).1
          (Fetched.ofJson?_eq_some_data_iff.1 (hall key _ hvalue)) hlone
      · intro hnone key entry hentry
        cases entry with
        | failed cause => rfl
        | data value =>
            refine Fetched.ofJson?_eq_some_data_iff.2 ((ih (h key value hentry)).2 fun hlone => ?_)
            exact hnone ⟨key, value, hentry, hlone⟩

end Nested

/-! ### Merges -/

/-- A merge is a text only where the overlay is. -/
theorem Json.eq_str_of_merge {base overlay : Json} {text : String}
    (h : base.merge overlay = .str text) : overlay = .str text := by
  cases overlay with
  | object theirs =>
      by_cases hbase : base.isObject = false
      · rw [merge_object_of_not_object base theirs hbase] at h
        cases h
      · cases base with
        | object mine =>
            rw [merge_object] at h
            cases h
        | _ => exact absurd rfl hbase
  | _ => exact (merge_of_not_object base _ rfl).symm.trans h

theorem Stats.isLoneError_iff {s : Stats} :
    s.IsLoneError ↔
      ∃ cause, ∀ key, s.get? key = if key = "error" then some (.str cause) else none := by
  refine exists_congr fun cause => ?_
  constructor
  · rintro rfl key
    rfl
  · exact fun h => Dict.ext_get? h

theorem Stats.isLoneError_merge {mine theirs : Stats} (h : (mine.merge theirs).IsLoneError) :
    mine.IsLoneError ∨ theirs.IsLoneError := by
  obtain ⟨cause, hmerged⟩ := isLoneError_iff.1 h
  have hmerge (key : String) :
      Option.merge Json.merge (mine.get? key) (theirs.get? key) =
        if key = "error" then some (.str cause) else none :=
    (Dict.get?_mergeWith Json.merge mine theirs key).symm.trans (hmerged key)
  have hother (key : String) (hkey : key ≠ "error") :
      mine.get? key = none ∧ theirs.get? key = none := by
    have hnone := hmerge key
    rwa [if_neg hkey, Option.merge_eq_none_iff] at hnone
  have herror := hmerge "error"
  rw [if_pos rfl] at herror
  cases hvalue : theirs.get? "error" with
  | none =>
      -- the overlay has nothing at all, so the base is what there is
      rw [hvalue, Option.merge_none_right] at herror
      refine .inl (isLoneError_iff.2 ⟨cause, fun key => ?_⟩)
      by_cases hkey : key = "error"
      · rw [if_pos hkey, hkey, herror]
      · rw [if_neg hkey, (hother key hkey).1]
  | some value =>
      refine .inr (isLoneError_iff.2 ⟨cause, fun key => ?_⟩)
      by_cases hkey : key = "error"
      · rw [if_pos hkey, hkey, hvalue]
        cases hold : mine.get? "error" with
        | none => rwa [hold, hvalue, Option.merge_none_left] at herror
        | some old =>
            rw [hold, hvalue] at herror
            exact congrArg some (Json.eq_str_of_merge (Option.some.inj herror))
      · rw [if_neg hkey, (hother key hkey).2]

namespace Nested

/-- Merging makes no attributes that are nothing but an error text. -/
theorem hasLoneError_merge {depth : Nat} {base overlay : Nested depth}
    (h : HasLoneError depth (merge depth base overlay)) :
    HasLoneError depth base ∨ HasLoneError depth overlay := by
  induction depth with
  | zero => exact Stats.isLoneError_merge h
  | succ depth ih =>
      obtain ⟨key, value, hvalue, hlone⟩ := h
      rcases ((mergesEntries_merge (merge depth) base overlay).data_iff key value).1 hvalue with
        ⟨mine, theirs, hmine, htheirs, rfl⟩ | ⟨-, htheirs⟩ | ⟨-, hmine⟩
      · exact (ih hlone).imp (fun hlone => ⟨key, mine, hmine, hlone⟩)
          fun hlone => ⟨key, theirs, htheirs, hlone⟩
      · exact .inr ⟨key, value, htheirs, hlone⟩
      · exact .inl ⟨key, value, hmine, hlone⟩

/-! ### Documents that name every field once -/

end Nested

theorem Json.eq_str_of_canonical {j : Json} {text : String} (h : j.canonical = .str text) :
    j = .str text := by
  cases j with
  | array items => rw [canonical] at h; cases h
  | object fields => rw [canonical] at h; cases h
  | _ => exact h

theorem Json.map_key_canonicalFields (fields : List (String × Json)) :
    (canonicalFields fields).map (·.1) = fields.map (·.1) := by
  induction fields with
  | nil => rfl
  | cons field rest ih => rw [canonicalFields, List.map_cons, List.map_cons, ih]

/-- An object that names every field once is a written failure if it is read as attributes that
are nothing but an error text. -/
theorem Stats.causeOf?_of_isLoneError {fields : List (String × Json)}
    (hfields : (fields.map (·.1)).Nodup) {s : Stats} (h : ofJson? (.object fields) = some s)
    (hlone : s.IsLoneError) : ∃ cause, Fetched.causeOf? (.object fields) = some cause := by
  obtain rfl : Dict.ofList (Json.canonicalFields fields) = s := Option.some.inj h
  obtain ⟨cause, hget⟩ := isLoneError_iff.1 hlone
  have hkeys (key : String) : key ∈ fields.map (·.1) ↔ key = "error" := by
    rw [← Json.map_key_canonicalFields, ← Dict.mem_keys_ofList, Dict.mem_keys_iff, hget]
    by_cases hkey : key = "error" <;> simp [hkey]
  match fields, hfields, hkeys, hget with
  | [], _, hkeys, _ => exact absurd ((hkeys "error").2 rfl) List.not_mem_nil
  | [(key, value)], _, hkeys, hget =>
      obtain rfl : key = "error" := (hkeys key).1 List.mem_cons_self
      have hvalue : some value.canonical = some (Json.str cause) := hget "error"
      refine ⟨cause, Fetched.causeOf?_object_eq_some_iff.2 ?_⟩
      rw [Json.eq_str_of_canonical (Option.some.inj hvalue)]
  | first :: second :: rest, hfields, hkeys, _ =>
      -- two fields would both be the error
      have hfirst := (hkeys first.1).1 List.mem_cons_self
      have hsecond := (hkeys second.1).1 (List.mem_cons_of_mem _ List.mem_cons_self)
      have hnot : first.1 ∉ (second :: rest).map (·.1) := (List.nodup_cons.1 hfields).1
      rw [hfirst, ← hsecond] at hnot
      exact absurd List.mem_cons_self hnot

namespace Nested

theorem not_hasLoneError_of_entries {depth : Nat} {j : Json} {entries : Nested (depth + 1)}
    (hj : j.Distinct) (h : ofJson? (depth + 1) j = some entries)
    (hentry : ∀ {j : Json} {value : Nested depth}, j.Distinct →
      Fetched.ofJson? (ofJson? depth) j = some (.data value) → ¬ HasLoneError depth value) :
    ¬ HasLoneError (depth + 1) entries := by
  rintro ⟨key, value, hvalue, hlone⟩
  cases hj with
  | object fields _ heach =>
      obtain ⟨es, hes, rfl⟩ := Option.map_eq_some_iff.1 h
      obtain ⟨j, hmem, hread⟩ :=
        Entries.exists_mem_of_mapOption hes (Dict.mem_of_get?_ofList hvalue)
      exact hentry (heach _ hmem) hread hlone
  | _ => cases h

/-- Data read in a place where there could have been a failure has no attributes that are nothing
but an error text, if its document names every field once. -/
theorem not_hasLoneError_of_fetched {depth : Nat} {j : Json} {value : Nested depth}
    (hj : j.Distinct) (h : Fetched.ofJson? (ofJson? depth) j = some (.data value)) :
    ¬ HasLoneError depth value := by
  induction depth generalizing j with
  | zero =>
      intro hlone
      obtain ⟨hcause, hread⟩ := Fetched.ofJson?_eq_some_data_iff.1 h
      cases hj with
      | object fields hnodup _ =>
          obtain ⟨cause, hfailed⟩ := Stats.causeOf?_of_isLoneError hnodup hread hlone
          rw [hcause] at hfailed
          cases hfailed
      | _ => cases hread
  | succ depth ih =>
      exact not_hasLoneError_of_entries hj (Fetched.ofJson?_eq_some_data_iff.1 h).2 ih

/-- Statistics have no attributes that are nothing but an error text, if their document names every
field once. -/
theorem not_hasLoneError_of_distinct {depth : Nat} {j : Json} {stats : Nested (depth + 1)}
    (hj : j.Distinct) (h : ofJson? (depth + 1) j = some stats) :
    ¬ HasLoneError (depth + 1) stats :=
  not_hasLoneError_of_entries hj h not_hasLoneError_of_fetched

/-- What is canonical reads back exactly when no attributes in it are nothing but an error text. -/
theorem ofJson?_toJson_iff {depth : Nat} {stats : Nested (depth + 1)} (h : stats.Canonical) :
    ofJson? (depth + 1) (toJson (depth + 1) stats) = some stats ↔
      ¬ HasLoneError (depth + 1) stats :=
  (and_iff_right (Keyed.causeOf?_toJson (isObject_toJson depth) stats)).symm.trans
    (causeOf?_toJson_and_ofJson?_toJson_iff h)

end Nested

/-! ### Statistics of nodes, namespaces and sets -/

/-- What is true of reading back what two documents are read as, for a kind of data that is merged
and of which some is mistakable for a failure.  What was read, and what it was merged to, reads back
exactly when it is not mistakable.  Merging makes nothing mistakable, and a document in which no
object names a field twice is not read as something mistakable, so that all reads back that comes of
such documents. -/
structure ReadsBack {α : Type} (read : Json → Option α) (write : α → Json) (merge : α → α → α)
    (mistakable : α → Prop) (document document' : Json) : Prop where
  written : ∀ data, read document = some data →
    (read (write data) = some data ↔ ¬ mistakable data)
  merged : ∀ data data', read document = some data → read document' = some data' →
    (read (write (merge data data')) = some (merge data data') ↔ ¬ mistakable (merge data data'))
  of_merge : ∀ data data', read document = some data → read document' = some data' →
    mistakable (merge data data') → mistakable data ∨ mistakable data'
  distinct : ∀ data, read document = some data → document.Distinct →
    read (write data) = some data
  distinct_merged : ∀ data data', read document = some data → read document' = some data' →
    document.Distinct → document'.Distinct →
    read (write (merge data data')) = some (merge data data')

/-- Statistics behind some number of levels of keys read back. -/
theorem Nested.readsBack (depth : Nat) (document document' : Json) :
    ReadsBack (ofJson? (depth + 1)) (toJson (depth + 1)) (merge (depth + 1))
      (HasLoneError (depth + 1)) document document' where
  written _ h := ofJson?_toJson_iff (canonical_of_ofJson? h)
  merged _ _ h h' :=
    ofJson?_toJson_iff (canonical_merge (canonical_of_ofJson? h) (canonical_of_ofJson? h'))
  of_merge _ _ _ _ := hasLoneError_merge
  distinct _ h hdistinct :=
    (ofJson?_toJson_iff (canonical_of_ofJson? h)).2 (not_hasLoneError_of_distinct hdistinct h)
  distinct_merged _ _ h h' hdistinct hdistinct' := by
    have hcanonical := canonical_merge (canonical_of_ofJson? h) (canonical_of_ofJson? h')
    refine (ofJson?_toJson_iff hcanonical).2 fun hlone => ?_
    rcases hasLoneError_merge hlone with hlone | hlone
    · exact not_hasLoneError_of_distinct hdistinct h hlone
    · exact not_hasLoneError_of_distinct hdistinct' h' hlone

/-- **The statistics of nodes, namespaces and sets read back**, merged or not, exactly when no
attributes in them are nothing but an error text; and where no object names a field twice, none
are. -/
theorem readsBack_statistics (document document' : Json) :
    ReadsBack NodeStats.ofJson? NodeStats.toJson NodeStats.merge (Nested.HasLoneError 1)
        document document' ∧
      ReadsBack NamespaceStats.ofJson? NamespaceStats.toJson NamespaceStats.merge
        (Nested.HasLoneError 2) document document' ∧
      ReadsBack SetStats.ofJson? SetStats.toJson SetStats.merge (Nested.HasLoneError 3)
        document document' :=
  ⟨Nested.readsBack 0 document document', Nested.readsBack 1 document document',
    Nested.readsBack 2 document document'⟩

/-- The text of a document in which an entry names its only field twice. -/
def repeatedErrorText : String :=
  "\x7b\"n1\":\x7b\"error\":\"timeout\",\"error\":\"refused\"\x7d\x7d"

/-- An entry that names its only field twice is read as data, is written as a failure, and so reads
back as another thing than it was. -/
theorem not_readBack_repeatedError :
    ¬ ∀ text document data, Json.ofText? text = some document →
      NodeStats.ofJson? document = some data → NodeStats.ofJson? data.toJson = some data := by
  intro h
  let document : Json :=
    .object [("n1", .object [("error", .str "timeout"), ("error", .str "refused")])]
  have htext : Json.ofText? repeatedErrorText = some document := by cbv
  have hback := h repeatedErrorText document _ htext rfl
  have hentry := congrArg (Option.bind · fun stats : NodeStats => stats.get? "n1") hback
  cases hentry

end ClusterReport
