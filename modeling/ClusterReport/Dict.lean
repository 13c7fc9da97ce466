/-
**Dictionaries.**

A dictionary maps text keys to values and lists its entries in strictly increasing key order, that
is by code points.  Two dictionaries with the same entries are equal, and whatever walks one sees
the keys in that order.

Main definitions:

* `ClusterReport.Entries` — the operations on lists of entries, which need no invariant to run;
* `ClusterReport.Dict` — a list of entries with its order as an invariant;
* `ClusterReport.Dict.get?`, `insert`, `ofList`, `map`, `filterMap`, `mergeWith`.

Main results:

* `ClusterReport.Entries.get?_insert` — what a key maps to after an insertion;
* `ClusterReport.Dict.ext_get?` — a dictionary is determined by what its keys map to;
* `ClusterReport.Dict.get?_foldl_insert`, `get?_mergeWith` — what a key maps to after all entries of
  another dictionary are combined with it, and after a merge.
-/

set_option relaxedAutoImplicit false
set_option autoImplicit false

universe u v

namespace ClusterReport

variable {α : Type u} {β : Type v}

/-! ### Lists of entries -/

namespace Entries

/-- Strictly increasing in the key. -/
def Sorted (es : List (String × α)) : Prop := es.Pairwise fun a b => a.1 < b.1

theorem sorted_iff_keys (es : List (String × α)) :
    Sorted es ↔ (es.map (·.1)).Pairwise (· < ·) := by
  unfold Sorted
  rw [List.pairwise_map]

/-- The value of the first entry with the key. -/
def get? (key : String) : List (String × α) → Option α
  | [] => none
  | (k, v) :: rest => if key = k then some v else get? key rest

/-- The entries with the key's value set. -/
def insert (key : String) (value : α) : List (String × α) → List (String × α)
  | [] => [(key, value)]
  | (k, v) :: rest =>
    if key < k then (key, value) :: (k, v) :: rest
    else if key = k then (key, value) :: rest
    else (k, v) :: insert key value rest

/-- The entries with one more, unless the key is there already. -/
def insertNew (key : String) (value : α) : List (String × α) → List (String × α)
  | [] => [(key, value)]
  | (k, v) :: rest =>
    if key < k then (key, value) :: (k, v) :: rest
    else if key = k then (k, v) :: rest
    else (k, v) :: insertNew key value rest

/-- Entries in any order brought into key order; of several with one key the last one stays. -/
def normalise (es : List (String × α)) : List (String × α) :=
  es.foldr (fun e done => insertNew e.1 e.2 done) []

def mapOption (f : α → Option β) : List (String × α) → Option (List (String × β))
  | [] => some []
  | (k, v) :: rest =>
    match f v, mapOption f rest with
    | some w, some ws => some ((k, w) :: ws)
    | _, _ => none

@[simp] theorem get?_nil (key : String) : get? key ([] : List (String × α)) = none := rfl

theorem get?_cons (key k : String) (v : α) (rest : List (String × α)) :
    get? key ((k, v) :: rest) = if key = k then some v else get? key rest := rfl

/-- What a key maps to after an insertion. -/
theorem get?_insert (key other : String) (value : α) (es : List (String × α)) :
    get? other (insert key value es) = if other = key then some value else get? other es := by
  induction es with
  | nil => simp [insert, get?]
  | cons e rest ih =>
    obtain ⟨k, v⟩ := e
    unfold insert
    split
    · simp [get?]
    · split
      · rename_i _ heq
        subst heq
        simp only [get?]
        split <;> rfl
      · simp only [get?, ih]
        grind

theorem mem_keys_insert {key k : String} {value : α} {es : List (String × α)}
    (h : k ∈ (insert key value es).map (·.1)) : k = key ∨ k ∈ es.map (·.1) := by
  induction es with
  | nil => simpa [insert] using h
  | cons e rest ih =>
    obtain ⟨k', v⟩ := e
    unfold insert at h
    grind

private theorem lt_of_not_lt_of_ne {a b : String} (h₁ : ¬ a < b) (h₂ : ¬ a = b) : b < a := by
  rw [← String.not_le]
  intro h
  exact h₂ (String.le_antisymm h (String.not_lt.mp h₁))

/-- An insertion keeps the order. -/
theorem Sorted.insert {es : List (String × α)} (h : Sorted es) (key : String) (value : α) :
    Sorted (insert key value es) := by
  rw [sorted_iff_keys] at h ⊢
  induction es with
  | nil => simp [Entries.insert]
  | cons e rest ih =>
    obtain ⟨k, v⟩ := e
    rw [List.map_cons, List.pairwise_cons] at h
    unfold Entries.insert
    split
    case isTrue hlt =>
      rw [List.map_cons, List.map_cons, List.pairwise_cons, List.pairwise_cons]
      -- the new key comes first, and is below everything that followed
      refine ⟨fun k' hk' => ?_, h⟩
      rcases List.mem_cons.mp hk' with rfl | hk'
      · exact hlt
      · exact String.lt_trans hlt (h.1 k' hk')
    case isFalse hge =>
      split
      case isTrue heq =>
        subst heq
        rw [List.map_cons, List.pairwise_cons]
        exact h
      case isFalse hne =>
        rw [List.map_cons, List.pairwise_cons]
        -- the new key went into the rest, and is above the first one
        refine ⟨fun k' hk' => ?_, ih h.2⟩
        rcases mem_keys_insert hk' with rfl | hk'
        · exact lt_of_not_lt_of_ne hge hne
        · exact h.1 k' hk'

theorem keys_insertNew (key : String) (value : α) (es : List (String × α)) :
    (insertNew key value es).map (·.1) = (insert key value es).map (·.1) := by
  induction es with
  | nil => rfl
  | cons e rest ih =>
    obtain ⟨k, v⟩ := e
    unfold insertNew insert
    split
    case isTrue => rfl
    case isFalse =>
      split
      case isTrue heq =>
        rw [heq]
        rfl
      case isFalse => rw [List.map_cons, List.map_cons, ih]

theorem Sorted.insertNew {es : List (String × α)} (h : Sorted es) (key : String) (value : α) :
    Sorted (insertNew key value es) := by
  rw [sorted_iff_keys, keys_insertNew, ← sorted_iff_keys]
  exact h.insert key value

theorem sorted_normalise (es : List (String × α)) : Sorted (normalise es) := by
  unfold normalise
  induction es with
  | nil => exact List.Pairwise.nil
  | cons e rest ih => exact Sorted.insertNew ih e.1 e.2

theorem insertNew_of_lt {key : String} (value : α) {es : List (String × α)}
    (h : ∀ e ∈ es, key < e.1) : insertNew key value es = (key, value) :: es := by
  cases es with
  | nil => rfl
  | cons e rest => simp [insertNew, h e List.mem_cons_self]

theorem Sorted.normalise_eq {es : List (String × α)} (h : Sorted es) : normalise es = es := by
  induction es with
  | nil => rfl
  | cons e rest ih =>
    have hrest := List.pairwise_cons.mp h
    have hnorm : normalise (e :: rest) = Entries.insertNew e.1 e.2 (normalise rest) := rfl
    rw [hnorm, ih hrest.2, insertNew_of_lt e.2 hrest.1]

theorem keys_mapOption {f : α → Option β} {es : List (String × α)} {fs : List (String × β)}
    (h : mapOption f es = some fs) : fs.map (·.1) = es.map (·.1) := by
  induction es generalizing fs with
  | nil =>
    have : fs = [] := by simpa [mapOption] using h.symm
    simp [this]
  | cons e rest ih =>
    obtain ⟨k, v⟩ := e
    unfold mapOption at h
    split at h
    · rename_i w ws _ hws
      have : fs = (k, w) :: ws := (Option.some.inj h).symm
      simp [this, ih hws]
    · exact absurd h (by simp)

theorem Sorted.mapOption {f : α → Option β} {es : List (String × α)} {fs : List (String × β)}
    (h : Sorted es) (hf : mapOption f es = some fs) : Sorted fs := by
  rw [sorted_iff_keys] at h ⊢
  rw [keys_mapOption hf]
  exact h

theorem get?_eq_none_of_lt {key : String} {es : List (String × α)}
    (h : ∀ e ∈ es, key < e.1) : get? key es = none := by
  induction es with
  | nil => rfl
  | cons e rest ih =>
    obtain ⟨k, v⟩ := e
    have hk : key ≠ k := String.ne_of_lt (h (k, v) (by simp))
    rw [get?_cons, if_neg hk]
    exact ih fun e he => h e (by simp [he])

theorem Sorted.get?_eq_none_of_lt_first {key k : String} {v : α} {es : List (String × α)}
    (h : Sorted ((k, v) :: es)) (hlt : key < k) : get? key ((k, v) :: es) = none :=
  get?_eq_none_of_lt (List.forall_mem_cons.2
    ⟨hlt, fun e he => String.lt_trans hlt ((List.pairwise_cons.1 h).1 e he)⟩)

theorem mem_of_get? {key : String} {value : α} {es : List (String × α)}
    (h : get? key es = some value) : (key, value) ∈ es := by
  induction es with
  | nil => simp at h
  | cons e rest ih =>
    obtain ⟨k, v⟩ := e
    rw [get?_cons] at h
    split at h
    · rename_i heq
      simp_all
    · exact List.mem_cons_of_mem _ (ih h)

theorem Sorted.get?_of_mem {es : List (String × α)} (h : Sorted es) {e : String × α}
    (he : e ∈ es) : get? e.1 es = some e.2 := by
  induction es with
  | nil => simp at he
  | cons head rest ih =>
    obtain ⟨k, v⟩ := head
    have htail := List.pairwise_cons.mp h
    rcases List.mem_cons.mp he with heq | he
    · rw [heq, get?_cons, if_pos rfl]
    · rw [get?_cons, if_neg fun heq => String.ne_of_lt (htail.1 e he) heq.symm]
      exact ih htail.2 he

theorem get?_map (f : String → α → β) (key : String) (es : List (String × α)) :
    get? key (es.map fun e => (e.1, f e.1 e.2)) = (get? key es).map (f key) := by
  induction es with
  | nil => rfl
  | cons e rest ih =>
    obtain ⟨k, v⟩ := e
    rw [List.map_cons, get?_cons, get?_cons, ih]
    split
    · rename_i heq
      rw [heq, Option.map_some]
    · rfl

theorem Sorted.get?_filterMap {es : List (String × α)} (h : Sorted es) (f : String → α → Option β)
    (key : String) :
    get? key (es.filterMap fun e => (f e.1 e.2).map fun w => (e.1, w)) =
      (get? key es).bind (f key) := by
  induction es with
  | nil => rfl
  | cons e rest ih =>
    obtain ⟨k, v⟩ := e
    have hrest := List.pairwise_cons.mp h
    have ih := ih hrest.2
    rcases Decidable.em (key = k) with heq | hne
    -- no later entry has the key, so dropping the first one leaves none
    · subst heq
      rw [get?_eq_none_of_lt hrest.1, Option.bind_none] at ih
      rw [List.filterMap_cons, get?_cons, if_pos rfl, Option.bind_some]
      cases hf : f key v with
      | none => simpa [hf] using ih
      | some w => simp [get?_cons]
    · rw [List.filterMap_cons, get?_cons, if_neg hne]
      cases hf : f k v with
      | none => simpa [hf] using ih
      | some w => simpa [hf, get?_cons, hne] using ih

theorem Sorted.first_le {key k : String} {v w : α} {es : List (String × α)}
    (h : Sorted ((k, v) :: es)) (hkey : get? key ((k, v) :: es) = some w) : k ≤ key := by
  refine String.not_lt.1 fun hlt => ?_
  rw [h.get?_eq_none_of_lt_first hlt] at hkey
  cases hkey

/-- Entries in key order are determined by what the keys map to. -/
theorem Sorted.ext_get? {es fs : List (String × α)} (hes : Sorted es) (hfs : Sorted fs)
    (h : ∀ key, get? key es = get? key fs) : es = fs := by
  induction es generalizing fs with
  | nil =>
    cases fs with
    | nil => rfl
    | cons f fs =>
      have hfirst := h f.1
      rw [get?_nil, get?_cons, if_pos rfl] at hfirst
      cases hfirst
  | cons e es ih =>
    obtain ⟨k, v⟩ := e
    cases fs with
    | nil =>
      have hfirst := h k
      rw [get?_nil, get?_cons, if_pos rfl] at hfirst
      cases hfirst
    | cons f fs =>
      obtain ⟨k', v'⟩ := f
      obtain ⟨hlow, hrest⟩ := List.pairwise_cons.1 hes
      obtain ⟨hlow', hrest'⟩ := List.pairwise_cons.1 hfs
      have hfirst : get? k ((k', v') :: fs) = some v := (h k).symm.trans (if_pos rfl)
      have hfirst' : get? k' ((k, v) :: es) = some v' := (h k').trans (if_pos rfl)
      -- each first key is there on the other side
      obtain rfl : k = k' := String.le_antisymm (hes.first_le hfirst') (hfs.first_le hfirst)
      obtain rfl : v' = v := Option.some.inj ((if_pos rfl).symm.trans hfirst)
      -- the first key has no value in the rests, and every other key keeps its own
      refine congrArg _ (ih hrest hrest' fun key => ?_)
      rcases Decidable.em (key = k) with heq | hne
      · rw [heq, get?_eq_none_of_lt hlow, get?_eq_none_of_lt hlow']
      · have hkey := h key
        rwa [get?_cons, get?_cons, if_neg hne, if_neg hne] at hkey

end Entries

/-! ### Dictionaries -/

/-- A map from text keys to values, as its entries in key order. -/
structure Dict (α : Type u) where
  entries : List (String × α)
  sorted : Entries.Sorted entries

namespace Dict

instance [DecidableEq α] : DecidableEq (Dict α) := fun a b =>
  match decEq a.entries b.entries with
  | isTrue h => isTrue (by cases a; cases b; cases h; rfl)
  | isFalse h => isFalse (fun e => h (congrArg entries e))

def empty : Dict α := ⟨[], List.Pairwise.nil⟩

instance : Inhabited (Dict α) := ⟨empty⟩

/-- The dictionary of a list of entries; of several with one key the last one stays. -/
def ofList (es : List (String × α)) : Dict α := ⟨Entries.normalise es, Entries.sorted_normalise es⟩

/-- What a key maps to. -/
def get? (d : Dict α) (key : String) : Option α := Entries.get? key d.entries

def contains (d : Dict α) (key : String) : Bool := (d.get? key).isSome

/-- The dictionary with a key's value set. -/
def insert (d : Dict α) (key : String) (value : α) : Dict α :=
  ⟨Entries.insert key value d.entries, d.sorted.insert key value⟩

def keys (d : Dict α) : List String := d.entries.map (·.1)

def values (d : Dict α) : List α := d.entries.map (·.2)

def size (d : Dict α) : Nat := d.entries.length

def isEmpty (d : Dict α) : Bool := d.entries.isEmpty

/-- The dictionary with every value replaced. -/
def map (f : String → α → β) (d : Dict α) : Dict β :=
  ⟨d.entries.map fun e => (e.1, f e.1 e.2), by
    rw [Entries.sorted_iff_keys, List.map_map]
    exact (Entries.sorted_iff_keys _).mp d.sorted⟩

/-- The dictionary of the entries that are kept, with their new values. -/
def filterMap (f : String → α → Option β) (d : Dict α) : Dict β :=
  ⟨d.entries.filterMap fun e => (f e.1 e.2).map fun w => (e.1, w), by
    refine List.Pairwise.filterMap _ ?_ d.sorted
    intro a a' hlt b hb b' hb'
    obtain ⟨w, -, rfl⟩ := Option.map_eq_some_iff.mp hb
    obtain ⟨w', -, rfl⟩ := Option.map_eq_some_iff.mp hb'
    exact hlt⟩

def mapOption (f : α → Option β) (d : Dict α) : Option (Dict β) :=
  match h : Entries.mapOption f d.entries with
  | some es => some ⟨es, d.sorted.mapOption h⟩
  | none => none

/-- One entry set, combined with the value that is there already. -/
def insertWith (f : α → α → α) (d : Dict α) (key : String) (value : α) : Dict α :=
  d.insert key (match d.get? key with
    | some old => f old value
    | none => value)

/-- The entries of both dictionaries; where both have a key, `f` combines the two values. -/
def mergeWith (f : α → α → α) (base overlay : Dict α) : Dict α :=
  overlay.entries.foldl (fun d e => d.insertWith f e.1 e.2) base

/-- A dictionary is determined by what its keys map to. -/
theorem ext_get? {a b : Dict α} (h : ∀ key, a.get? key = b.get? key) : a = b := by
  cases a with
  | mk es hes =>
    cases b with
    | mk fs hfs =>
      have : es = fs := hes.ext_get? hfs h
      subst this
      rfl

@[simp] theorem ofList_entries (d : Dict α) : ofList d.entries = d := by
  cases d with
  | mk es hes => simp only [ofList, hes.normalise_eq]

@[simp] theorem get?_empty (key : String) : (empty : Dict α).get? key = none := rfl

/-- What a key maps to after an insertion. -/
@[simp] theorem get?_insert (d : Dict α) (key other : String) (value : α) :
    (d.insert key value).get? other = if other = key then some value else d.get? other :=
  Entries.get?_insert key other value d.entries

@[simp] theorem get?_map (f : String → α → β) (d : Dict α) (key : String) :
    (d.map f).get? key = (d.get? key).map (f key) :=
  Entries.get?_map f key d.entries

@[simp] theorem get?_filterMap (f : String → α → Option β) (d : Dict α) (key : String) :
    (d.filterMap f).get? key = (d.get? key).bind (f key) :=
  d.sorted.get?_filterMap f key

/-- The entries of a dictionary, each combined with what its key has, do not meet. -/
theorem get?_foldl_insert (overlay : Dict β) (combine : Option α → β → α) (base : Dict α)
    (key : String) :
    (overlay.entries.foldl (fun d e => d.insert e.1 (combine (d.get? e.1) e.2)) base).get? key =
      match overlay.get? key with
      | some value => some (combine (base.get? key) value)
      | none => base.get? key := by
  obtain ⟨es, hes⟩ := overlay
  change (es.foldl _ base).get? key = match Entries.get? key es with | some _ => _ | none => _
  induction es generalizing base with
  | nil => rfl
  | cons e rest ih =>
    have hrest := List.pairwise_cons.mp hes
    rw [List.foldl_cons, ih _ hrest.2, get?_insert, Entries.get?_cons]
    rcases Decidable.em (key = e.1) with heq | hne
    -- the key is written now and not met again
    · rw [if_pos heq, if_pos heq, heq, Entries.get?_eq_none_of_lt hrest.1]
    · rw [if_neg hne, if_neg hne]

/-- What a key maps to after a merge: the combination of the two values where both have one, and
the only value where one has it. -/
theorem get?_mergeWith (f : α → α → α) (base overlay : Dict α) (key : String) :
    (base.mergeWith f overlay).get? key = Option.merge f (base.get? key) (overlay.get? key) := by
  refine (get?_foldl_insert overlay
    (fun old? value => match old? with | some old => f old value | none => value) base key).trans ?_
  cases overlay.get? key <;> cases base.get? key <;> rfl

end Dict
end ClusterReport
