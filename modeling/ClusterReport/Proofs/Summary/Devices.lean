/-
**Devices for each node.**

The devices of a namespace are counted on the nodes that reported something on it, and divided by
the number of all nodes that were asked for it.  When the nodes agree on the number of devices, the
quotient is that number as long as few enough nodes failed to answer for the rounding to make up
for them, and less than that number otherwise.

Main definitions:

* `ClusterReport.Keyed.StoresOn` — that the nodes that reported something agree on a number of
  devices;
* `ClusterReport.Keyed.silent` — how many nodes reported nothing;
* `ClusterReport.NamespaceSummary.ShowsDevices` — that a namespace is shown with a number of devices
  on every node;
* `ClusterReport.Summary.CountsDevices` — that this is the number that the nodes agree on.

Main results:

* `ClusterReport.devicesDiffer_iff` — when nodes are said to have different numbers of devices;
* `ClusterReport.roundedRatio_mul_eq_iff` — how many nodes may be missing in a mean;
* `ClusterReport.Summary.showsDevices_create` — what is shown of one namespace;
* `ClusterReport.Summary.countsDevices_create_iff` — **the number that the nodes agree on is shown
  exactly where few enough of them are silent**.
-/

import ClusterReport.Proofs.Binary64.Ratio
import ClusterReport.Proofs.Summary.Namespaces

set_option relaxedAutoImplicit false
set_option autoImplicit false

namespace ClusterReport

/-! ### Different numbers -/

/-- A list without repetitions in a row is not shorter than what has been passed already, and not
longer exactly when nothing else follows. -/
theorem length_eraseReps_loop {α : Type} [BEq α] [LawfulBEq α] (a : α) (xs kept : List α) :
    kept.length < (List.eraseRepsBy.loop (· == ·) a xs kept).length ∧
      ((List.eraseRepsBy.loop (· == ·) a xs kept).length = kept.length + 1 ↔ ∀ b ∈ xs, b = a) := by
  induction xs generalizing a kept with
  | nil => simp [List.eraseRepsBy.loop]
  | cons x xs ih =>
      simp only [List.eraseRepsBy.loop]
      split
      case h_1 heq =>
        obtain rfl := eq_of_beq heq
        obtain ⟨hlt, hiff⟩ := ih a kept
        exact ⟨hlt, by rw [hiff, List.forall_mem_cons, and_iff_right rfl]⟩
      case h_2 hne =>
        obtain ⟨hlt, -⟩ := ih x (a :: kept)
        rw [List.length_cons] at hlt
        refine ⟨by omega, ⟨fun hlength => by omega, fun hall => ?_⟩⟩
        rw [hall x List.mem_cons_self, beq_self_eq_true] at hne
        cases hne

/-- A list has more than one element without repetitions in a row when two of its elements are
different. -/
theorem one_lt_length_eraseReps_iff {α : Type} [BEq α] [LawfulBEq α] {xs : List α} :
    1 < xs.eraseReps.length ↔ ∃ a ∈ xs, ∃ b ∈ xs, a ≠ b := by
  cases xs with
  | nil => simp [List.eraseReps, List.eraseRepsBy]
  | cons a xs =>
      obtain ⟨hpos, hone⟩ := length_eraseReps_loop a xs []
      have hmore : 1 < (a :: xs).eraseReps.length ↔ ¬ ∀ b ∈ xs, b = a := by
        rw [← hone]
        change 1 < (List.eraseRepsBy.loop (· == ·) a xs []).length ↔ _
        rw [List.length_nil] at hpos ⊢
        omega
      rw [hmore]
      constructor
      · intro hne
        obtain ⟨b, hb, hba⟩ := not_forall₂.1 hne
        exact ⟨a, List.mem_cons_self, b, List.mem_cons_of_mem _ hb, fun hab => hba hab.symm⟩
      · rintro ⟨b, hb, c, hc, hbc⟩ hall
        have hsame : ∀ d ∈ a :: xs, d = a := List.forall_mem_cons.2 ⟨rfl, hall⟩
        exact hbc ((hsame b hb).trans (hsame c hc).symm)

/-- Nodes have different numbers of devices when two of them do. -/
theorem devicesDiffer_iff {counts : Dict Int} :
    devicesDiffer counts = true ↔ ∃ a ∈ counts.values, ∃ b ∈ counts.values, a ≠ b := by
  rw [devicesDiffer, distinctInts, decide_eq_true_iff, one_lt_length_eraseReps_iff]
  simp only [List.mem_mergeSort]

/-! ### A mean over nodes -/

theorem roundedRatio_natCast {num den : Nat} (hnum : num < 2 ^ 53) (hden : 0 < den)
    (hden' : den < 2 ^ 53) :
    roundedRatio num den =
      Binary64.divToEven (Binary64.nearestUnits (num * Binary64.unitsPerOne) den)
        Binary64.unitsPerOne := by
  rw [roundedRatio, if_neg (Nat.ne_of_gt hden), Binary64.ofInt_natCast,
    Binary64.toInt64_roundEven_div hnum hden hden']

/-- **How many nodes may be missing in a mean**: where `k` of `n` nodes have `c` devices each, the
mean over all nodes is rounded to `c` when the devices of the other nodes would be at most half as
many as there are nodes, or less than half as many if `c` is odd. -/
theorem roundedRatio_mul_eq_iff {c k n : Nat} (hc : 0 < c) (hk : k ≤ n) (hn : 0 < n)
    (hsmall : c * n < 2 ^ 50) :
    roundedRatio ((c * k : Nat) : Int) n = c ↔ 2 * c * (n - k) + c % 2 ≤ n := by
  have hnum : c * k ≤ c * n := Nat.mul_le_mul_left c hk
  have hden : n ≤ c * n := Nat.le_mul_of_pos_left n hc
  have hcount : c ≤ c * n := Nat.le_mul_of_pos_right c hn
  rw [roundedRatio_natCast (by omega) hn (by omega), Int.natCast_inj]
  -- the mean is at most `c`, and so it is `c` if it is more than the number before
  have hle : Binary64.divToEven (Binary64.nearestUnits (c * k * Binary64.unitsPerOne) n)
      Binary64.unitsPerOne ≤ c := by
    have hunits : Binary64.nearestUnits (c * k * Binary64.unitsPerOne) n ≤
        c * Binary64.unitsPerOne := by
      refine Binary64.nearestUnits_le_of_le_mul hn
        (Binary64.spacing_dvd (Binary64.representable_ones (by omega))) ?_
      rw [Nat.mul_right_comm c _ n]
      exact Nat.mul_le_mul_right _ hnum
    have hmono := Binary64.divToEven_mono Binary64.unitsPerOne hunits
    rwa [Binary64.divToEven_mul _ _ Binary64.unitsPerOne_pos] at hmono
  obtain ⟨d, rfl⟩ : ∃ d, c = d + 1 := ⟨c - 1, by omega⟩
  have htwice : (2 * d + 1) * (2 * n) + 2 * n = 4 * ((d + 1) * n) := by ring
  have hround := @Binary64.lt_divToEven_nearestUnits_iff d ((d + 1) * k) n hn (by omega)
  rw [Binary64.lt_divToEven_iff hn] at hround
  have hmissing : 2 * (d + 1) * (n - k) + 2 * ((d + 1) * k) = 2 * (d + 1) * n := by
    rw [← Nat.mul_assoc, ← Nat.mul_add, Nat.sub_add_cancel hk]
  have hhalf : (2 * d + 1) * n + n = 2 * (d + 1) * n := by ring
  constructor
  · intro heq
    have hmore := hround.1 (by omega)
    omega
  · intro hfew
    have hmore := hround.2 (by omega)
    omega

/-! ### Nodes that agree -/

namespace Keyed

/-- The nodes that reported something, of which there are some, agree on a number of devices. -/
structure StoresOn (nodes : NodeStats) (c : Nat) : Prop where
  /-- Some node reported something. -/
  reported : nodes.usable.values ≠ []
  /-- Every one of them has that many devices. -/
  devices : ∀ stats ∈ nodes.usable.values, deviceCount stats = c

/-- The number of nodes that failed to answer, or answered nothing. -/
def silent (nodes : NodeStats) : Nat := nodes.size - nodes.usable.size

theorem size_usable_le (nodes : NodeStats) : nodes.usable.size ≤ nodes.size :=
  List.length_filterMap_le _ _

end Keyed

/-- A namespace is shown with a number of devices on each node, the same on all. -/
structure NamespaceSummary.ShowsDevices (ns : NamespaceSummary) (c : Nat) : Prop where
  devicesPerNode : ns.devicesPerNode = c
  sameDevicesAcrossNodes : ns.sameDevicesAcrossNodes = true

namespace NamespaceFigures

variable {configs nodes : NodeStats} {c : Nat}

theorem values_devices_ofNodes (h : nodes.StoresOn c) :
    (ofNodes configs nodes).devices.values = List.replicate nodes.usable.size (c : Int) := by
  have hvalues : (ofNodes configs nodes).devices.values = nodes.usable.values.map deviceCount := by
    simp [ofNodes, Dict.values, Dict.map]
  have hlength : nodes.usable.size = nodes.usable.values.length := by
    simp [Dict.size, Dict.values]
  rw [hvalues, hlength, ← List.map_const']
  exact List.map_congr_left h.devices

theorem deviceTotal_ofNodes (h : nodes.StoresOn c) :
    (ofNodes configs nodes).deviceTotal = ((c * nodes.usable.size : Nat) : Int) := by
  rw [deviceTotal, values_devices_ofNodes h, Integer.sum_eq_sum, List.sum_replicate, nsmul_eq_mul,
    Nat.cast_mul, mul_comm]

theorem devicesDiffer_ofNodes (h : nodes.StoresOn c) :
    devicesDiffer (ofNodes configs nodes).devices = false := by
  refine Bool.eq_false_iff.2 fun hdiffer => ?_
  obtain ⟨a, ha, b, hb, hne⟩ := devicesDiffer_iff.1 hdiffer
  rw [values_devices_ofNodes h] at ha hb
  exact hne ((List.eq_of_mem_replicate ha).trans (List.eq_of_mem_replicate hb).symm)

/-- What is shown of nodes that agree on a number of devices. -/
theorem showsDevices_fill_iff (h : nodes.StoresOn c) (hc : 0 < c)
    (hsmall : c * nodes.size < 2 ^ 50) (license : LicenseUsage) (migrating : Bool) :
    ((ofNodes configs nodes).fill { license, migrating }).ShowsDevices c ↔
      2 * c * nodes.silent + c % 2 ≤ nodes.size := by
  have hreported : 0 < nodes.usable.size := by
    have hlength := List.length_pos_iff.2 h.reported
    rwa [Dict.values, List.length_map] at hlength
  have hle := Keyed.size_usable_le nodes
  have hpos : 0 < (ofNodes configs nodes).deviceTotal := by
    rw [deviceTotal_ofNodes h]
    exact Int.natCast_pos.2 (Nat.mul_pos hc hreported)
  have hmean : ((ofNodes configs nodes).fill { license, migrating }).devicesPerNode =
      roundedRatio ((c * nodes.usable.size : Nat) : Int) nodes.size := by
    change (if 0 < (ofNodes configs nodes).deviceTotal then _ else _) = _
    rw [if_pos hpos, deviceTotal_ofNodes h]
    rfl
  have hsame : ((ofNodes configs nodes).fill { license, migrating }).sameDevicesAcrossNodes =
      true := by
    change (if (_ && devicesDiffer (ofNodes configs nodes).devices) = true then _ else _) = _
    rw [devicesDiffer_ofNodes h, Bool.and_false]
    rfl
  rw [Keyed.silent, ← roundedRatio_mul_eq_iff hc hle (by omega) hsmall, ← hmean]
  exact ⟨fun hshows => hshows.devicesPerNode, fun hshows => ⟨hshows, hsame⟩⟩

end NamespaceFigures

/-! ### A summary -/

namespace Summary

/-- Every namespace of which the nodes agree on a number of devices is shown with that number. -/
def CountsDevices (stats : ClusterStats) (s : Summary) : Prop :=
  ∀ name nodes c, (Keyed.flip stats.namespaces).get? name = some nodes → nodes.StoresOn c → 0 < c →
    ∃ ns, s.namespaces.get? name = some ns ∧ ns.ShowsDevices c

/-- What is shown of a namespace of which the nodes agree on a number of devices. -/
theorem showsDevices_create (stats : ClusterStats) (metadata : ClusterMetadata)
    (agent : Option Json) (allowUnstable : Bool) {name : String} {nodes : NodeStats} {c : Nat}
    (hnodes : (Keyed.flip stats.namespaces).get? name = some nodes) (h : nodes.StoresOn c)
    (hc : 0 < c) (hsmall : c * nodes.size < 2 ^ 50) :
    ∃ ns, (create stats metadata agent allowUnstable).namespaces.get? name = some ns ∧
      (ns.ShowsDevices c ↔ 2 * c * nodes.silent + c % 2 ≤ nodes.size) := by
  obtain ⟨license, migrating, hfilled⟩ := get?_create stats metadata agent allowUnstable hnodes
  exact ⟨_, hfilled, NamespaceFigures.showsDevices_fill_iff h hc hsmall license migrating⟩

/-- **The number that the nodes agree on is shown exactly where few enough of them are silent**: the
devices that these would have are at most half as many as there are nodes, or less than half as many
where the number is odd.  No namespace has as many as `2 ^ 50` devices. -/
theorem countsDevices_create_iff (stats : ClusterStats) (metadata : ClusterMetadata)
    (agent : Option Json) (allowUnstable : Bool)
    (hsmall : ∀ name nodes c, (Keyed.flip stats.namespaces).get? name = some nodes →
      nodes.StoresOn c → c * nodes.size < 2 ^ 50) :
    CountsDevices stats (create stats metadata agent allowUnstable) ↔
      ∀ name nodes c, (Keyed.flip stats.namespaces).get? name = some nodes → nodes.StoresOn c →
        0 < c → 2 * c * nodes.silent + c % 2 ≤ nodes.size := by
  constructor
  · intro hcounts name nodes c hnodes h hc
    obtain ⟨ns, hns, hshows⟩ := hcounts name nodes c hnodes h hc
    obtain ⟨ns', hns', hiff⟩ := showsDevices_create stats metadata agent allowUnstable hnodes h
      hc (hsmall name nodes c hnodes h)
    obtain rfl : ns' = ns := Option.some.inj (hns'.symm.trans hns)
    exact hiff.1 hshows
  · intro hfew name nodes c hnodes h hc
    obtain ⟨ns, hns, hiff⟩ := showsDevices_create stats metadata agent allowUnstable hnodes h
      hc (hsmall name nodes c hnodes h)
    exact ⟨ns, hns, hiff.2 (hfew name nodes c hnodes h hc)⟩

def nodeWith (devices : String) : Fetched (Keyed Stats) :=
  .data (.ofList [("test", .data (.ofList
    [("device", .str devices), ("memory-size", .str "1000")]))])

def silentNode : Fetched (Keyed Stats) := .data (.ofList [("test", .failed "timeout")])

/-- A cluster of three nodes, one of them silent, where the others have one device each. -/
def oneOfThreeSilent : ClusterStats where
  namespaceStats := .ofList [("n1", nodeWith "/dev/sda"), ("n2", nodeWith "/dev/sda"),
    ("n3", silentNode)]

theorem countsDevices_create_oneOfThreeSilent :
    (∀ name nodes c, (Keyed.flip oneOfThreeSilent.namespaces).get? name = some nodes →
      nodes.StoresOn c → c * nodes.size < 2 ^ 50) ∧
    CountsDevices oneOfThreeSilent (create oneOfThreeSilent {} none false) := by
  have hentries : ∀ e ∈ (Keyed.flip oneOfThreeSilent.namespaces).entries,
      (e.2.size = 3 ∧ e.2.silent = 1) ∧ ∀ stats ∈ e.2.usable.values, deviceCount stats = 1 := by
    decide +kernel
  have hone : ∀ name nodes c, (Keyed.flip oneOfThreeSilent.namespaces).get? name = some nodes →
      nodes.StoresOn c → nodes.size = 3 ∧ nodes.silent = 1 ∧ c = 1 := by
    intro name nodes c hnodes h
    obtain ⟨⟨hsize, hsilent⟩, hcount⟩ := hentries (name, nodes) (Dict.mem_entries_iff.2 hnodes)
    obtain ⟨stats, hstats⟩ := List.exists_mem_of_ne_nil _ h.reported
    have heq : (c : Int) = 1 := (h.devices stats hstats).symm.trans (hcount stats hstats)
    exact ⟨hsize, hsilent, by omega⟩
  have hsmall : ∀ name nodes c, (Keyed.flip oneOfThreeSilent.namespaces).get? name = some nodes →
      nodes.StoresOn c → c * nodes.size < 2 ^ 50 := by
    intro name nodes c hnodes h
    obtain ⟨hsize, -, rfl⟩ := hone name nodes c hnodes h
    rw [hsize]
    decide
  refine ⟨hsmall, (countsDevices_create_iff oneOfThreeSilent {} none false hsmall).2 ?_⟩
  intro name nodes c hnodes h _
  obtain ⟨hsize, hsilent, rfl⟩ := hone name nodes c hnodes h
  rw [hsize, hsilent]

/-- A cluster of two nodes, one of them silent, where the other one has two devices. -/
def oneOfTwoSilent : ClusterStats where
  namespaceStats := .ofList [("n1", nodeWith "/dev/sda,/dev/sdb"), ("n2", silentNode)]

/-- **The node that answered has two devices, and one is shown.** -/
theorem not_countsDevices_create_oneOfTwoSilent :
    ¬ CountsDevices oneOfTwoSilent (create oneOfTwoSilent {} none false) := by
  intro hcounts
  have hshown : ((create oneOfTwoSilent {} none false).namespaces.get? "test").map
      (·.devicesPerNode) = some 1 := by decide +kernel
  have hnodes : ((Keyed.flip oneOfTwoSilent.namespaces).get? "test").map
      (fun nodes => nodes.usable.values.map deviceCount) = some [2] := by decide +kernel
  obtain ⟨nodes, hnodes, hcount⟩ := Option.map_eq_some_iff.1 hnodes
  have hagree : nodes.StoresOn 2 := by
    refine ⟨fun hnone => ?_, fun stats hstats => ?_⟩
    · rw [hnone] at hcount
      cases hcount
    · have hmem : deviceCount stats ∈ nodes.usable.values.map deviceCount :=
        List.mem_map_of_mem hstats
      rw [hcount] at hmem
      exact List.mem_singleton.1 hmem
  obtain ⟨ns, hns, hshows⟩ := hcounts "test" nodes 2 hnodes hagree (by decide)
  rw [hns, Option.map_some, hshows.devicesPerNode] at hshown
  exact absurd hshown (by decide)

end Summary
end ClusterReport
