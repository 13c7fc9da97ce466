/-
**Where the available share is read.**

The summary and the listing of namespaces read the share of the storage that can still be written to
as an attribute, under every spelling that it has had.  The diagnosis of stopped writes reads it
under two spellings of its own, and none of these is one of the attribute's.  So a namespace whose
share is shown by the summary, and whose flag is a text, has an entry about it exactly if it reports
the share under the other spellings as well; what it reports under the attribute's spellings decides
nothing.

Main definitions:

* `ClusterReport.StopWrites.shareSpellings` — the spellings of the attributes;
* `ClusterReport.StopWrites.TellsShare` — what a namespace reports of its available share;
* `ClusterReport.StopWrites.DiagnosesShares` — that every such namespace has an entry about it;
* `ClusterReport.StopWrites.ReadsOwnSpellings` — where the diagnosis reads the share.

Main results:

* `ClusterReport.StopWrites.exists_availability_iff` — when a namespace has an entry about its
  available share;
* `ClusterReport.StopWrites.ofNamespace_congr` — the spellings of the attributes are not read;
* `ClusterReport.StopWrites.readsOwnSpellings` — **a share that the summary and the listing read has
  an entry exactly if it is also reported under the spellings of the diagnosis**;
* `ClusterReport.StopWrites.not_diagnosesShares_halfReported` — a share that has none.
-/

import ClusterReport.Attribute.Catalogue
import ClusterReport.Proofs.StopWrites.Availability
import ClusterReport.Proofs.StopWrites.Locality

set_option relaxedAutoImplicit false
set_option autoImplicit false

namespace ClusterReport.StopWrites

/-! ### Entries about the share -/

/-- The spellings under which the summary and the listing read the available share. -/
def shareSpellings : List String :=
  Attribute.deviceAvailPercent.spellings ++ Attribute.pmemAvailPercent.spellings

/-- A namespace reports all that an entry about its available share takes: the server's flag, the
least share, and the share itself as the summary and the listing read it. -/
structure TellsShare (ns : Stats) : Prop where
  flag : ns.reports "stop_writes" = true
  least : (ns.int? "min-avail-pct").isSome = true
  share : (Attribute.deviceAvailPercent.int? ns).isSome = true ∨
    (Attribute.pmemAvailPercent.int? ns).isSome = true

/-- Whether every namespace that tells its available share has an entry about it. -/
def DiagnosesShares (stats : ClusterStats) : Prop :=
  ∀ node name ns, stats.namespace? node name = some ns → TellsShare ns →
    ∃ e ∈ entriesAbout stats node name none, e.IsAvailability

/-- A namespace has an entry about its available share when its flag is a text and it reports the
share under a spelling of the diagnosis. -/
theorem exists_availability_iff {stats : ClusterStats} {node name : String} {ns : Stats}
    (hns : stats.namespace? node name = some ns) (htells : TellsShare ns) :
    (∃ e ∈ entriesAbout stats node name none, e.IsAvailability) ↔
      (ns.text? "stop_writes").isSome = true ∧ (ns.int? (availabilityKey ns)).isSome = true := by
  constructor
  · rintro ⟨e, he, havailability⟩
    obtain ⟨hmem, hname, -⟩ := mem_entriesAbout_iff.1 he
    rw [← (perm_entriesAt stats node).mem_iff, entriesAt_eq] at hmem
    obtain ⟨name', ns', flag, usage, least, hns', hreports, rfl⟩ :=
      mem_entriesOfNode_availability_iff.1 ⟨hmem, havailability⟩
    obtain rfl : name' = name := Option.some.inj hname
    obtain rfl : ns' = ns := Option.some.inj (hns'.symm.trans hns)
    exact ⟨Option.isSome_iff_exists.2 ⟨flag, hreports.flag_eq⟩,
      Option.isSome_iff_exists.2 ⟨usage, hreports.usage_eq⟩⟩
  · rintro ⟨htext, hreadable⟩
    obtain ⟨flag, hflag⟩ := Option.isSome_iff_exists.1 htext
    obtain ⟨least, hleast⟩ := Option.isSome_iff_exists.1 htells.least
    obtain ⟨usage, husage⟩ := Option.isSome_iff_exists.1 hreadable
    obtain ⟨hmem, havailability⟩ := mem_entriesOfNode_availability_iff.2
      ⟨name, ns, flag, usage, least, hns, ⟨hflag, husage, hleast⟩, rfl⟩
    rw [← entriesAt_eq, (perm_entriesAt stats node).mem_iff] at hmem
    exact ⟨_, mem_entriesAbout_iff.2 ⟨hmem, rfl, rfl⟩, havailability⟩

/-! ### What is not read -/

theorem not_mem_shareSpellings {key : String} (h : key ∈ namespaceAttributes) :
    key ∉ shareSpellings := by
  have hnone : ∀ key ∈ namespaceAttributes, key ∉ shareSpellings := by decide
  exact hnone key h

/-- **Nothing that is evaluated for a namespace is read under the spellings of the attributes.** -/
theorem ofNamespace_congr {ns ns' : Stats}
    (h : ∀ key, key ∉ shareSpellings → ns.get? key = ns'.get? key) (service : Option Stats)
    (name : String) : ofNamespace service name (some ns) = ofNamespace service name (some ns') := by
  have hns : ReadsAlike namespaceAttributes ns ns' :=
    .of_get?_eq fun key hkey => h key (not_mem_shareSpellings hkey)
  have hservice : serviceEntries service name ns = serviceEntries service name ns' := by
    cases service with
    | none => rfl
    | some service => exact serviceEntries_congr (.of_get?_eq fun _ _ => rfl) hns name
  rw [ofNamespace, ofNamespace, Option.elim_some, Option.elim_some, hservice,
    namespaceEntries_congr hns]

/-! ### Where the share is read -/

/-- Where the diagnosis reads the available share: a namespace that tells it to the summary and the
listing has an entry exactly if it reports it under a spelling of the diagnosis too and its flag is
a text, and its entries do not depend on what it reports under the spellings of the attributes. -/
structure ReadsOwnSpellings (stats : ClusterStats) : Prop where
  diagnoses_iff : DiagnosesShares stats ↔ ∀ node name ns, stats.namespace? node name = some ns →
    TellsShare ns →
      (ns.text? "stop_writes").isSome = true ∧ (ns.int? (availabilityKey ns)).isSome = true
  unread : ∀ stats' node name ns ns', stats.namespace? node name = some ns →
    stats'.namespace? node name = some ns' →
    stats.serviceStats.data? node = stats'.serviceStats.data? node →
    (∀ key, key ∉ shareSpellings → ns.get? key = ns'.get? key) →
      entriesAbout stats node name none = entriesAbout stats' node name none

/-- **A share that the summary and the listing read has an entry exactly if it is also reported
under a spelling of the diagnosis**, which reads none of theirs. -/
theorem readsOwnSpellings (stats : ClusterStats) : ReadsOwnSpellings stats where
  diagnoses_iff := by
    constructor
    · intro hdiagnoses node name ns hns htells
      exact (exists_availability_iff hns htells).1 (hdiagnoses node name ns hns htells)
    · intro hreadable node name ns hns htells
      exact (exists_availability_iff hns htells).2 (hreadable node name ns hns htells)
  unread stats' node name ns ns' hns hns' hservice h := by
    rw [entriesAbout_namespace, entriesAbout_namespace, hns, hns', hservice, ofNamespace_congr h]

/-- A namespace that can still write to half of its storage, in the spelling of the attribute. -/
def halfReported : ClusterStats where
  namespaceStats := .ofList [("n1", .data (.ofList [("test", .data (.ofList
    [("stop_writes", .str "false"), ("device_available_pct", .str "50")]))]))]
  namespaceConfigs := .ofList [("n1", .data (.ofList [("test", .data (.ofList
    [("min-avail-pct", .str "5")]))]))]

/-- **A namespace whose available share the summary shows has no entry about it.** -/
theorem not_diagnosesShares_halfReported : ¬ DiagnosesShares halfReported := by
  intro hdiagnoses
  have htold : (halfReported.namespace? "n1" "test").any (fun ns =>
      ns.reports "stop_writes" && (ns.int? "min-avail-pct").isSome &&
        (Attribute.deviceAvailPercent.int? ns).isSome) = true := by
    decide +kernel
  have hnone : entriesAbout halfReported "n1" "test" none = [] := by
    decide +kernel
  obtain ⟨ns, hns, htells⟩ := (Option.any_eq_true _ _).1 htold
  simp only [Bool.and_eq_true] at htells
  obtain ⟨e, he, -⟩ :=
    hdiagnoses "n1" "test" ns hns ⟨htells.1.1, htells.1.2, .inl htells.2⟩
  rw [hnone] at he
  cases he

end ClusterReport.StopWrites
