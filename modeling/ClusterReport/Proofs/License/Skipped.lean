/-
**Entries of the agent that do not count.**

An entry of the agent's answer is skipped when it is of another level than `info`, or when the
cluster was not stable and only stable samples count.  Nothing else is asked of an entry that is
skipped, so that it may lack whatever it likes and stand wherever it likes.  Of the others none may
have a defect: the first one that has stops the pass.  What an answer does is therefore what it does
without the entries that are skipped.

Main definitions:

* `ClusterReport.AgentEntry.isSkipped` — whether an entry is skipped;
* `ClusterReport.AgentEntry.IsDefective`, `defect?` — what an entry may lack, and which of it is
  told;
* `ClusterReport.AgentResponse.counted` — an answer without the entries that are skipped;
* `ClusterReport.Licenses.SkipsEntries` — what is true of filling in an answer.

Main results:

* `ClusterReport.AgentEntry.sample?_of_skipped`, `sample?_of_not_skipped` — what becomes of an
  entry;
* `ClusterReport.AgentResponse.samples?_counted` — skipped entries have no part in the samples;
* `ClusterReport.Licenses.skipsEntries_fillFromAgent` — **an answer does what it does without the
  entries that are skipped, fails exactly when one of the others has a defect, and says that no
  entry counted exactly when there are no others**.
-/

import ClusterReport.Proofs.License.Samples

set_option relaxedAutoImplicit false
set_option autoImplicit false

namespace ClusterReport

/-! ### One entry -/

namespace AgentEntry

/-- Whether an entry is skipped: it is of another level, or the cluster was not stable and only
stable samples count. -/
def isSkipped (allowUnstable : Bool) (e : AgentEntry) : Bool :=
  e.level ≠ "info" || (!allowUnstable && e.clusterStable == some false)

/-- What an entry that is not skipped may lack. -/
inductive IsDefective (allowUnstable : Bool) (e : AgentEntry) : Prop
  | stability (hallow : allowUnstable = false) (h : e.clusterStable = none)
  | bytes (h : e.uniqueBytes = none)
  | time (h : Timestamp.ofText? e.time.toList = none)

/-- What is told of an entry that lacks something: the stability before the bytes, and these before
the time. -/
def defect? (allowUnstable : Bool) (e : AgentEntry) : Option AgentError :=
  if allowUnstable = false ∧ e.clusterStable = none then some .stabilityMissing
  else if e.uniqueBytes = none then some .bytesMissing
  else if Timestamp.ofText? e.time.toList = none then some (.badTime e.time)
  else none

theorem isSome_defect?_iff (allowUnstable : Bool) (e : AgentEntry) :
    (e.defect? allowUnstable).isSome = true ↔ e.IsDefective allowUnstable := by
  unfold defect?
  split
  case isTrue h => exact iff_of_true rfl (.stability h.1 h.2)
  case isFalse hstability =>
    split
    case isTrue h => exact iff_of_true rfl (.bytes h)
    case isFalse hbytes =>
      split
      case isTrue h => exact iff_of_true rfl (.time h)
      case isFalse htime =>
        refine iff_of_false Bool.false_ne_true fun h => ?_
        cases h with
        | stability hallow h => exact hstability ⟨hallow, h⟩
        | bytes h => exact hbytes h
        | time h => exact htime h

/-- Whether an entry counts: it does unless it is skipped, or does not say whether the cluster was
stable where that is asked. -/
theorem counts_eq (allowUnstable : Bool) (e : AgentEntry) :
    e.counts allowUnstable =
      if e.isSkipped allowUnstable then .ok false
      else if allowUnstable = false ∧ e.clusterStable = none then .error .stabilityMissing
      else .ok true := by
  unfold counts isSkipped
  by_cases hlevel : e.level ≠ "info"
  · rw [if_pos hlevel, decide_eq_true hlevel, Bool.true_or, if_pos rfl]
  · rw [if_neg hlevel, decide_eq_false hlevel, Bool.false_or]
    cases allowUnstable with
    | true => rfl
    | false =>
        cases e.clusterStable with
        | none => rfl
        | some stable => cases stable <;> rfl

/-- An entry that is skipped has no sample, whatever it lacks. -/
theorem sample?_of_skipped {allowUnstable : Bool} {e : AgentEntry}
    (h : e.isSkipped allowUnstable = true) : e.sample? allowUnstable = .ok none := by
  rw [sample?, counts_eq, if_pos h]

/-- An entry that is not skipped has a sample unless it lacks something. -/
theorem sample?_of_not_skipped {allowUnstable : Bool} {e : AgentEntry}
    (h : e.isSkipped allowUnstable = false) :
    match e.defect? allowUnstable with
    | some cause => e.sample? allowUnstable = .error cause
    | none => ∃ sample, e.sample? allowUnstable = .ok (some sample) := by
  rw [sample?, counts_eq, if_neg (Bool.eq_false_iff.1 h), defect?]
  by_cases hstability : allowUnstable = false ∧ e.clusterStable = none
  · rw [if_pos hstability, if_pos hstability]
  · rw [if_neg hstability, if_neg hstability]
    cases e.uniqueBytes with
    | none => rfl
    | some bytes =>
        cases Timestamp.ofText? e.time.toList with
        | none => rfl
        | some time => exact ⟨_, rfl⟩

end AgentEntry

/-! ### All entries -/

namespace AgentResponse

/-- The answer without the entries that are skipped. -/
def counted (allowUnstable : Bool) (response : AgentResponse) : AgentResponse :=
  ⟨response.entries.filter fun e => !e.isSkipped allowUnstable⟩

/-- **Skipped entries have no part in the samples**, wherever they stand. -/
theorem samples?_counted (allowUnstable : Bool) (response : AgentResponse) :
    samples? allowUnstable (response.counted allowUnstable).entries =
      samples? allowUnstable response.entries := by
  obtain ⟨entries⟩ := response
  change samples? allowUnstable (entries.filter _) = samples? allowUnstable entries
  induction entries with
  | nil => rfl
  | cons e rest ih =>
      cases hskipped : e.isSkipped allowUnstable with
      | true =>
          rw [List.filter_cons_of_neg (by rw [hskipped]; exact Bool.false_ne_true), ih, samples?,
            AgentEntry.sample?_of_skipped hskipped]
      | false =>
          rw [List.filter_cons_of_pos (by rw [hskipped]; rfl), samples?, samples?, ih]

theorem samples?_of_not_skipped {allowUnstable : Bool} {entries : List AgentEntry}
    (h : ∀ e ∈ entries, e.isSkipped allowUnstable = false) :
    match entries.findSome? (AgentEntry.defect? allowUnstable) with
    | some cause => samples? allowUnstable entries = .error cause
    | none => ∃ samples, samples? allowUnstable entries = .ok samples ∧
        samples.length = entries.length := by
  induction entries with
  | nil => exact ⟨[], rfl, rfl⟩
  | cons e rest ih =>
      obtain ⟨he, hrest⟩ := List.forall_mem_cons.1 h
      have hentry := AgentEntry.sample?_of_not_skipped he
      rw [List.findSome?_cons, samples?]
      cases hdefect : e.defect? allowUnstable with
      | some cause =>
          rw [hdefect] at hentry
          rw [hentry]
      | none =>
          rw [hdefect] at hentry
          obtain ⟨sample, hs⟩ := hentry
          have hall := ih hrest
          rw [hs]
          cases hlater : rest.findSome? (AgentEntry.defect? allowUnstable) with
          | some cause =>
              rw [hlater] at hall
              simp only [hall, Except.map]
          | none =>
              rw [hlater] at hall
              obtain ⟨samples, hsamples, hlength⟩ := hall
              refine ⟨sample :: samples, ?_, by rw [List.length_cons, List.length_cons, hlength]⟩
              simp only [hsamples, Except.map]

theorem isSkipped_of_mem_counted {allowUnstable : Bool} {response : AgentResponse} {e : AgentEntry}
    (h : e ∈ (response.counted allowUnstable).entries) : e.isSkipped allowUnstable = false := by
  simpa using (List.mem_filter.1 h).2

theorem counted_eq_nil_iff (allowUnstable : Bool) (response : AgentResponse) :
    (response.counted allowUnstable).entries = [] ↔
      ∀ e ∈ response.entries, e.isSkipped allowUnstable = true := by
  rw [counted, List.filter_eq_nil_iff]
  simp

theorem exists_findSome?_defect?_iff (allowUnstable : Bool) (response : AgentResponse) :
    (∃ cause, (response.counted allowUnstable).entries.findSome?
        (AgentEntry.defect? allowUnstable) = some cause) ↔
      ∃ e ∈ response.entries, e.isSkipped allowUnstable = false ∧ e.IsDefective allowUnstable := by
  rw [← Option.isSome_iff_exists, List.findSome?_isSome_iff]
  constructor
  · rintro ⟨e, he, hdefect⟩
    exact ⟨e, (List.mem_filter.1 he).1, isSkipped_of_mem_counted he,
      (e.isSome_defect?_iff allowUnstable).1 hdefect⟩
  · rintro ⟨e, he, hskipped, hdefect⟩
    exact ⟨e, List.mem_filter.2 ⟨he, by rw [hskipped]; rfl⟩,
      (e.isSome_defect?_iff allowUnstable).2 hdefect⟩

end AgentResponse

/-! ### The answer -/

namespace Licenses

/-- What is true of filling in an answer: it does what the answer does without the entries that are
skipped; it fails exactly when an entry that is not skipped has a defect, telling the first one; and
it says that no entry counted exactly when all are skipped. -/
structure SkipsEntries (allowUnstable : Bool) (response : AgentResponse) (s : Summary) :
    Prop where
  run_eq : (fillFromAgent allowUnstable response).run s =
    (fillFromAgent allowUnstable (response.counted allowUnstable)).run s
  failed_iff : (∃ cause after, (fillFromAgent allowUnstable response).run s = .error cause after) ↔
    ∃ e ∈ response.entries, e.isSkipped allowUnstable = false ∧ e.IsDefective allowUnstable
  cause_iff : ∀ cause,
    (∃ after, (fillFromAgent allowUnstable response).run s = .error cause after) ↔
      (response.counted allowUnstable).entries.findSome? (AgentEntry.defect? allowUnstable) =
        some cause
  idle_iff : (∃ after, (fillFromAgent allowUnstable response).run s = .ok false after) ↔
    ∀ e ∈ response.entries, e.isSkipped allowUnstable = true

/-- What an answer does, by the first defect of the entries that are not skipped. -/
theorem run_fillFromAgent_counted (allowUnstable : Bool) (response : AgentResponse)
    (s : Summary) :
    match (response.counted allowUnstable).entries.findSome? (AgentEntry.defect? allowUnstable) with
    | some cause => (fillFromAgent allowUnstable response).run s = .error cause s
    | none =>
      ∃ after, (fillFromAgent allowUnstable response).run s =
        .ok (!(response.counted allowUnstable).entries.isEmpty) after := by
  have hall := AgentResponse.samples?_of_not_skipped
    fun e (he : e ∈ (response.counted allowUnstable).entries) =>
      AgentResponse.isSkipped_of_mem_counted he
  rw [AgentResponse.samples?_counted] at hall
  rw [run_fillFromAgent]
  cases hdefect : (response.counted allowUnstable).entries.findSome?
      (AgentEntry.defect? allowUnstable) with
  | some cause =>
      rw [hdefect] at hall
      rw [hall]
  | none =>
      rw [hdefect] at hall
      obtain ⟨samples, hsamples, hlength⟩ := hall
      rw [hsamples]
      cases samples with
      | nil => exact ⟨s, by rw [List.length_eq_zero_iff.1 hlength.symm]; rfl⟩
      | cons sample rest =>
          cases hentries : (response.counted allowUnstable).entries with
          | nil => rw [hentries] at hlength; cases hlength
          | cons e _ => exact ⟨_, rfl⟩

theorem run_fillFromAgent_error_iff (allowUnstable : Bool) (response : AgentResponse)
    (s : Summary) (cause : AgentError) :
    (∃ after, (fillFromAgent allowUnstable response).run s = .error cause after) ↔
      (response.counted allowUnstable).entries.findSome? (AgentEntry.defect? allowUnstable) =
        some cause := by
  have hrun := run_fillFromAgent_counted allowUnstable response s
  split at hrun
  case h_1 _ hdefect =>
    rw [hrun, hdefect]
    simp
  case h_2 hdefect =>
    obtain ⟨after, hrun⟩ := hrun
    rw [hrun, hdefect]
    simp

theorem run_fillFromAgent_false_iff (allowUnstable : Bool) (response : AgentResponse)
    (s : Summary) :
    (∃ after, (fillFromAgent allowUnstable response).run s = .ok false after) ↔
      ∀ e ∈ response.entries, e.isSkipped allowUnstable = true := by
  rw [← AgentResponse.counted_eq_nil_iff]
  have hrun := run_fillFromAgent_counted allowUnstable response s
  split at hrun
  case h_1 _ hdefect =>
    -- where nothing is left there is no defect
    refine iff_of_false (by rw [hrun]; simp) fun hnil => ?_
    rw [hnil] at hdefect
    cases hdefect
  case h_2 =>
    obtain ⟨after, hrun⟩ := hrun
    rw [hrun]
    cases (response.counted allowUnstable).entries <;> simp

/-- **An answer does what it does without the entries that are skipped**, fails exactly when one of
the others has a defect, and says that no entry counted exactly when there are no others. -/
theorem skipsEntries_fillFromAgent (allowUnstable : Bool) (response : AgentResponse)
    (s : Summary) : SkipsEntries allowUnstable response s where
  run_eq := by rw [run_fillFromAgent, run_fillFromAgent, AgentResponse.samples?_counted]
  failed_iff := (exists_congr (run_fillFromAgent_error_iff allowUnstable response s)).trans
    (AgentResponse.exists_findSome?_defect?_iff allowUnstable response)
  cause_iff := run_fillFromAgent_error_iff allowUnstable response s
  idle_iff := run_fillFromAgent_false_iff allowUnstable response s

end Licenses
end ClusterReport
