/-
**The pass over the agent's samples.**

The pass over the entries of the agent's answer is an update: it could fill in usage while it is
under way.  It does not.  It collects the samples of the entries that count up to the first entry
that is bad, and until all entries are through, the usage is what it was before.  So what an answer
does is known from the list of its samples alone, and an answer with a bad entry, or without any
entry that counts, does nothing.

Main definitions:

* `ClusterReport.AgentEntry.sample?` — the sample of an entry;
* `ClusterReport.AgentResponse.samples?` — the samples of some entries;
* `ClusterReport.Summary.showing` — the summary after a pass is committed.

Main results:

* `ClusterReport.UsagePass.run_addEntry` — what one entry does to the pass, and to the usage;
* `ClusterReport.UsagePass.run_addEntries` — **the pass over any entries leaves the usage as it is,
  whether it fails or not**;
* `ClusterReport.Licenses.run_fillFromAgent`, `run_fillFromAgent_outcome` — what an answer of the
  agent does.
-/

import ClusterReport.License.Agent

set_option relaxedAutoImplicit false
set_option autoImplicit false

namespace ClusterReport

/-! ### Samples -/

/-- A sample that counts. -/
structure UsageSample where
  time : Timestamp
  uniqueBytes : Int
  namespaces : Dict Int

/-- The sample of an entry, if the entry counts. -/
def AgentEntry.sample? (allowUnstable : Bool) (e : AgentEntry) :
    Except AgentError (Option UsageSample) :=
  match e.counts allowUnstable with
  | .error cause => .error cause
  | .ok false => .ok none
  | .ok true =>
    match e.uniqueBytes, Timestamp.ofText? e.time.toList with
    | none, _ => .error .bytesMissing
    | some _, none => .error (.badTime e.time)
    | some bytes, some time => .ok (some ⟨time, bytes, e.namespaces⟩)

/-- The samples of the entries that count, in their order. -/
def AgentResponse.samples? (allowUnstable : Bool) :
    List AgentEntry → Except AgentError (List UsageSample)
  | [] => .ok []
  | e :: rest =>
    match e.sample? allowUnstable with
    | .error cause => .error cause
    | .ok none => samples? allowUnstable rest
    | .ok (some sample) => (samples? allowUnstable rest).map (sample :: ·)

/-! ### The pass -/

namespace UsagePass

def add (pass : UsagePass) (sample : UsageSample) : UsagePass where
  cluster := pass.cluster.add sample.uniqueBytes sample.time
  namespaces := sample.namespaces.entries.foldl (fun all entry =>
    all.insert entry.1 (((all.get? entry.1).getD {}).add entry.2 sample.time)) pass.namespaces

/-- Once its time could be read, an entry adds a sample to every namespace it names. -/
theorem foldlM_addNamespace {time : String} {t : Timestamp}
    (h : Timestamp.ofText? time.toList = some t) (entries : List (String × Int))
    (all : Dict UsageAggregate) :
    entries.foldlM (addNamespace time) all =
      .ok (entries.foldl (fun all entry =>
        all.insert entry.1 (((all.get? entry.1).getD {}).add entry.2 t)) all) := by
  induction entries generalizing all with
  | nil => rfl
  | cons entry rest ih =>
      have hadd : addNamespace time all entry =
          .ok (all.insert entry.1 (((all.get? entry.1).getD {}).add entry.2 t)) := by
        rw [addNamespace, UsageAggregate.addAt, h]
        rfl
      rw [List.foldlM_cons, hadd, List.foldl_cons, ← ih]
      rfl

/-- An entry adds its sample to the pass, or stops it, and leaves the usage as it is. -/
theorem run_addEntry (allowUnstable : Bool) (pass : UsagePass) (e : AgentEntry) (s : Summary) :
    (pass.addEntry allowUnstable e).run s =
      match e.sample? allowUnstable with
      | .error cause => .error cause s
      | .ok none => .ok pass s
      | .ok (some sample) => .ok (pass.add sample) s := by
  unfold addEntry AgentEntry.sample?
  rw [EStateM.run_bind, Summary.Update.run_ofExcept]
  cases e.counts allowUnstable with
  | error cause => rfl
  | ok counts =>
      cases counts with
      | false => rfl
      | true =>
          cases e.uniqueBytes with
          | none => rfl
          | some bytes =>
              cases htime : Timestamp.ofText? e.time.toList with
              | none =>
                  have hadd : pass.cluster.addAt bytes e.time = .error (.badTime e.time) := by
                    rw [UsageAggregate.addAt, htime]
                  simp only [if_true, hadd]
                  rfl
              | some t =>
                  have hadd : pass.cluster.addAt bytes e.time = .ok (pass.cluster.add bytes t) := by
                    rw [UsageAggregate.addAt, htime]
                  simp only [if_true, hadd, foldlM_addNamespace htime]
                  rfl

/-- **The pass over any entries leaves the usage as it is**, whether it fails or not: it adds the
samples of the entries, or stops at the first entry that is bad. -/
theorem run_addEntries (allowUnstable : Bool) (pass : UsagePass) (entries : List AgentEntry)
    (s : Summary) :
    (addEntries allowUnstable pass entries).run s =
      match AgentResponse.samples? allowUnstable entries with
      | .error cause => .error cause s
      | .ok samples => .ok (samples.foldl add pass) s := by
  induction entries generalizing pass with
  | nil => rfl
  | cons e rest ih =>
      rw [addEntries, EStateM.run_bind, run_addEntry, AgentResponse.samples?]
      cases e.sample? allowUnstable with
      | error cause => rfl
      | ok found =>
          cases found with
          | none => exact ih pass
          | some sample =>
              refine (ih (pass.add sample)).trans ?_
              cases AgentResponse.samples? allowUnstable rest <;> rfl

theorem count_foldl_add (pass : UsagePass) (samples : List UsageSample) :
    (samples.foldl add pass).cluster.count = pass.cluster.count + samples.length := by
  induction samples generalizing pass with
  | nil => rfl
  | cons sample rest ih =>
      rw [List.foldl_cons, ih, List.length_cons, Nat.add_comm rest.length 1, ← Nat.add_assoc]
      rfl

end UsagePass

/-! ### The answer -/

/-- The summary with what a pass shows, for the cluster and the namespaces that are listed. -/
def Summary.showing (s : Summary) (pass : UsagePass) : Summary :=
  pass.namespaces.entries.foldl (fun s entry => s.setNamespaceLicense entry.1 entry.2.toUsage)
    (s.setClusterLicense pass.cluster.toUsage)

namespace Licenses

/-- What an answer of the agent does: nothing, unless all its entries are good and some of them
count. -/
theorem run_fillFromAgent (allowUnstable : Bool) (response : AgentResponse) (s : Summary) :
    (fillFromAgent allowUnstable response).run s =
      match AgentResponse.samples? allowUnstable response.entries with
      | .error cause => .error cause s
      | .ok [] => .ok false s
      | .ok (sample :: rest) => .ok true (s.showing ((sample :: rest).foldl UsagePass.add {})) := by
  rw [fillFromAgent, EStateM.run_bind, UsagePass.run_addEntries]
  cases AgentResponse.samples? allowUnstable response.entries with
  | error cause => rfl
  | ok samples =>
      cases samples with
      | nil => rfl
      | cons sample rest =>
          have hcount : ((sample :: rest).foldl UsagePass.add {}).cluster.count ≠ 0 := by
            rw [UsagePass.count_foldl_add, List.length_cons]
            exact Nat.succ_ne_zero _
          simp only [hcount, if_false]
          rfl

/-- An answer is filled in, or it leaves the usage as it is. -/
theorem run_fillFromAgent_outcome (allowUnstable : Bool) (response : AgentResponse)
    (s : Summary) :
    (∃ after, (fillFromAgent allowUnstable response).run s = .ok true after) ∨
      (fillFromAgent allowUnstable response).run s = .ok false s ∨
      ∃ cause, (fillFromAgent allowUnstable response).run s = .error cause s := by
  rw [run_fillFromAgent]
  cases AgentResponse.samples? allowUnstable response.entries with
  | error cause => exact Or.inr (Or.inr ⟨cause, rfl⟩)
  | ok samples =>
      cases samples with
      | nil => exact Or.inr (Or.inl rfl)
      | cons sample rest => exact Or.inl ⟨_, rfl⟩

end Licenses
end ClusterReport
