/-
**Samples of the usage agent.**

The usage agent samples the unique data of a cluster over time.  The samples of level `info` count,
those taken while the cluster was not stable only where that is allowed.  A sample that counts has
to say how much data there was, and when; one bad sample makes the whole answer useless.  Samples
are aggregated in one pass over the entries, and what they show is filled in behind the last one.

Main definitions:

* `ClusterReport.AgentEntry`, `ClusterReport.AgentResponse` — the agent's answer;
* `ClusterReport.AgentError` — what can be wrong with it;
* `ClusterReport.UsageAggregate` — least, greatest, mean and latest of some samples;
* `ClusterReport.UsagePass` — the pass over the entries;
* `ClusterReport.Licenses.fillFromAgent` — the usage that the samples show.
-/

import ClusterReport.Binary64.Basic
import ClusterReport.Json.Record
import ClusterReport.License.Update

set_option relaxedAutoImplicit false
set_option autoImplicit false

namespace ClusterReport

/-- One entry of the agent's answer. -/
structure AgentEntry where
  time : String
  level : String
  uniqueBytes : Option Int
  clusterStable : Option Bool
  namespaces : Dict Int

/-- The agent's answer. -/
structure AgentResponse where
  entries : List AgentEntry

/-- What can be wrong with the agent's answer. -/
inductive AgentError where
  | unreadable
  | stabilityMissing
  | bytesMissing
  | badTime (time : String)
deriving DecidableEq

def AgentError.message : AgentError → String
  | unreadable => "issue parsing agent response"
  | stabilityMissing => "issue parsing agent response: entry without cluster_stable"
  | bytesMissing => "issue parsing agent response: info entry without unique_data_bytes"
  | badTime _ => "bad entry time"

/-! ### Reading -/

/-- The unique data of one namespace in an entry. -/
def AgentEntry.namespaceOf? (j : Json) : Option Int := do
  let fields ← j.record? ["unique_data_bytes", "master_objects"]
  let bytes ← Json.required? "unique_data_bytes" Json.int64? fields
  let _ ← Json.defaulted? "master_objects" none (Json.nullable? Json.int64?) fields
  pure bytes

def AgentEntry.ofJson? (j : Json) : Option AgentEntry := do
  let fields ← j.record? ["time", "level", "unique_data_bytes", "cluster_stable", "namespaces",
    "errors"]
  let time ← Json.required? "time" Json.text? fields
  let level ← Json.required? "level" Json.text? fields
  let uniqueBytes ← Json.defaulted? "unique_data_bytes" none (Json.nullable? Json.int64?) fields
  let clusterStable ← Json.defaulted? "cluster_stable" none (Json.nullable? Json.truth?) fields
  let namespaces ← Json.defaulted? "namespaces" .empty (Json.dict? namespaceOf?) fields
  let _ ← Json.defaulted? "errors" [] (Json.list? Json.text?) fields
  pure ⟨time, level, uniqueBytes, clusterStable, namespaces⟩

def AgentResponse.ofJson? (j : Json) : Option AgentResponse := do
  let fields ← j.record? ["license_usage", "health", "raw_store"]
  let usage ← Json.required? "license_usage" (Json.record? ["count", "entries"]) fields
  let _ ← Json.defaulted? "raw_store" none (Json.nullable? Json.text?) fields
  let _ ← Json.defaulted? "count" 0 Json.nat64? usage
  let entries ← Json.required? "entries" (Json.list? AgentEntry.ofJson?) usage
  pure ⟨entries⟩

/-! ### Aggregation -/

/-- Least, greatest, mean and latest of the samples so far; the greatest starts from zero. -/
structure UsageAggregate where
  least : Option Int := none
  greatest : Int := 0
  mean : Binary64 := .zero false
  count : Nat := 0
  latest : Int := 0
  latestTime : Option Timestamp := none

namespace UsageAggregate

def add (a : UsageAggregate) (value : Int) (time : Timestamp) : UsageAggregate where
  least := some (match a.least with
    | some least => min least value
    | none => value)
  greatest := max a.greatest value
  mean := (a.mean * .ofNat a.count + .ofInt value) / .ofNat (a.count + 1)
  count := a.count + 1
  latest := value
  latestTime := some time

/-- The aggregate with one more sample, if the time of the sample can be read. -/
def addAt (a : UsageAggregate) (value : Int) (time : String) : Except AgentError UsageAggregate :=
  match Timestamp.ofText? time.toList with
  | none => .error (.badTime time)
  | some time => .ok (a.add value time)

def toUsage (a : UsageAggregate) : LicenseUsage where
  latest := a.latest
  latestTime := a.latestTime
  least := a.least
  greatest := some a.greatest
  mean := some a.mean.roundEven.toInt64

end UsageAggregate

def AgentEntry.counts (allowUnstable : Bool) (e : AgentEntry) : Except AgentError Bool :=
  if e.level ≠ "info" then .ok false
  else if allowUnstable then .ok true
  else
    match e.clusterStable with
    | none => .error .stabilityMissing
    | some stable => .ok stable

/-- The samples so far, aggregated for the cluster and for every namespace. -/
structure UsagePass where
  cluster : UsageAggregate := {}
  namespaces : Dict UsageAggregate := .empty

namespace UsagePass

def addNamespace (time : String) (namespaces : Dict UsageAggregate) (entry : String × Int) :
    Except AgentError (Dict UsageAggregate) :=
  (((namespaces.get? entry.1).getD {}).addAt entry.2 time).map (namespaces.insert entry.1)

def addEntry (allowUnstable : Bool) (pass : UsagePass) (e : AgentEntry) :
    Summary.Update AgentError UsagePass := do
  if ← ofExcept (e.counts allowUnstable) then
    match e.uniqueBytes with
    | none => throw .bytesMissing
    | some bytes =>
      let cluster ← ofExcept (pass.cluster.addAt bytes e.time)
      let namespaces ←
        ofExcept (e.namespaces.entries.foldlM (addNamespace e.time) pass.namespaces)
      pure ⟨cluster, namespaces⟩
  else pure pass

/-- The pass over some more entries, in their order. -/
def addEntries (allowUnstable : Bool) :
    UsagePass → List AgentEntry → Summary.Update AgentError UsagePass
  | pass, [] => pure pass
  | pass, e :: rest => do
    let pass ← addEntry allowUnstable pass e
    addEntries allowUnstable pass rest

/-- What the samples show is filled in, for the namespaces that are listed. -/
def commit (pass : UsagePass) : Summary.Update AgentError Unit := do
  modify (·.setClusterLicense pass.cluster.toUsage)
  modify fun s => pass.namespaces.entries.foldl (fun s entry =>
    s.setNamespaceLicense entry.1 entry.2.toUsage) s

end UsagePass

namespace Licenses

/-- The usage that the agent's answer shows is filled in.  Says whether any entry counted; if none
did, nothing is filled in. -/
def fillFromAgent (allowUnstable : Bool) (response : AgentResponse) :
    Summary.Update AgentError Bool := do
  let pass ← UsagePass.addEntries allowUnstable {} response.entries
  if pass.cluster.count = 0 then pure false
  else
    pass.commit
    pure true

end Licenses
end ClusterReport
