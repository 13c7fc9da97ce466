/-
**Estimating license usage.**

Where the agent has no samples, the latest usage is estimated from the statistics of the
namespaces.  A node's unique data is what it uses of devices and persistent memory, each divided by
its compression, or what it uses of memory when neither is used.  A namespace's is the sum over its
nodes, divided by the number of copies, less what is kept beside each record.

Main definitions:

* `ClusterReport.LicenseError` — why an estimate is not possible;
* `ClusterReport.Licenses.fillFromStats` — the estimated usage of cluster and namespaces;
* `ClusterReport.Licenses.fill` — the usage from the agent if possible, else estimated.
-/

import ClusterReport.Attribute.Catalogue
import ClusterReport.License.Agent
import ClusterReport.ReleaseGate

set_option relaxedAutoImplicit false
set_option autoImplicit false

namespace ClusterReport

/-- Why the usage of a namespace cannot be estimated. -/
inductive LicenseError where
  | copiesUnknown (namespaceName node : String)
  | copiesDiffer (namespaceName : String) (expected found : Int)
  | buildMissing (node : String)
deriving DecidableEq

def LicenseError.message : LicenseError → String
  | copiesUnknown namespaceName node =>
    "unable to determine replication factor for namespace " ++ namespaceName ++ " on " ++ node
  | copiesDiffer namespaceName expected found =>
    "different replication factor found across nodes for namespace " ++ namespaceName ++ " ("
      ++ toString expected ++ " vs " ++ toString found ++ ")"
  | buildMissing node => "could not find host " ++ node ++ " in build responses"

/-! ### Nodes -/

/-- What a node stores of a namespace, with all copies. -/
def storedBytes (stats : Stats) : Binary64 :=
  let zero : Binary64 := .zero false
  let figure (a : Attribute) := (a.number? stats).getD zero
  let ratio (a : Attribute) := (a.number? stats).getD (.ofInt 1)
  let device := figure .deviceUsedBytesCurrent / ratio .deviceCompressionRatio
  let pmem := figure .pmemUsedBytes / ratio .pmemCompressionRatio
  let memory :=
    if device.eq zero && pmem.eq zero then
      figure .memoryUsedIndexBytes + figure .memoryUsedDataBytes
    else zero
  memory + pmem + device

/-- What a node of a release keeps beside the records that it is the master of. -/
def overheadBytes (build : Version) (stats : Stats) : Binary64 :=
  .ofInt (Integer.wrapInt64
    ((Attribute.masterObjects.int? stats).getD 0 * ReleaseGate.recordOverhead build))

/-! ### Namespaces -/

/-- The nodes of a namespace added up: stored bytes, overhead, and the number of copies once it is
known. -/
structure NamespaceEstimate where
  stored : Binary64 := .zero false
  overhead : Binary64 := .zero false
  copies : Option Int := none

namespace NamespaceEstimate

/-- The estimate with one more node, which is passed over when it keeps no copies. -/
def addNode (builds : Dict String) (name : String) (e : NamespaceEstimate) (node : String)
    (stats : Stats) : Except LicenseError NamespaceEstimate :=
  match Attribute.effectiveReplicationFactor.int? stats with
  | none => .error (.copiesUnknown name node)
  | some found =>
    if found = 0 then .ok e
    else
      match e.copies.filter (· ≠ found), builds.get? node with
      | some expected, _ => .error (.copiesDiffer name expected found)
      | none, none => .error (.buildMissing node)
      | none, some build => .ok
          { stored := e.stored + storedBytes stats
            overhead := e.overhead + overheadBytes ⟨build⟩ stats
            copies := some found }

/-- The estimate with some more nodes, in their order. -/
def addNodes (builds : Dict String) (name : String) :
    NamespaceEstimate → List (String × Stats) → Except LicenseError NamespaceEstimate
  | e, [] => .ok e
  | e, (node, stats) :: rest => do
    let e ← addNode builds name e node stats
    addNodes builds name e rest

def unique (e : NamespaceEstimate) : Binary64 :=
  (e.stored / .ofInt (e.copies.getD 1) - e.overhead).roundEven

end NamespaceEstimate

/-- The unique data of one namespace, from the nodes that are usable. -/
def estimateNamespace (builds : Dict String) (name : String) (nodes : NodeStats) :
    Except LicenseError Binary64 :=
  (NamespaceEstimate.addNodes builds name {} (Keyed.usable nodes).entries).map
    NamespaceEstimate.unique

/-- One more namespace estimated, if anything was asked of it. -/
def addEstimate (builds : Dict String) (estimates : List (String × Binary64)) (name : String)
    (nodes : NodeStats) : Summary.Update LicenseError (List (String × Binary64)) :=
  if nodes.isEmpty then pure estimates
  else do
    let estimate ← ofExcept (estimateNamespace builds name nodes)
    pure (estimates ++ [(name, estimate)])

/-- Some more namespaces estimated, in their order. -/
def addEstimates (builds : Dict String) :
    List (String × Binary64) → List (String × NodeStats) →
      Summary.Update LicenseError (List (String × Binary64))
  | estimates, [] => pure estimates
  | estimates, (name, nodes) :: rest => do
    let estimates ← addEstimate builds estimates name nodes
    addEstimates builds estimates rest

/-- Estimates filled in for the namespaces that are listed, and added up. -/
def setEstimates : Binary64 → List (String × Binary64) → Summary.Update LicenseError Binary64
  | total, [] => pure total
  | total, (name, estimate) :: rest => do
    modify (·.setNamespaceLicense name { latest := estimate.toInt64 })
    setEstimates (total + estimate) rest

namespace Licenses

/-- The usage estimated from the statistics of the namespaces, by namespace and node, is filled
in. -/
def fillFromStats (builds : Dict String) (stats : Dict NodeStats) :
    Summary.Update LicenseError Unit := do
  let estimates ← addEstimates builds [] stats.entries
  let total ← setEstimates (.zero false) estimates
  modify (·.setClusterLicense { latest := total.roundEven.toInt64 })

/-- The usage that the document of the agent shows is filled in, if it can be read. -/
def fillFromDocument (allowUnstable : Bool) (document : Json) : Summary.Update AgentError Bool :=
  match AgentResponse.ofJson? document with
  | none => throw .unreadable
  | some response => fillFromAgent allowUnstable response

/-- Whether a document says anything. -/
def isAnswer : Json → Bool
  | .null => false
  | .object fields => !fields.isEmpty
  | _ => true

/-- The usage is filled in from the agent's samples if they can be used, and is otherwise
estimated. -/
def fill (builds : Dict String) (stats : Dict NodeStats) (agent : Option Json)
    (allowUnstable : Bool) : Summary.Update LicenseError Unit :=
  match agent.filter isAnswer with
  | none => fillFromStats builds stats
  | some document => do
    match ← (fillFromDocument allowUnstable document).attempt with
    | .ok true => pure ()
    | .ok false => fillFromStats builds stats
    | .error _ => fillFromStats builds stats

end Licenses
end ClusterReport
