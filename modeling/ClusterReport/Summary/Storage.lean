/-
**Storage usage.**

How much there is of a kind of storage, how much of it is used and how much is available, in bytes
and as percentages.  Where only the use is reported, the rest is available; where nodes report what
is available themselves, space set aside makes the two less than the total.

Main definitions:

* `ClusterReport.StorageUsage` — the figures;
* `ClusterReport.StorageUsage.ofUsed`, `ClusterReport.StorageUsage.ofReported`;
* `ClusterReport.NodewiseStorage` — the figures of each node, before they are added up.
-/

import ClusterReport.Attribute.Basic

set_option relaxedAutoImplicit false
set_option autoImplicit false

namespace ClusterReport

/-- Total, used and available storage; the shares are percentages. -/
structure StorageUsage where
  total : Int := 0
  used : Int := 0
  usedPercent : Binary64 := .zero false
  available : Int := 0
  availablePercent : Binary64 := .zero false
deriving DecidableEq

namespace StorageUsage

/-- The share of a total in percent; of nothing every share is zero. -/
def percent (part : Binary64) (total : Int) : Binary64 :=
  if total = 0 then .zero false else part / .ofInt total * .ofInt 100

/-- The usage when everything that is not used is available. -/
def ofUsed (total used : Int) : StorageUsage :=
  let availablePercent := percent (.ofInt (total - used)) total
  { total, used, available := total - used, availablePercent
    usedPercent := .ofInt 100 - availablePercent }

/-- The usage when the nodes report what is available. -/
def ofReported (total used : Int) (available : Binary64) : StorageUsage where
  total
  used
  usedPercent := percent (.ofInt used) total
  available := available.roundEven.toInt64
  availablePercent := percent available total

@[simp] theorem used_ofUsed (total used : Int) : (ofUsed total used).used = used := rfl

def toJson (u : StorageUsage) : Json :=
  .object [("total", .int u.total), ("used", .int u.used), ("used_pct", .float u.usedPercent),
    ("avail", .int u.available), ("avail_pct", .float u.availablePercent)]

end StorageUsage

/-- Figures by node of one kind of storage. -/
structure NodewiseStorage where
  size : Dict Int := .empty
  used : Dict Int := .empty
  available : Dict Binary64 := .empty
deriving DecidableEq

namespace NodewiseStorage

/-- The figures of the usable nodes; what is available is reported in percent. -/
def ofNodes (nodes : NodeStats) (total used availablePercent : Attribute) : NodewiseStorage :=
  let size := Attribute.collect total.int? nodes 0
  { size
    used := Attribute.collect used.int? nodes 0
    available := shareOfTotals size (Attribute.collect availablePercent.int? nodes 0) }

/-- The figures of two namespaces, node by node. -/
def add (a b : NodewiseStorage) : NodewiseStorage where
  size := addCounts a.size b.size
  used := addCounts a.used b.used
  available := a.available.mergeWith (· + ·) b.available

/-- The usage over all nodes, unless there is no such storage. -/
def usage? (s : NodewiseStorage) : Option StorageUsage :=
  let total := Integer.sum s.size.values
  if total ≤ 0 then none
  else some (.ofReported total (Integer.sum s.used.values) (Binary64.sum s.available.values))

end NodewiseStorage
end ClusterReport
