/-
**Feature checks.**

A feature is in use on a node when one of its checks passes.  A check names a source and some
fields of it, and passes when one of the fields compares with a threshold as asked; the threshold's
kind decides how the field is read.  Sources with several entries pass when one entry does.

Main definitions:

* `ClusterReport.Feature.FieldCheck` — a check;
* `ClusterReport.Feature.NodeData` — what the checks see of one node;
* `ClusterReport.Feature.FieldCheck.passes`, `ClusterReport.Feature.inUse`.
-/

import ClusterReport.Attribute.Basic

set_option relaxedAutoImplicit false
set_option autoImplicit false

namespace ClusterReport

namespace Feature

/-- Where a check looks: the node itself, its security settings, its namespaces, or its targets
of replication. -/
inductive Source where
  | service
  | security
  | namespaces
  | targets
deriving DecidableEq

/-- How a field has to compare with the threshold. -/
inductive Comparison where
  | greater
  | less
  | atLeast
  | atMost
  | equal
  | different
deriving DecidableEq

def Comparison.holds (c : Comparison) (order : Ordering) : Bool :=
  match c with
  | greater => order.isGT
  | less => order.isLT
  | atLeast => order.isGE
  | atMost => order.isLE
  | equal => order.isEq
  | different => order.isNe

/-- What a field is compared with. -/
inductive Threshold where
  | int (value : Int)
  | text (value : String)
  | truth (value : Bool)
deriving DecidableEq

/-- The place of a reported value relative to the threshold, if the value reads as its kind. -/
def Threshold.order? (t : Threshold) (reported : Json) : Option Ordering :=
  match t with
  | int n => reported.toInt?.map (compare · n)
  | text s => reported.toText?.map (compare · s)
  | truth b => reported.toTruth?.map (compare · b)

/-- A check of some fields of a source. -/
structure FieldCheck where
  source : Source
  fields : List String
  comparison : Comparison
  threshold : Threshold
deriving DecidableEq

/-- What the checks see of one node. -/
structure NodeData where
  service : Option Stats := none
  security : Option Stats := none
  namespaces : Option NodeStats := none
  targets : Option NodeStats := none

namespace FieldCheck

/-- Whether one of the fields, where it is there and not null, compares as asked. -/
def passesStats (c : FieldCheck) (stats : Stats) : Bool :=
  c.fields.any fun field =>
    match stats.get? field with
    | some reported => (c.threshold.order? reported).any c.comparison.holds
    | none => false

/-- Whether one of the entries that were fetched passes. -/
def passesEntries (c : FieldCheck) (entries : NodeStats) : Bool :=
  entries.fetched.values.any c.passesStats

/-- Whether the check passes on a node. -/
def passes (c : FieldCheck) (node : NodeData) : Bool :=
  match c.source with
  | .service => node.service.any c.passesStats
  | .security => node.security.any c.passesStats
  | .namespaces => node.namespaces.any c.passesEntries
  | .targets => node.targets.any c.passesEntries

end FieldCheck
end Feature

/-- A feature with the checks that give its use away. -/
structure Feature where
  name : String
  checks : List Feature.FieldCheck
deriving DecidableEq

/-- Whether a feature is in use on a node. -/
def Feature.inUse (f : Feature) (node : Feature.NodeData) : Bool :=
  f.checks.any fun check => check.passes node

end ClusterReport
