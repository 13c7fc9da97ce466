/-
**The listing of features.**

Every known feature, with the nodes that use it.

Main definitions:

* `ClusterReport.Listing.Features.declaration` — the sheet;
* `ClusterReport.Listing.Features.sources` — its source, from the captured statistics.
-/

import ClusterReport.Feature.Usage
import ClusterReport.Listing.Basic

set_option relaxedAutoImplicit false
set_option autoImplicit false

namespace ClusterReport.Listing.Features

open Feature (registry usageByNode Usage)
open Sheet (Column Declaration Sources)

def usage : String := "features"

def featureColumn (name : String) : Column :=
  { title := name, projector := .truth usage [name], convert := yesNo
    highlights := [⟨.strong, isTrue⟩] }

def columns : List Column :=
  { title := "Node", projector := .rowKey } :: registry.map fun f => featureColumn f.name

/-- The sheet. -/
def declaration : Declaration where
  fields := columns.map .column
  titleKeys := ["Node"]

def title : String := "Features"

def usageJson (row : List Usage) : Json :=
  .ofDict (.ofList (row.map fun u => (u.feature, .bool u.inUse)))

/-- The sources of the sheet. -/
def sources (stats : ClusterStats) : Sources :=
  .ofList [(usage, plainCells usageJson (usageByNode stats))]

end ClusterReport.Listing.Features
