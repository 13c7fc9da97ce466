/-
**The listing of namespaces.**

The namespaces of every node with their storage, object counts and pending migrations, one record
for each namespace of a node, in the order of the namespaces.

Main definitions:

* `ClusterReport.Listing.Namespaces.declaration` — the sheet, of all namespaces or of one;
* `ClusterReport.Listing.Namespaces.sources` — its sources, from the captured statistics.

Main results:

* `ClusterReport.Listing.Namespaces.expanded_declaration` — the statistics are expanded.
-/

import ClusterReport.Attribute.Catalogue
import ClusterReport.Cluster
import ClusterReport.Listing.Basic

set_option relaxedAutoImplicit false
set_option autoImplicit false

namespace ClusterReport.Listing.Namespaces

open Sheet (Column Declaration Field Projector Record Sources)

/-- The source with the statistics and settings of each node's namespaces. -/
def statistics : String := "ns_stats"

def builds : String := "builds"

/-! ### Columns -/

/-- An attribute of a namespace as a number. -/
def figure (a : Attribute) : Projector := .number statistics a.spellings

/-- An attribute of a namespace as a text. -/
def wording (a : Attribute) : Projector := .text statistics a.spellings

def figureColumn (title : String) (p : Projector) : Column :=
  { title, projector := p, align := .right }

def totalColumn (title : String) (p : Projector) : Column :=
  { figureColumn title p with aggregator := some ⟨.sum, none⟩ }

/-- A column of byte counts that are added up. -/
def bytesColumn (title : String) (p : Projector) : Column :=
  { totalColumn title p with convert := byteCount }

def columns : List Column := [
  { title := "Namespace", projector := .boundKey statistics },
  { title := "Node", projector := .rowKey },
  { title := "Build", projector := .entry builds },
  { title := "Storage Engine", projector := wording .storageEngine },
  figureColumn "Repl Factor" (figure .effectiveReplicationFactor),
  totalColumn "Master Objects" (figure .masterObjects),
  bytesColumn "Memory Used" (figure .memoryUsedBytes),
  bytesColumn "Memory Total" (figure .memorySize),
  { figureColumn "Memory Used%" (.percent (figure .memoryUsedBytes) (figure .memorySize)) with
    convert := percentage
    aggregator := some ⟨.greatest, none⟩
    highlights := [⟨.alert, atLeast 90⟩, ⟨.warning, atLeast 70⟩] },
  bytesColumn "Disk Used" (.firstOf [figure .deviceUsedBytes, figure .pmemUsedBytes]),
  bytesColumn "Disk Total" (.firstOf [figure .deviceTotalBytes, figure .pmemTotalBytes]),
  { figureColumn "Disk Avail%" (.firstOf [figure .deviceAvailPercent, figure .pmemAvailPercent])
    with
    aggregator := some ⟨.least, none⟩
    highlights := [⟨.alert, below 10⟩, ⟨.warning, below 20⟩] },
  { totalColumn "Pending Migrates" (figure .outgoingMigrations) with
    highlights := [⟨.warning, atLeast 1⟩] }]

/-! ### The sheet -/

def isOf (name : String) (r : Record) : Bool := r.cell "Namespace" = .value (.text name)

/-- The sheet, of all namespaces or of one. -/
def declaration (only : Option String) : Declaration where
  fields := columns.map .column
  expanded := [statistics]
  keep := only.map isOf
  orderKeys := ["Namespace", "Node"]
  titleKeys := ["Namespace", "Node"]

/-- The statistics are expanded. -/
@[simp] theorem expanded_declaration (only : Option String) :
    (declaration only).expanded = [statistics] := rfl

def title : String := "Namespace Usage Information"

/-- The sources of the sheet. -/
def sources (stats : ClusterStats) (metadata : ClusterMetadata) : Sources :=
  .ofList [(statistics, nodeCells NodeStats.toJson stats.namespaces),
    (builds, plainCells .str metadata.builds)]

end ClusterReport.Listing.Namespaces
