/-
**The summary as text.**

The summary is shown as numbered entries under two headings, one for the cluster and one for the
namespaces; entries that say nothing are left out.

Main definitions:

* `ClusterReport.Summary.clusterEntries`, `ClusterReport.Summary.namespaceEntries` — what is shown;
* `ClusterReport.Summary.viewText` — the summary as text, with or without color;
* `ClusterReport.Summary.view` — the same as styled lines.
-/

import ClusterReport.ByteSize
import ClusterReport.Summary.Basic
import ClusterReport.Text.Pad
import ClusterReport.Text.Styled

set_option relaxedAutoImplicit false
set_option autoImplicit false

namespace ClusterReport.Summary

open Text (Span Line padEnd padStart)

def lineWidth : Nat := 72

def nameWidth : Nat := 22

/-- An entry: its name and what it says. -/
abbrev Item := String × String

/-! ### Values -/

def storageText (u : StorageUsage) : String :=
  "Total " ++ ByteSize.toText u.total ++ ", " ++ u.usedPercent.toFixed 2 ++ "% used ("
    ++ ByteSize.toText u.used ++ "), " ++ u.availablePercent.toFixed 2 ++ "% available ("
    ++ ByteSize.toText u.available ++ ")"

def licenseText (u : LicenseUsage) : String :=
  let time := match u.latestTime with
    | some t => " on " ++ t.toText
    | none => ""
  let samples := match u.least, u.greatest, u.mean with
    | some least, some greatest, some mean =>
      ", min " ++ ByteSize.toText least ++ ", max " ++ ByteSize.toText greatest ++ ", avg "
        ++ ByteSize.toText mean
    | _, _, _ => ""
  "Latest " ++ ByteSize.toText u.latest ++ time ++ samples

def devicesText (total perNode : Int) (sameAcrossNodes : Bool) : String :=
  "Total " ++ toString total ++ ", per-node " ++ toString perNode
    ++ (if sameAcrossNodes then "" else " (number differs across nodes)")

def joined (values : List String) : String := ", ".intercalate values

/-! ### Entries -/

/-- An entry for storage that may not exist. -/
def storageItem (name : String) (u : Option StorageUsage) : List Item :=
  (u.map fun u => (name, storageText u)).toList

/-- What is shown of the cluster. -/
def clusterEntries (c : ClusterSummary) : List Item :=
  (if c.names.isEmpty then [] else [("Cluster Name", joined c.names)])
    ++ [("Server Version", joined c.serverVersions), ("OS Version", joined c.systems),
      ("Cluster Size", joined (c.sizes.map toString)),
      ("Devices", devicesText c.devices c.devicesPerNode c.sameDevicesAcrossNodes),
      ("Memory", storageText c.memory)]
    ++ storageItem "Device" c.device ++ storageItem "Pmem" c.pmem
    ++ storageItem "Pmem Index" c.pmemIndex ++ storageItem "Flash Index" c.flashIndex
    ++ [("License Usage", licenseText c.license),
      ("Active Namespaces", toString c.activeNamespaces ++ " of " ++ toString c.namespaceCount),
      ("Active Features", joined c.activeFeatures)]
    ++ (if c.migrating then [("Migrations", "in progress")] else [])

/-- What is shown of a namespace. -/
def namespaceEntries (n : NamespaceSummary) : List Item :=
  (if 0 < n.devices then
      [("Devices", devicesText n.devices n.devicesPerNode n.sameDevicesAcrossNodes)]
    else [])
    ++ [("Memory", storageText n.memory)]
    ++ storageItem "Device" n.device ++ storageItem "Pmem" n.pmem
    ++ (match n.indexType with
      | .pmem => storageItem "Pmem Index" n.pmemIndex
      | .flash => storageItem "Flash Index" n.flashIndex
      | .shmem => [])
    ++ [("License Usage", licenseText n.license),
      ("Replication Factor", joined (n.copies.map toString)),
      ("Rack-aware", if n.rackAware then "True" else "False")]
    ++ (n.compressionRatio.map fun ratio => ("Compression Ratio", ratio.toFixed 3)).toList
    ++ (n.cacheReadPercent.map fun share => ("Cache Read%", toString share ++ " %")).toList
    ++ [("Master Objects", toString n.masterObjects)]
    ++ (if n.migrating then [("Migrations", "in progress")] else [])

/-! ### Texts -/

/-- A heading as text, centred between tildes. -/
def headingText (color : Bool) (title : String) : String :=
  let line := Text.surround '~' lineWidth (" " ++ title ++ " ")
  if color then Text.Style.bold.wrap line ++ "\n" else line ++ "\n"

/-- An entry as text, behind an indent and its number.  Its name is filled up before it gets its
style. -/
def entryText (color : Bool) (indent : String) (number : Nat) (entry : Item) : String :=
  let name := padEnd nameWidth entry.1
  if color then
    indent ++ padStart 2 (toString number) ++ ". " ++ Text.Style.bold.wrap name ++ ": " ++ entry.2
      ++ "\n"
  else indent ++ padStart 2 (toString number) ++ ". " ++ name ++ ": " ++ entry.2 ++ "\n"

def entriesText (color : Bool) (indent : String) (entries : List Item) : String :=
  String.join (entries.zipIdx.map fun (entry, i) => entryText color indent (i + 1) entry)

/-- A namespace as text: its name above its entries. -/
def namespaceText (color : Bool) (name : String) (n : NamespaceSummary) : String :=
  (if color then Text.Style.bold.wrap name ++ "\n" else name ++ "\n")
    ++ entriesText color "   " (namespaceEntries n)

/-- The summary as text. -/
def viewText (color : Bool) (s : Summary) : String :=
  headingText color "Cluster" ++ entriesText color " " (clusterEntries s.cluster)
    ++ if s.namespaces.isEmpty then "" else
      "\n" ++ headingText color "Namespaces"
        ++ String.join (s.namespaces.entries.map fun (name, n) => namespaceText color name n)

/-! ### Lines -/

def entryLines (indent : String) (entries : List Item) : List Line :=
  entries.zipIdx.map fun (entry, i) =>
    [.plain (indent ++ padStart 2 (toString (i + 1)) ++ ". "), .bold (padEnd nameWidth entry.1),
      .plain (": " ++ entry.2)]

/-- The summary as styled lines. -/
def view (s : Summary) : List Line :=
  Line.heading lineWidth "Cluster" :: entryLines " " (clusterEntries s.cluster)
    ++ if s.namespaces.isEmpty then [] else
      [[]] ++ Line.heading lineWidth "Namespaces" ::
        s.namespaces.entries.flatMap fun (name, n) =>
          [.bold name] :: entryLines "   " (namespaceEntries n)

end ClusterReport.Summary
