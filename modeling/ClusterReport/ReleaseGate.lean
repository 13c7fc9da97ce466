/-
**Constants that depend on the release.**

Some figures and formats changed with a server release.  A table lists the ranges of versions that
differ from the default value, and the first range that holds the version decides.

Main definitions:

* `ClusterReport.ReleaseGate.recordOverhead` — the bytes kept for every record beside its data;
* `ClusterReport.ReleaseGate.blockSize` — the unit of size histograms;
* `ClusterReport.ReleaseGate.hasNewHistograms`, `hasNewLatencies` — which formats a release writes.
-/

import ClusterReport.Version

set_option relaxedAutoImplicit false
set_option autoImplicit false

namespace ClusterReport.ReleaseGate

def lookup (table : List (VersionRange × Int)) (default : Int) (build : Version) : Int :=
  match table.find? fun row => row.1.contains build with
  | some row => row.2
  | none => default

/-- The bytes kept for every record beside its data. -/
def recordOverhead : Version → Int := lookup [(⟨some ⟨"7.0.0"⟩, none⟩, 39)] 35

/-- The bytes in one unit of a size histogram on most releases. -/
def defaultBlockSize : Int := 128

/-- The bytes in one unit of a size histogram. -/
def blockSize : Version → Int :=
  lookup [(⟨none, some ⟨"2.7.0"⟩⟩, 512), (⟨some ⟨"3.0.0"⟩, some ⟨"3.1.3"⟩⟩, 512)]
    defaultBlockSize

/-- Whether a release is known and not before the given one. -/
def reaches (first : Version) : Option String → Bool
  | none => false
  | some build => build != "" && Version.atLeast ⟨build⟩ first

/-- Whether a release writes histograms in the new format. -/
def hasNewHistograms : Option String → Bool := reaches ⟨"4.2.0"⟩

/-- Whether a release writes latencies in the new format. -/
def hasNewLatencies : Option String → Bool := reaches ⟨"5.1.0"⟩

end ClusterReport.ReleaseGate
