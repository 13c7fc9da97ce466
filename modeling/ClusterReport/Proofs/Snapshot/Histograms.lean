/-
**Every histogram of a snapshot is read on its own.**

The texts of the histograms of one name are read node by node and namespace by namespace, in the
format that the build of the node decides on.  A node that failed stays failed, and so does a single
namespace; a malformed text becomes a failure that says what is wrong with it, and a text that
stands for no histogram leaves nothing.  What is read for one node and namespace depends on nothing
else: neither another text, however malformed, nor the build of another node is seen there.

Main definitions:

* `ClusterReport.Keyed.ChangedAt` — that data differs under one node and one namespace at most;
* `ClusterReport.Snapshot.ReadAs` — what becomes of what was captured for one namespace;
* `ClusterReport.Snapshot.ReadsEach` — that histograms are read from texts one by one;
* `ClusterReport.Snapshot.ReadsApart` — that they are, whatever happens to the others.

Main results:

* `ClusterReport.Snapshot.readsEach_readTexts` — the texts are read one by one;
* `ClusterReport.Snapshot.changedAt_readTexts`, `get?_readTexts_congr` — what a change of a text,
  and of a build, leaves alone;
* `ClusterReport.Snapshot.readsApart_histograms?` — **the histograms of a name are read apart from
  each other**.
-/

import ClusterReport.Proofs.Dict.Lookup
import ClusterReport.Snapshot

set_option relaxedAutoImplicit false
set_option autoImplicit false

universe u

namespace ClusterReport

/-- Data by node and namespace before and after a change of what stands under one node and one
namespace.  The node was fetched before and after; anything may have come, gone or failed there. -/
structure Keyed.ChangedAt {α : Type u} (node namespaceName : String)
    (before after : Keyed (Keyed α)) : Prop where
  others_eq : ∀ other, other ≠ node → after.get? other = before.get? other
  exists_rows : ∃ old new, before.get? node = some (.data old) ∧
    after.get? node = some (.data new) ∧
      ∀ other, other ≠ namespaceName → new.get? other = old.get? other

namespace Snapshot

variable {name : String} {ranges newFormat : Bool} {builds : Dict String} {texts : NodeTexts}

/-! ### One text -/

/-- What becomes of what was captured for one namespace, in the format of old or of new servers. -/
inductive ReadAs (name : String) (ranges newFormat : Bool) :
    Option (Fetched String) → Option (Fetched Histogram) → Prop
  | missing : ReadAs name ranges newFormat none none
  | failed (cause : String) :
      ReadAs name ranges newFormat (some (.failed cause)) (some (.failed cause))
  | malformed {text : String} {error : HistogramError}
      (h : Histogram.parse name text.toList ranges newFormat = .error error) :
      ReadAs name ranges newFormat (some (.data text)) (some (.failed error.message))
  | nothing {text : String} (h : Histogram.parse name text.toList ranges newFormat = .ok none) :
      ReadAs name ranges newFormat (some (.data text)) none
  | histogram {text : String} {histogram : Histogram}
      (h : Histogram.parse name text.toList ranges newFormat = .ok (some histogram)) :
      ReadAs name ranges newFormat (some (.data text)) (some (.data histogram))

/-- One text is read as it should be. -/
theorem readAs_readText (captured : Option (Fetched String)) :
    ReadAs name ranges newFormat captured (captured.bind (readText name ranges newFormat)) := by
  obtain _ | cause | text := captured
  case none => exact .missing
  case some.failed => exact .failed cause
  case some.data =>
    rw [Option.bind_some, readText]
    cases h : Histogram.parse name text.toList ranges newFormat with
    | error error => exact .malformed h
    | ok found =>
        cases found with
        | none => exact .nothing h
        | some histogram => exact .histogram h

/-! ### All texts of a name -/

def readTexts (name : String) (ranges : Bool) (builds : Dict String) (texts : NodeTexts) :
    NodeHistograms :=
  texts.map fun node entry => readNode name ranges (builds.get? node) entry

theorem histograms?_eq {s : Snapshot} (h : s.histogramTexts.get? name = some texts)
    (ranges : Bool) :
    s.histograms? name ranges = some (readTexts name ranges s.metadata.builds texts) := by
  rw [histograms?, h]
  rfl

theorem get?_readTexts (node : String) :
    (readTexts name ranges builds texts).get? node =
      (texts.get? node).map (readNode name ranges (builds.get? node)) := by
  rw [readTexts, Dict.get?_map]

theorem get?_readTexts_of_data {node : String} {row : Keyed String}
    (h : texts.get? node = some (.data row)) :
    (readTexts name ranges builds texts).get? node = some (.data (row.filterMap fun _ =>
      readText name ranges (ReleaseGate.hasNewHistograms (builds.get? node)))) := by
  rw [get?_readTexts, h]
  rfl

/-- What it is for histograms to be read from texts one by one: of the same nodes the same ones
failed, for the same causes, and of every node that was fetched each namespace is read by itself, in
the format that the build of the node decides on. -/
structure ReadsEach (name : String) (ranges : Bool) (builds : Dict String) (texts : NodeTexts)
    (histograms : NodeHistograms) : Prop where
  keys_eq : histograms.keys = texts.keys
  failed_iff : ∀ node cause, histograms.get? node = some (.failed cause) ↔
    texts.get? node = some (.failed cause)
  readAs : ∀ node row, texts.get? node = some (.data row) →
    ∃ read, histograms.get? node = some (.data read) ∧
      ∀ namespaceName, ReadAs name ranges (ReleaseGate.hasNewHistograms (builds.get? node))
        (row.get? namespaceName) (read.get? namespaceName)

/-- **The texts are read one by one.** -/
theorem readsEach_readTexts :
    ReadsEach name ranges builds texts (readTexts name ranges builds texts) := by
  constructor
  case keys_eq => exact Dict.keys_map _ _
  case failed_iff =>
    intro node cause
    rw [get?_readTexts]
    obtain _ | cause' | row := texts.get? node
    case none => simp
    case some.failed => simp
    case some.data => simp [readNode]
  case readAs =>
    intro node row hrow
    refine ⟨_, get?_readTexts_of_data hrow, fun namespaceName => ?_⟩
    rw [Dict.get?_filterMap]
    exact readAs_readText _

/-! ### Changes -/

/-- A change under one node and one namespace is a change there, and nowhere else. -/
theorem changedAt_readTexts {node namespaceName : String} {texts' : NodeTexts}
    (h : Keyed.ChangedAt node namespaceName texts texts') :
    Keyed.ChangedAt node namespaceName (readTexts name ranges builds texts)
      (readTexts name ranges builds texts') := by
  obtain ⟨old, new, hold, hnew, hothers⟩ := h.exists_rows
  refine ⟨fun other hother => ?_, _, _, get?_readTexts_of_data hold, get?_readTexts_of_data hnew,
    fun other hother => ?_⟩
  · rw [get?_readTexts, get?_readTexts, h.others_eq other hother]
  · rw [Dict.get?_filterMap, Dict.get?_filterMap, hothers other hother]

/-- The histograms of a node depend on no other build. -/
theorem get?_readTexts_congr {node : String} {builds' : Dict String}
    (h : builds'.get? node = builds.get? node) :
    (readTexts name ranges builds' texts).get? node =
      (readTexts name ranges builds texts).get? node := by
  rw [get?_readTexts, get?_readTexts, h]

/-- What it is for the histograms of a name to be read apart from each other.  They are read one by
one from the texts of the name.  If the snapshot had held something else for one node and one
namespace, the histograms would differ there and nowhere else; and if the build of one node had been
another one, they would differ for this node only. -/
structure ReadsApart (s : Snapshot) (name : String) (ranges : Bool) (texts : NodeTexts)
    (histograms : NodeHistograms) : Prop where
  readsEach : ReadsEach name ranges s.metadata.builds texts histograms
  changedAt : ∀ node namespaceName (s' : Snapshot) texts',
    s'.metadata.builds = s.metadata.builds → s'.histogramTexts.get? name = some texts' →
      Keyed.ChangedAt node namespaceName texts texts' →
        ∃ histograms', s'.histograms? name ranges = some histograms' ∧
          Keyed.ChangedAt node namespaceName histograms histograms'
  get?_eq : ∀ node (s' : Snapshot),
    (∀ other, other ≠ node → s'.metadata.builds.get? other = s.metadata.builds.get? other) →
      s'.histogramTexts.get? name = some texts →
        ∃ histograms', s'.histograms? name ranges = some histograms' ∧
          ∀ other, other ≠ node → histograms'.get? other = histograms.get? other

/-- **The histograms of a name are read apart from each other**, whatever their texts hold. -/
theorem readsApart_histograms? {s : Snapshot} (h : s.histogramTexts.get? name = some texts)
    (ranges : Bool) :
    ∃ histograms, s.histograms? name ranges = some histograms ∧
      ReadsApart s name ranges texts histograms := by
  refine ⟨_, histograms?_eq h ranges, ?_⟩
  constructor
  case readsEach => exact readsEach_readTexts
  case changedAt =>
    intro node namespaceName s' texts' hbuilds htexts hchanged
    refine ⟨_, histograms?_eq htexts ranges, ?_⟩
    rw [hbuilds]
    exact changedAt_readTexts hchanged
  case get?_eq =>
    intro node s' hbuilds htexts
    exact ⟨_, histograms?_eq htexts ranges,
      fun other hother => get?_readTexts_congr (hbuilds other hother)⟩

/-- Texts of an old node, one of them malformed and one blank, and of a node that failed. -/
def partlyMalformedTexts : NodeTexts :=
  .ofList [("old", .data (.ofList [("bar", .data "3,1,2,x,1;"), ("idle", .data " "),
    ("lost", .failed "no such namespace"), ("test", .data "3,1,2,0,1;")])),
    ("down", .failed "timeout")]

def partlyMalformed : Snapshot where
  metadata := { builds := .ofList [("old", "4.1.0.1")] }
  histogramTexts := .ofList [("objsz", partlyMalformedTexts)]

/-- A malformed text among others is read apart from them. -/
theorem readsApart_histograms?_partlyMalformed :
    ∃ histograms, partlyMalformed.histograms? "objsz" false = some histograms ∧
      ReadsApart partlyMalformed "objsz" false partlyMalformedTexts histograms :=
  readsApart_histograms? rfl false

end Snapshot
end ClusterReport
