/-
**Histograms.**

A node reports the sizes or ages of its objects as a histogram: either counts of buckets of equal
width from zero on, or counts of named ranges that grow with the size.  Histograms of one name are
only shown together when all nodes report them in the same form.

Main definitions:

* `ClusterReport.LinearHistogram`, `ClusterReport.LogHistogram`, `ClusterReport.Histogram`;
* `ClusterReport.NodeHistograms` — histograms by node and namespace;
* `ClusterReport.Histogram.format?` — the form that all histograms share;
* `ClusterReport.HistogramError` — what can be wrong with histograms.
-/

import ClusterReport.Fetched.Basic
import ClusterReport.Text.Quoted

set_option relaxedAutoImplicit false
set_option autoImplicit false

namespace ClusterReport

/-- Counts of buckets of equal width, from zero on. -/
structure LinearHistogram where
  name : String
  width : Int
  counts : List Nat
  units : Option String
deriving DecidableEq

/-- Counts of named ranges, in the order of the report. -/
structure LogHistogram where
  name : String
  units : String
  ranges : List (String × Nat)
deriving DecidableEq

/-- A histogram of either form. -/
inductive Histogram where
  | linear (histogram : LinearHistogram)
  | logarithmic (histogram : LogHistogram)
deriving DecidableEq

/-- Histograms by node and namespace. -/
abbrev NodeHistograms := Keyed (Keyed Histogram)

/-! ### Errors -/

/-- What can be wrong with the text of a histogram. -/
inductive HistogramDefect where
  | widthMissing
  | widthFieldMissing
  | bucketsMissing
  | widthNotNumber (field : String)
  | bucketNotNumber (field : String)
deriving DecidableEq

def HistogramDefect.message : HistogramDefect → String
  | widthMissing => "missing bucket width"
  | widthFieldMissing => "missing bucket-width"
  | bucketsMissing => "missing buckets"
  | widthNotNumber field =>
    "bucket width " ++ String.ofList (Text.quoted field.toList) ++ " is not a number"
  | bucketNotNumber field =>
    "bucket " ++ String.ofList (Text.quoted field.toList) ++ " is not a number"

/-- What can be wrong with histograms: nodes that report different forms, or a malformed text. -/
inductive HistogramError where
  | mixedFormats
  | malformed (defect : HistogramDefect)
deriving DecidableEq

def HistogramError.message : HistogramError → String
  | mixedFormats => "different histogram formats on different nodes"
  | malformed defect => "malformed histogram: " ++ defect.message

namespace Histogram

/-! ### Forms -/

/-- The two forms of histograms. -/
inductive Format where
  | linear
  | logarithmic
deriving DecidableEq

def format : Histogram → Format
  | linear _ => .linear
  | logarithmic _ => .logarithmic

/-- Whether a histogram names its units; one of named ranges always does. -/
def hasUnits : Histogram → Bool
  | linear h => h.units.isSome
  | logarithmic _ => true

def fetched (data : NodeHistograms) : List Histogram :=
  (Keyed.fetched data).values.flatMap fun namespaces => (Keyed.fetched namespaces).values

/-- The form that all fetched histograms share, if there are any.  Old servers name no units, so
histograms with and without units are of different forms too. -/
def format? (data : NodeHistograms) : Except HistogramError (Option Format) :=
  let all := fetched data
  if all.any hasUnits && all.any (fun h => !h.hasUnits) then .error .mixedFormats
  else if all.any (fun h => h.format = .linear) then
    if all.any (fun h => h.format = .logarithmic) then .error .mixedFormats
    else .ok (some .linear)
  else if all.any (fun h => h.format = .logarithmic) then .ok (some .logarithmic)
  else .ok none

/-! ### Documents -/

def toJson : Histogram → Json
  | linear h =>
    .object ([("histogram", .str h.name), ("width", .int h.width),
      ("data", .array (h.counts.map fun n : Nat => .int n))]
      ++ (match h.units with
        | some units => [("units", .str units)]
        | none => []))
  | logarithmic h =>
    .object [("histogram", .str h.name), ("units", .str h.units),
      ("data", .array (h.ranges.map fun r => .array [.str r.1, .int r.2]))]

end Histogram
end ClusterReport
