/-
**Deciles.**

The deciles of a histogram are the buckets at which the cumulated count reaches one tenth, two
tenths and so on of the total.  The tenths are added up in binary floating point, and so are the
cumulated counts that they are compared with.  A bucket is noted once for every tenth that it
reaches, and the walk over the buckets stops once the tenths are beyond one.

Main definitions:

* `ClusterReport.Histogram.passShares`, `ClusterReport.Histogram.walk` — the loop over the tenths
  that one bucket reaches, and the walk over the buckets;
* `ClusterReport.Histogram.deciles?`, `ClusterReport.Histogram.deciles` — the buckets, counted from
  one, that reach the tenths;
* `ClusterReport.Histogram.percentilesByNamespace` — the sizes at the ends of those buckets.
-/

import ClusterReport.Binary64.Extent
import ClusterReport.Fetched.Flip
import ClusterReport.Histogram.Basic

set_option relaxedAutoImplicit false
set_option autoImplicit false

namespace ClusterReport.Histogram

def tenth : Binary64 := .ofInt 1 / .ofInt 10

/-- The loop that passes the shares which a portion has reached, with the bucket noted once for each
share; the next share is a tenth greater.  A share that a tenth does not make greater is reached
again and again: the loop does not end, and nothing is returned. -/
def passShares (portion : Binary64) (bucket : Nat) (share : Binary64) (found : List Nat) :
    Option (Binary64 × List Nat) :=
  if portion.ge share then
    if share.lt (share + tenth) then passShares portion bucket (share + tenth) (found ++ [bucket])
    else none
  else some (share, found)
termination_by (Binary64.unitsLimit - share.extent).toNat
decreasing_by
  have hlt := Binary64.extent_lt_of_lt ‹share.lt (share + tenth) = true›
  have hle := Binary64.extent_le (share + tenth)
  omega

/-- The portion of the total that has been counted; nothing of an empty total. -/
def portionOf (total : Nat) (cumulated : Binary64) : Binary64 :=
  if 0 < total then cumulated / .ofNat total else .zero false

/-- The walk over the buckets, until the share that comes next is beyond all.  `index` counts the
buckets before, `cumulated` their objects, and `found` holds what has been noted. -/
def walk (total index : Nat) (cumulated share : Binary64) (found : List Nat) :
    List Nat → Option (List Nat)
  | [] => some found
  | count :: rest =>
    let cumulated := cumulated + .ofNat count
    match passShares (portionOf total cumulated) (index + 1) share found with
    | none => none
    | some (share, found) =>
      if (Binary64.ofInt 1).lt share then some found
      else walk total (index + 1) cumulated share found rest

/-- The number of objects in all buckets; it wraps around. -/
def total (counts : List Nat) : Nat := Integer.wrapNat64 (Integer.natSum counts)

/-- The buckets, counted from one, at which the cumulated count first reaches each tenth of the
total; ten zeros when none is reached. -/
def deciles? (counts : List Nat) : Option (List Nat) :=
  (walk (total counts) 0 (.zero false) tenth [] counts).map fun found =>
    if found.isEmpty then List.replicate 10 0 else found

/-- The deciles of a histogram. -/
def deciles (counts : List Nat) : List Nat := (deciles? counts).getD []

/-- A linear histogram with the sizes at its deciles. -/
structure Percentiles where
  histogram : LinearHistogram
  percentiles : List Int
deriving DecidableEq

/-- The size at the end of a bucket.  The buckets of object sizes count up to their end, so the
last size in them is one less. -/
def bucketEnd (name : String) (width : Int) (bucket : Nat) : Int :=
  Integer.wrapInt64 (if name = "objsz" ∧ 0 < bucket then bucket * width - 1 else bucket * width)

/-- The percentiles of one histogram; named ranges have none. -/
def percentiles? (name : String) : Fetched Histogram → Option Percentiles
  | .data (.linear h) => some ⟨h, (deciles h.counts).map (bucketEnd name h.width)⟩
  | _ => none

/-- The percentiles by namespace and node. -/
def percentilesByNamespace (name : String) (data : NodeHistograms) : Dict (Dict Percentiles) :=
  (Keyed.flip data).map fun _ nodes => nodes.filterMap fun _ h => percentiles? name h

def Percentiles.toJson (p : Percentiles) : Json :=
  .object [("histogram", .str p.histogram.name), ("width", .int p.histogram.width),
    ("data", .array (p.histogram.counts.map fun n : Nat => .int n)),
    ("percentiles", .array (p.percentiles.map .int))]

end ClusterReport.Histogram
