/-
**Swapping the two outer keys of fetched data.**

Data by node and namespace becomes data by namespace and node.  A node that failed as a whole has
no part in the result; a failure of a single namespace stays where it is.

Main definitions:

* `ClusterReport.Keyed.flip` — fetched data with its two outer keys swapped.
-/

import ClusterReport.Fetched.Basic

set_option relaxedAutoImplicit false
set_option autoImplicit false

universe u

namespace ClusterReport.Keyed

variable {α : Type u}

/-- One entry added below an inner and an outer key. -/
def addFlipped (outer : String) (flipped : Dict (Keyed α)) (entry : String × Fetched α) :
    Dict (Keyed α) :=
  let row := (flipped.get? entry.1).getD .empty
  flipped.insert entry.1 (row.insert outer entry.2)

/-- The entries of one outer key added, if it was fetched. -/
def addOuter (flipped : Dict (Keyed α)) (entry : String × Fetched (Keyed α)) : Dict (Keyed α) :=
  match entry.2 with
  | .failed _ => flipped
  | .data inner => inner.entries.foldl (addFlipped entry.1) flipped

/-- Fetched data with its two outer keys swapped. -/
def flip (d : Keyed (Keyed α)) : Dict (Keyed α) := d.entries.foldl addOuter .empty

end ClusterReport.Keyed
