/-
**What listings show.**

Listings of clusters share a few ways to show a value: byte counts in the largest unit, percentages
with two places, truth values as words, and highlights for figures beyond a limit.

Main definitions:

* `ClusterReport.Listing.byteCount`, `ClusterReport.Listing.percentage`,
  `ClusterReport.Listing.yesNo` — texts of values;
* `ClusterReport.Listing.atLeast`, `ClusterReport.Listing.below` — limits;
* `ClusterReport.Listing.nodeCells` — the entries of a source from what was fetched.
-/

import ClusterReport.ByteSize
import ClusterReport.Fetched.Basic
import ClusterReport.Sheet.Declaration

set_option relaxedAutoImplicit false
set_option autoImplicit false

universe u

namespace ClusterReport.Listing

open Sheet (Shown)

/-- A number of bytes in the largest unit that it fills. -/
def byteCount (s : Shown) : String :=
  match s.value.int? with
  | some n => ByteSize.toText n
  | none => s.value.toText

/-- A percentage with two places. -/
def percentage (s : Shown) : String :=
  match s.value.number? with
  | some x => x.toFixed 2 ++ " %"
  | none => s.value.toText

/-- A truth value as a word. -/
def yesNo (s : Shown) : String :=
  match s.value with
  | .bool b => if b then "YES" else "NO"
  | value => value.toText

/-- Whether a number reaches a limit. -/
def atLeast (limit : Nat) (s : Shown) : Bool :=
  s.value.number?.any fun x => x.ge (.ofNat limit)

/-- Whether a number lies below a limit. -/
def below (limit : Nat) (s : Shown) : Bool :=
  s.value.number?.any fun x => x.lt (.ofNat limit)

def isTrue (s : Shown) : Bool :=
  match s.value with
  | .bool b => b
  | _ => false

/-- The entries of a source: what was fetched from each node, or the cause of its failure. -/
def nodeCells {α : Type u} (write : α → Json) (data : Keyed α) : Dict (Cell Json) :=
  data.map fun _ fetched => (Cell.ofFetched fetched).map write

/-- The entries of a source of which nothing can have failed. -/
def plainCells {α : Type u} (write : α → Json) (data : Dict α) : Dict (Cell Json) :=
  data.map fun _ value => .value (write value)

end ClusterReport.Listing
