/-
**Groups of records.**

Records are grouped by one key after the other, the first key being the outermost: a group is
sorted by the key and cut into runs of equal cells, and every run is a group.  Inside a group the
records are sorted stably by the last order key first, so that the first one is the most
significant and records equal under all of them keep their places.

Main definitions:

* `ClusterReport.Sheet.Group` — records that agree on the group keys;
* `ClusterReport.Sheet.Group.split` — a group cut by one more key;
* `ClusterReport.Sheet.group` — records grouped by some keys;
* `ClusterReport.Sheet.Group.order` — a group sorted by some keys.
-/

import ClusterReport.Sheet.Declaration

set_option relaxedAutoImplicit false
set_option autoImplicit false

namespace ClusterReport.Sheet

/-- Records that agree on some keys, with the cells they have under those keys. -/
structure Group where
  key : List (Cell Scalar) := []
  records : List Record

def Record.compareAt (key : String) (a b : Record) : Ordering :=
  (a.cell key).compare Scalar.compare (b.cell key)

/-- Records sorted by their cells under a key; equal ones keep their order. -/
def sortAt (key : String) (records : List Record) : List Record :=
  records.mergeSort fun a b => (Record.compareAt key a b).isLE

/-- A group sorted by one more key and cut into runs of equal cells. -/
def Group.split (key : String) (g : Group) : List Group :=
  ((sortAt key g.records).splitBy fun a b => Record.compareAt key a b == .eq).filterMap fun run =>
    run.head?.map fun first => { key := g.key ++ [first.cell key], records := run }

/-- Records grouped by some keys. -/
def group (keys : List String) (records : List Record) : List Group :=
  keys.foldl (fun groups key => groups.flatMap (Group.split key)) [{ records }]

/-- A group sorted by some keys, the first of them the most significant. -/
def Group.order (keys : List String) (g : Group) : Group :=
  { g with records := keys.foldr sortAt g.records }

end ClusterReport.Sheet
