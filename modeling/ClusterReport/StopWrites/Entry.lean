/-
**Stop-writes entries.**

A node stops accepting writes when a metric reaches its threshold.  An entry says what one metric
of a node, a namespace or a set was, what it was compared with, and whether it is a cause of
stopped writes.  A node's entries are kept in the order of namespace, set and metric.

Main definitions:

* `ClusterReport.StopWrites.Threshold` — what a metric is compared with;
* `ClusterReport.StopWrites.isCause` — whether a metric is a cause;
* `ClusterReport.StopWrites.Entry` — one evaluated metric;
* `ClusterReport.StopWrites.Key.compare` — the order of entries;
* `ClusterReport.StopWrites.collect` — entries in their order, one for each key.
-/

import ClusterReport.Attribute.Basic

set_option relaxedAutoImplicit false
set_option autoImplicit false

namespace ClusterReport.StopWrites

/-- What a metric is compared with: a configured integer, or a share of a total. -/
inductive Threshold where
  | whole (value : Int)
  | share (value : Binary64)
deriving DecidableEq

namespace Threshold

def value : Threshold → Binary64
  | whole n => .ofInt n
  | share x => x

/-- Whether the threshold is switched off. -/
def isZero (t : Threshold) : Bool := t.value.eq (.zero false)

/-- The share of a total that a percentage stands for. -/
def ofPercentage (total percentage : Int) : Threshold :=
  .share (.ofInt total * (.ofInt percentage / .ofInt 100))

def toJson : Threshold → Json
  | whole n => .int n
  | share x => .float x

end Threshold

/-- Whether a reported flag says that writes are stopped; the word `true` counts in any case. -/
def saysTrue (flag : String) : Bool := String.ofList (flag.toList.map Char.toLower) == "true"

/-- A metric is a cause when it reaches a threshold other than zero and the server's own flag,
where there is one, agrees. -/
def isCause (usage threshold : Binary64) (flag : Option String) : Bool :=
  !threshold.eq (.zero false) && usage.ge threshold && flag.all saysTrue

/-- One evaluated metric. -/
structure Entry where
  metric : String
  usage : Int
  stopsWrites : Bool
  threshold : Option Threshold
  config : Option String
  namespaceName : Option String
  setName : Option String
deriving DecidableEq

/-- The entry of a metric of a namespace, or of one of its sets. -/
def Entry.evaluate (metric : String) (usage : Int) (threshold : Threshold) (flag : Option String)
    (config : Option String) (namespaceName : String) (setName : Option String) : Entry where
  metric
  usage
  stopsWrites := isCause (.ofInt usage) threshold.value flag
  threshold := if threshold.isZero then none else some threshold
  config
  namespaceName := some namespaceName
  setName

/-! ### Order -/

/-- What tells the entries of a node apart. -/
structure Key where
  namespaceName : Option String
  setName : Option String
  metric : String
deriving DecidableEq

def Entry.key (e : Entry) : Key := ⟨e.namespaceName, e.setName, e.metric⟩

/-- A missing name comes before every name. -/
def compareNames : Option String → Option String → Ordering
  | none, none => .eq
  | none, some _ => .lt
  | some _, none => .gt
  | some a, some b => compare a b

/-- Keys are ordered by namespace, then set, then metric. -/
def Key.compare (a b : Key) : Ordering :=
  (compareNames a.namespaceName b.namespaceName).then
    ((compareNames a.setName b.setName).then (Ord.compare a.metric b.metric))

/-- Entries in order with one more, which takes the place of one with the same key. -/
def insertEntry (e : Entry) : List Entry → List Entry
  | [] => [e]
  | other :: rest =>
    match e.key.compare other.key with
    | .lt => e :: other :: rest
    | .eq => e :: rest
    | .gt => other :: insertEntry e rest

/-- Entries in their order; of several with one key the last one stays. -/
def collect (es : List Entry) : List Entry := es.foldl (fun done e => insertEntry e done) []

def find? (entries : List Entry) (key : Key) : Option Entry := entries.find? fun e => e.key = key

/-! ### Documents -/

/-- The document of an entry; what is missing is left out. -/
def Entry.toJson (e : Entry) : Json :=
  let optional (name : String) (value : Option Json) : List (String × Json) :=
    (value.map fun v => (name, v)).toList
  .object (
    [("metric", .str e.metric), ("metric_usage", .int e.usage),
      ("stop_writes", .bool e.stopsWrites)]
    ++ optional "metric_threshold" (e.threshold.map Threshold.toJson)
    ++ optional "config" (e.config.map .str)
    ++ optional "namespace" (e.namespaceName.map .str)
    ++ optional "set" (e.setName.map .str))

end ClusterReport.StopWrites
