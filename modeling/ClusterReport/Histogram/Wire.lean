/-
**Histogram texts.**

Servers write histograms in three formats.  Old ones write a count, the bucket width and the
buckets, separated by commas and ended by a semicolon.  New ones write fields `key=value` separated
by colons: `units`, `bucket-width` and `buckets` for buckets of equal width, or `units` first and
then one field for every range, its name between `[` and `)`.

Main definitions:

* `ClusterReport.Histogram.parseOld`, `parseLinear`, `parseRanges` — the three formats;
* `ClusterReport.Histogram.parse` — the histogram that a text stands for.
-/

import ClusterReport.Histogram.Basic
import ClusterReport.Integer
import ClusterReport.Text.Pieces

set_option relaxedAutoImplicit false
set_option autoImplicit false

namespace ClusterReport.Histogram

/-! ### Fields -/

def readWidth (field : List Char) : Except HistogramDefect Int :=
  match Integer.int64Of? (Text.trim field) with
  | some n => .ok n
  | none => .error (.widthNotNumber (String.ofList field))

def readBucket (field : List Char) : Except HistogramDefect Nat :=
  match Integer.nat64Of? (Text.trim field) with
  | some n => .ok n
  | none => .error (.bucketNotNumber (String.ofList field))

/-- The counts of buckets, all of which have to read. -/
def readBuckets : List (List Char) → Except HistogramDefect (List Nat)
  | [] => .ok []
  | field :: rest => do
    let count ← readBucket field
    let counts ← readBuckets rest
    pure (count :: counts)

/-- A field's key and value: its first two pieces between equals signs. -/
def keyValue? (field : List Char) : Option (List Char × List Char) :=
  match Text.pieces (· = '=') field with
  | key :: value :: _ => some (key, value)
  | _ => none

/-! ### Formats -/

def beforeSemicolon (field : List Char) : List Char := field.takeWhile (· ≠ ';')

/-- The last of some fields cut off at its first semicolon. -/
def cutLast : List (List Char) → List (List Char)
  | [] => []
  | [field] => [beforeSemicolon field]
  | field :: rest => field :: cutLast rest

/-- The format of old servers. -/
def parseOld (name : String) (raw : List Char) : Except HistogramDefect LinearHistogram :=
  match Text.pieces (· = ',') raw with
  | _ :: width :: buckets => do
    let width ← readWidth width
    let counts ← readBuckets (cutLast buckets)
    pure ⟨name, width, counts, none⟩
  | _ => .error .widthMissing

/-- The value of the last of some fields with the key. -/
def lastValue? (key : String) (fields : List (List Char × List Char)) : Option (List Char) :=
  (fields.reverse.find? fun f => String.ofList f.1 = key).map (·.2)

/-- The format of new servers for buckets of equal width; a text with none of the three fields
stands for no histogram. -/
def parseLinear (name : String) (raw : List Char) :
    Except HistogramDefect (Option LinearHistogram) :=
  let fields := (Text.pieces (· = ':') raw).filterMap keyValue?
  match lastValue? "units" fields, lastValue? "bucket-width" fields,
      lastValue? "buckets" fields with
  | none, none, none => .ok none
  | _, none, _ => .error .widthFieldMissing
  | units, some width, buckets => do
    let width ← readWidth width
    match buckets with
    | none => .error .bucketsMissing
    | some buckets =>
      let counts ← readBuckets (Text.pieces (· = ',') buckets)
      pure (some ⟨name, width, counts, units.map String.ofList⟩)

/-- A range's name without the parenthesis at its end and the bracket at its start. -/
def bareRange (range : List Char) : List Char :=
  let range := if range.getLast? = some ')' then range.dropLast else range
  if range.head? = some '[' then range.tail else range

/-- A range with its count; one whose count is no number is passed over. -/
def readRange? (field : List Char) : Option (String × Nat) := do
  let (range, count) ← keyValue? field
  let count ← Integer.nat64Of? (Text.trim count)
  pure (String.ofList (bareRange range), count)

/-- The format of new servers for named ranges; its first field has to name the units. -/
def parseRanges (name : String) (raw : List Char) : Option LogHistogram :=
  match Text.pieces (· = ':') raw with
  | [] => none
  | first :: rest =>
    match keyValue? first with
    | some (key, units) =>
      if String.ofList key = "units" then
        some ⟨name, String.ofList units, rest.filterMap readRange?⟩
      else none
    | none => none

/-- The histogram that a text stands for; `newFormat` tells the formats of new servers from that
of old ones. -/
def parse (name : String) (raw : List Char) (ranges newFormat : Bool) :
    Except HistogramError (Option Histogram) :=
  if (Text.trim raw).isEmpty then .ok none
  else if !newFormat then
    match parseOld name raw with
    | .ok h => .ok (some (.linear h))
    | .error defect => .error (.malformed defect)
  else if ranges then .ok ((parseRanges name raw).map .logarithmic)
  else
    match parseLinear name raw with
    | .ok h => .ok (h.map .linear)
    | .error defect => .error (.malformed defect)

end ClusterReport.Histogram
