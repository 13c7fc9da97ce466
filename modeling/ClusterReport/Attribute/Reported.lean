/-
**Reading reported values.**

Servers report nearly everything as text, and captured documents may hold native numbers and truth
values too.  A reported value is read as an integer, a number, a truth value or a text, whichever
form it was reported in.

Main definitions:

* `ClusterReport.Json.toInt?`, `toNumber?`, `toTruth?`, `toText?` — the four readings;
* `ClusterReport.Json.numeric?` — a JSON number as a binary number.

Main results:

* `ClusterReport.Json.fitsInt64_of_toInt?` — every reading is an integer of 64 bits;
* `ClusterReport.Json.toInt?_toText` — an integer reads the same reported as a number and as text.
-/

import ClusterReport.Fetched.Basic
import ClusterReport.Binary64.Reading
import ClusterReport.Json.Text
import ClusterReport.Text.Blank

set_option relaxedAutoImplicit false
set_option autoImplicit false

namespace ClusterReport.Json

/-- A JSON number as the nearest binary number. -/
def numeric? : Json → Option Binary64
  | .int n => some (.ofInt n)
  | .float x => some x
  | _ => none

/-- The integer that a value stands for: numbers lose their fraction and are clamped to 64 bits,
texts hold a decimal integer between optional blanks, truth values count as one and zero. -/
def toInt? : Json → Option Int
  | .int n => some (if Integer.fitsInt64 n then n else (Binary64.ofInt n).toInt64)
  | .float x => some x.toInt64
  | .str s => Integer.int64Of? (Text.trim s.toList)
  | .bool b => some (if b then 1 else 0)
  | _ => none

/-- The binary number that a value stands for. -/
def toNumber? : Json → Option Binary64
  | .str s => Binary64.ofText? (Text.trim s.toList)
  | .bool b => some (.ofInt (if b then 1 else 0))
  | j => j.numeric?

/-- The truth value that a value stands for: the words `true` and `false` in any case, any other
text when it is not empty, and a number when it is not zero. -/
def toTruth? : Json → Option Bool
  | .bool b => some b
  | .str s =>
    match String.ofList (s.toList.map Char.toLower) with
    | "true" => some true
    | "false" => some false
    | _ => some (!s.isEmpty)
  | j => j.numeric?.map fun x => !x.eq (.zero false)

/-- The text that a value stands for. -/
def toText? : Json → Option String
  | .str s => some s
  | .array _ => none
  | .object _ => none
  | .null => none
  | j => some j.leafText

@[simp] theorem toInt?_int (n : Int) (h : Integer.fitsInt64 n = true) :
    toInt? (.int n) = some n := by
  simp [toInt?, h]

/-- What is read as an integer fits 64 bits. -/
theorem fitsInt64_of_toInt? {j : Json} {n : Int} (h : j.toInt? = some n) :
    Integer.fitsInt64 n = true := by
  cases j with
  | null => cases h
  | array _ => cases h
  | object _ => cases h
  | bool b =>
      obtain rfl := Option.some.inj h
      cases b <;> rfl
  | int k =>
      obtain rfl := Option.some.inj h
      split
      case isTrue hfits => exact hfits
      case isFalse => exact Binary64.fitsInt64_toInt64 _
  | float x =>
      obtain rfl := Option.some.inj h
      exact Binary64.fitsInt64_toInt64 x
  | str s =>
      have htext : Integer.int64Of? (Text.trim s.toList) = some n := h
      unfold Integer.int64Of? at htext
      split at htext <;> exact (Option.filter_eq_some_iff.1 htext).2

theorem trim_toText (n : Int) : Text.trim (Integer.toText n) = Integer.toText n := by
  refine Text.trim_of_none fun c hc => ?_
  unfold Integer.toText at hc
  split at hc
  · rcases List.mem_cons.1 hc with rfl | hc
    · rfl
    · exact Text.isBlank_of_mem_toDigits hc
  · exact Text.isBlank_of_mem_toDigits hc

/-- An integer reads the same reported as a number and as text. -/
theorem toInt?_toText (n : Int) (h : Integer.fitsInt64 n = true) :
    toInt? (.str (String.ofList (Integer.toText n))) = toInt? (.int n) := by
  rw [toInt?_int n h, toInt?, String.toList_ofList, trim_toText, Integer.int64Of?_toText n h]

end ClusterReport.Json
