/-
**Byte sizes.**

Sizes are shown in the greatest binary unit that they reach, cut off to a whole number of it.  The
labels of histogram ranges are written more tightly, as a number and a letter, and are read back.

Main definitions:

* `ClusterReport.ByteSize.toText` — a size in its greatest unit;
* `ClusterReport.ByteSize.ofLabel?` — the size that a label stands for.

Main results:

* `ClusterReport.ByteSize.ofLabel?_le` — it fits 64 bits.
-/

import ClusterReport.Integer
import ClusterReport.Text.Blank

set_option relaxedAutoImplicit false
set_option autoImplicit false

namespace ClusterReport.ByteSize

/-- The number of bytes in a binary unit: each is 1024 of the one below it. -/
def bytesPer (unit : Nat) : Nat := Nat.pow 1024 unit

theorem bytesPer_pos (unit : Nat) : 0 < bytesPer unit := Nat.pow_pos (by decide)

@[simp] theorem bytesPer_zero : bytesPer 0 = 1 := rfl

theorem bytesPer_succ (unit : Nat) : bytesPer (unit + 1) = bytesPer unit * 1024 := rfl

def units : List (Int × String) :=
  [(bytesPer 5, " PB"), (bytesPer 4, " TB"), (bytesPer 3, " GB"), (bytesPer 2, " MB"),
    (bytesPer 1, " KB"), (bytesPer 0, " B")]

/-- A size in the greatest unit that it reaches, and in bytes if it reaches none. -/
def toText (bytes : Int) : String :=
  let (factor, suffix) := (units.find? fun unit => unit.1 ≤ bytes).getD (1, " B")
  toString (bytes.tdiv factor) ++ suffix

def letterFactor? : Char → Option Nat
  | 'K' => some (bytesPer 1)
  | 'M' => some (bytesPer 2)
  | 'G' => some (bytesPer 3)
  | 'T' => some (bytesPer 4)
  | 'P' => some (bytesPer 5)
  | 'E' => some (bytesPer 6)
  | _ => none

/-- The size that a label stands for: a whole number with an optional unit letter, if it fits 64
bits. -/
def ofLabel? (label : List Char) : Option Nat :=
  let label := Text.trim label
  match label.getLast?.bind letterFactor? with
  | some factor =>
    ((Integer.nat64Of? label.dropLast).map (· * factor)).filter (· ≤ Integer.nat64Max)
  | none => Integer.nat64Of? label

/-- The size that a label stands for fits 64 bits. -/
theorem ofLabel?_le {label : List Char} {n : Nat} (h : ofLabel? label = some n) :
    n ≤ Integer.nat64Max := by
  unfold ofLabel? at h
  dsimp only at h
  split at h
  · exact of_decide_eq_true (Option.filter_eq_some_iff.1 h).2
  · exact Integer.nat64Of?_le h

end ClusterReport.ByteSize
