/-
**Reading decimal texts as binary numbers.**

A decimal text is an optional sign, digits with an optional point, and an optional exponent; the
words for infinity and not-a-number are read in any case.  The value is rounded once, to the
nearest number of the format.

Main definitions:

* `ClusterReport.Binary64.ofDecimal` — the number nearest to `digits * 10 ^ exponent`;
* `ClusterReport.Binary64.ofText?` — the number that a text stands for.
-/

import ClusterReport.Binary64.Basic

set_option relaxedAutoImplicit false
set_option autoImplicit false

namespace ClusterReport.Binary64

/-- The number nearest to `digits * 10 ^ exponent`.  Magnitudes from `10 ^ 310` on are beyond the
format and those below `10 ^ -330` round to zero, so their powers are never formed. -/
def ofDecimal (negative : Bool) (digits : Nat) (exponent : Int) : Binary64 :=
  let leading := ((Nat.toDigits 10 digits).length : Int) + exponent
  if digits = 0 || leading < -330 then zero negative
  else if 310 < leading then infinite negative
  else ofRatio negative (digits * Nat.pow 10 exponent.toNat * unitsPerOne)
    (Nat.pow 10 (-exponent).toNat)

/-- An exponent text: an optional sign and at least one digit, and nothing else. -/
def exponentOf? (s : List Char) : Option Int :=
  let (negative, ds) := Integer.splitSign s
  (Integer.natOf? ds).map (withSign negative)

/-- An unsigned decimal text: digits, an optional point among or beside them, and an optional
exponent. -/
def unsignedOf? (negative : Bool) (s : List Char) : Option Binary64 :=
  let whole := s.takeWhile Char.isDigit
  let rest := s.dropWhile Char.isDigit
  let (fraction, rest) := match rest with
    | '.' :: r => (r.takeWhile Char.isDigit, r.dropWhile Char.isDigit)
    | r => ([], r)
  if whole.isEmpty && fraction.isEmpty then none
  else
    let digits := Integer.digitsValue (whole ++ fraction)
    let places : Int := fraction.length
    match rest with
    | [] => some (ofDecimal negative digits (-places))
    | c :: r =>
      if c = 'e' || c = 'E' then
        (exponentOf? r).map fun e => ofDecimal negative digits (e - places)
      else none

/-- The number that a text stands for, if it is a decimal text or one of the words for infinity
and not-a-number. -/
def ofText? (s : List Char) : Option Binary64 :=
  let (negative, magnitude) := Integer.splitSign s
  match String.ofList (magnitude.map Char.toLower) with
  | "nan" => some (nan negative)
  | "inf" => some (infinite negative)
  | "infinity" => some (infinite negative)
  | _ => unsignedOf? negative magnitude

end ClusterReport.Binary64
