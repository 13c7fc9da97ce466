/-
**Decimal texts of binary numbers.**

Three texts are written: the plain one, which has the shortest digits and never an exponent; the
one with a fixed number of places, rounded from the exact value with a half going to the even
neighbour; and the one of JSON documents, which has the shortest digits and an exponent outside
the range `10 ^ -5` to `10 ^ 15`.

Main definitions:

* `ClusterReport.Binary64.positional`, `ClusterReport.Binary64.scientific` — digits laid out
  without and with an exponent;
* `ClusterReport.Binary64.toText` — the plain text;
* `ClusterReport.Binary64.toFixed` — the text with fixed places;
* `ClusterReport.Binary64.toJsonText?` — the text in JSON documents.
-/

import ClusterReport.Binary64.Shortest

set_option relaxedAutoImplicit false
set_option autoImplicit false

namespace ClusterReport.Binary64

/-! ### Layouts -/

/-- The digits with a decimal point where it belongs, and none after a whole number. -/
def positional (d : Digits) : List Char :=
  if d.exponent < 0 then
    ['0', '.'] ++ List.replicate (-d.exponent - 1).toNat '0' ++ d.digits
  else
    let whole := d.exponent.toNat + 1
    if d.digits.length ≤ whole then
      d.digits ++ List.replicate (whole - d.digits.length) '0'
    else
      d.digits.take whole ++ '.' :: d.digits.drop whole

/-- The digits with a point after the first one, and a signed exponent. -/
def scientific (d : Digits) : List Char :=
  let fraction := d.digits.drop 1
  d.digits.take 1 ++ (if fraction.isEmpty then [] else '.' :: fraction)
    ++ (if d.exponent < 0 then ['e', '-'] else ['e', '+'])
    ++ Nat.toDigits 10 d.exponent.natAbs

/-- A text behind the sign of its number. -/
def signed (negative : Bool) (text : List Char) : String :=
  String.ofList (if negative then '-' :: text else text)

/-! ### Texts -/

/-- The plain text: the shortest digits, never an exponent; ties between decimals go up. -/
def toText : Binary64 → String
  | nonNumber _ _ => "NaN"
  | infinite negative => signed negative ['i', 'n', 'f']
  | finite negative units _ =>
    signed negative (if units = 0 then ['0'] else positional (shortest .up units))

/-- The text with exactly this many places after the point. -/
def toFixed (places : Nat) : Binary64 → String
  | nonNumber _ _ => "NaN"
  | infinite negative => signed negative ['i', 'n', 'f']
  | finite negative units _ =>
    let scaled := divToEven (units * Nat.pow 10 places) unitsPerOne
    let fraction := Nat.toDigits 10 (scaled % Nat.pow 10 places)
    signed negative (Nat.toDigits 10 (scaled / Nat.pow 10 places) ++
      (if places = 0 then [] else
        '.' :: (List.replicate (places - fraction.length) '0' ++ fraction)))

/-- The text in a JSON document: the shortest digits, at least one place after the point, and an
exponent where the first digit is worth less than `10 ^ -5` or at least `10 ^ 16`; there is none
for a number that is not finite. -/
def toJsonText? : Binary64 → Option String
  | finite negative units _ =>
    if units = 0 then some (signed negative ['0', '.', '0'])
    else
      let d := shortest .even units
      if -5 ≤ d.exponent && d.exponent ≤ 15 then
        let text := positional d
        some (signed negative (if text.contains '.' then text else text ++ ['.', '0']))
      else some (signed negative (scientific d))
  | _ => none

end ClusterReport.Binary64
