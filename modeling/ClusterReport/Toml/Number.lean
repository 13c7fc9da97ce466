/-
**Numbers and times in settings documents.**

A bare word of a document is a truth value, an integer, a binary number, or a date or time of day.
Digits may be grouped by single underscores.  Integers may be written to the bases sixteen, eight
and two, need at most 128 bits, and have no superfluous zeros in front; numbers have digits on
both sides of a point and do not exceed the format.

Main definitions:

* `ClusterReport.Toml.integerOf?`, `ClusterReport.Toml.floatOf?` — numbers;
* `ClusterReport.Toml.isTime` — dates and times;
* `ClusterReport.Toml.wordOf?` — the value that a word stands for.
-/

import ClusterReport.Binary64.Reading
import ClusterReport.Timestamp
import ClusterReport.Toml.Text
import ClusterReport.Toml.Value

set_option relaxedAutoImplicit false
set_option autoImplicit false

namespace ClusterReport.Toml

/-! ### Integers -/

/-- Digits of a base without the single underscores between them. -/
def ungroup? (base : Nat) (s : List Char) : Option (List Char) :=
  let groups := Text.pieces (· = '_') s
  if groups.all fun g => !g.isEmpty && g.all fun c => (digitOf? base c).isSome then
    some groups.flatten
  else none

/-- Decimal digits without a superfluous zero in front. -/
def decimalDigits? (s : List Char) : Option (List Char) :=
  (ungroup? 10 s).filter fun ds => ds.length = 1 || ds.head? ≠ some '0'

/-- Whether an integer needs at most 128 bits, signed or unsigned. -/
def fits128 (n : Int) : Bool := -(Nat.pow 2 127 : Int) ≤ n && n < Nat.pow 2 128

/-- The integer that a word stands for. -/
def integerOf? (s : List Char) : Option Int :=
  let inBase (base : Nat) (s : List Char) : Option Int :=
    ((ungroup? base s).bind (numberOf? base)).map Int.ofNat
  let n := match s with
    | '0' :: 'x' :: s => inBase 16 s
    | '0' :: 'o' :: s => inBase 8 s
    | '0' :: 'b' :: s => inBase 2 s
    | s =>
      let (negative, s) := Integer.splitSign s
      (decimalDigits? s).map fun ds =>
        if negative then -(Integer.digitsValue ds : Int) else Integer.digitsValue ds
  n.filter fits128

/-! ### Numbers -/

/-- The digits of an exponent, with their sign. -/
def exponentDigits? (s : List Char) : Option (List Char) :=
  match s with
  | '+' :: s => (ungroup? 10 s).map ('+' :: ·)
  | '-' :: s => (ungroup? 10 s).map ('-' :: ·)
  | s => ungroup? 10 s

/-- An unsigned number without underscores. -/
def unsignedFloat? (s : List Char) : Option (List Char) := do
  let (mantissa, exponent) := match Text.cut (fun c => c = 'e' || c = 'E') s with
    | some (mantissa, exponent) => (mantissa, some exponent)
    | none => (s, none)
  let (whole, fraction) := match Text.cut (· = '.') mantissa with
    | some (whole, fraction) => (whole, some fraction)
    | none => (mantissa, none)
  let whole ← decimalDigits? whole
  let fraction ← match fraction with
    | some f => (ungroup? 10 f).map ('.' :: ·)
    | none => some []
  let exponent ← match exponent with
    | some e => (exponentDigits? e).map ('e' :: ·)
    | none => some []
  if fraction.isEmpty && exponent.isEmpty then none else some (whole ++ fraction ++ exponent)

/-- The binary number that a word stands for. -/
def floatOf? (s : List Char) : Option Binary64 :=
  let (negative, s) := Integer.splitSign s
  if s = ['i', 'n', 'f'] then some (.infinite negative)
  else if s = ['n', 'a', 'n'] then some (.nan negative)
  else
    ((unsignedFloat? s).bind (Binary64.unsignedOf? negative)).filter Binary64.isFinite

/-! ### Dates and times -/

open Timestamp (isDate takeChar? takeNumber?)

def afterDate? (s : List Char) : Option (List Char) := do
  let (year, s) ← takeNumber? 4 s
  let (_, s) ← takeChar? (· = '-') s
  let (month, s) ← takeNumber? 2 s
  let (_, s) ← takeChar? (· = '-') s
  let (day, s) ← takeNumber? 2 s
  if isDate year month day then some s else none

/-- The rest behind the seconds of a time of day, which may be missing. -/
def afterSeconds? : List Char → Option (List Char)
  | ':' :: s => do
    let (second, s) ← takeNumber? 2 s
    if 60 < second then none
    else match s with
      | '.' :: s => if s.head?.any Char.isDigit then some (s.dropWhile Char.isDigit) else none
      | s => some s
  | s => some s

def afterTime? (s : List Char) : Option (List Char) := do
  let (hour, s) ← takeNumber? 2 s
  let (_, s) ← takeChar? (· = ':') s
  let (minute, s) ← takeNumber? 2 s
  if hour ≤ 23 && minute ≤ 59 then afterSeconds? s else none

def afterOffset? (s : List Char) : Option (List Char) := do
  let (sign, s) ← takeChar? (fun c => c = 'Z' || c = 'z' || c = '+' || c = '-') s
  if sign = 'Z' || sign = 'z' then some s
  else
    let (hours, s) ← takeNumber? 2 s
    let (_, s) ← takeChar? (· = ':') s
    let (minutes, s) ← takeNumber? 2 s
    if hours ≤ 23 && minutes ≤ 59 then some s else none

/-- Whether a word is a date, a time of day, or both with or without an offset. -/
def isTime (s : List Char) : Bool :=
  match afterDate? s with
  | some [] => true
  | some (c :: s) =>
    (c = 'T' || c = 't' || c = ' ') &&
      (afterTime? s).any fun s => s.isEmpty || afterOffset? s = some []
  | none => afterTime? s = some []

/-! ### Words -/

/-- The value that a word stands for. -/
def wordOf? (s : List Char) : Option Value :=
  if s = ['t', 'r', 'u', 'e'] then some (.truth true)
  else if s = ['f', 'a', 'l', 's', 'e'] then some (.truth false)
  else
    match integerOf? s, floatOf? s with
    | some n, _ => some (.integer n)
    | none, some x => some (.float x)
    | none, none => if isTime s then some .time else none

end ClusterReport.Toml
