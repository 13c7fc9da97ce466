/-
**Points in time.**

The usage agent writes points in time as RFC 3339 does: a date, a time of day that may have a
fraction and may be a leap second, and an offset from universal time.  They are shown again in the
offset in which they were written.

Main definitions:

* `ClusterReport.Timestamp` — a date, a time of day and an offset;
* `ClusterReport.Timestamp.ofText?` — the point in time that a text stands for;
* `ClusterReport.Timestamp.toText` — its text, with a letter or digits for a zero offset.
-/

import ClusterReport.Integer

set_option relaxedAutoImplicit false
set_option autoImplicit false

namespace ClusterReport

/-- A point in time as it was written; the offset is in minutes, east of universal time. -/
structure Timestamp where
  year : Nat
  month : Nat
  day : Nat
  hour : Nat
  minute : Nat
  second : Nat
  nanosecond : Nat
  offset : Int
deriving DecidableEq

namespace Timestamp

/-! ### Calendar -/

def isLeapYear (year : Nat) : Bool := (year % 4 == 0 && year % 100 != 0) || year % 400 == 0

def daysInMonth (year month : Nat) : Nat :=
  if month = 2 then (if isLeapYear year then 29 else 28)
  else if month = 4 ∨ month = 6 ∨ month = 9 ∨ month = 11 then 30
  else 31

def isDate (year month day : Nat) : Bool :=
  1 ≤ month && month ≤ 12 && 1 ≤ day && day ≤ daysInMonth year month

/-! ### Reading -/

/-- A number of exactly this many digits, and the rest. -/
def takeNumber? (digits : Nat) (s : List Char) : Option (Nat × List Char) :=
  if (s.take digits).length = digits then
    (Integer.natOf? (s.take digits)).map fun n => (n, s.drop digits)
  else none

/-- One character of a class, and the rest. -/
def takeChar? (isWanted : Char → Bool) : List Char → Option (Char × List Char)
  | c :: rest => if isWanted c then some (c, rest) else none
  | [] => none

/-- An optional fraction of a second in nanoseconds, and the rest; digits past the ninth do not
count. -/
def takeFraction? : List Char → Option (Nat × List Char)
  | '.' :: s =>
    let digits := s.takeWhile Char.isDigit
    let kept := (digits ++ List.replicate 8 '0').take 9
    (Integer.natOf? kept).bind fun n =>
      if digits.isEmpty then none else some (n, s.dropWhile Char.isDigit)
  | s => some (0, s)

/-- An offset from universal time in minutes, which has to end the text. -/
def offsetOf? (s : List Char) : Option Int :=
  if s = ['Z'] || s = ['z'] then some 0
  else do
    let (sign, s) ← takeChar? (fun c => c = '+' || c = '-' || c = '\u2212') s
    let (hours, s) ← takeNumber? 2 s
    let (_, s) ← takeChar? (· = ':') s
    let (minutes, s) ← takeNumber? 2 s
    if s.isEmpty && hours ≤ 23 && minutes ≤ 59 then
      let total : Int := hours * 60 + minutes
      pure (if sign = '+' then total else -total)
    else none

/-- The point in time that a text stands for. -/
def ofText? (s : List Char) : Option Timestamp := do
  let (year, s) ← takeNumber? 4 s
  let (_, s) ← takeChar? (· = '-') s
  let (month, s) ← takeNumber? 2 s
  let (_, s) ← takeChar? (· = '-') s
  let (day, s) ← takeNumber? 2 s
  let (_, s) ← takeChar? (fun c => c = 'T' || c = 't' || c = ' ') s
  let (hour, s) ← takeNumber? 2 s
  let (_, s) ← takeChar? (· = ':') s
  let (minute, s) ← takeNumber? 2 s
  let (_, s) ← takeChar? (· = ':') s
  let (second, s) ← takeNumber? 2 s
  let (nanosecond, s) ← takeFraction? s
  let offset ← offsetOf? s
  -- the sixtieth second is a leap second, and is kept at any minute
  if isDate year month day && hour ≤ 23 && minute ≤ 59 && second ≤ 60 then
    pure ⟨year, month, day, hour, minute, second, nanosecond, offset⟩
  else none

/-! ### Writing -/

/-- A number with zeros in front up to this many digits. -/
def padded (digits n : Nat) : String :=
  let text := Nat.toDigits 10 n
  String.ofList (List.replicate (digits - text.length) '0' ++ text)

/-- The fraction of a second in three, six or nine digits, the fewest that are exact. -/
def fractionText (nanosecond : Nat) : String :=
  if nanosecond = 0 then ""
  else if nanosecond % 1000000 = 0 then "." ++ padded 3 (nanosecond / 1000000)
  else if nanosecond % 1000 = 0 then "." ++ padded 6 (nanosecond / 1000)
  else "." ++ padded 9 nanosecond

def offsetText (offset : Int) : String :=
  (if offset < 0 then "-" else "+") ++ padded 2 (offset.natAbs / 60) ++ ":"
    ++ padded 2 (offset.natAbs % 60)

/-- The text of a point in time; `zone` is the text of its offset. -/
def textWith (zone : String) (t : Timestamp) : String :=
  padded 4 t.year ++ "-" ++ padded 2 t.month ++ "-" ++ padded 2 t.day ++ "T"
    ++ padded 2 t.hour ++ ":" ++ padded 2 t.minute ++ ":" ++ padded 2 t.second
    ++ fractionText t.nanosecond ++ zone

/-- The text with the offset in digits. -/
def toText (t : Timestamp) : String := t.textWith (offsetText t.offset)

/-- The text with the letter `Z` for universal time. -/
def toShortText (t : Timestamp) : String :=
  t.textWith (if t.offset = 0 then "Z" else offsetText t.offset)

end Timestamp
end ClusterReport
