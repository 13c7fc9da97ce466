/-
**Server versions.**

A version is a loosely structured build text such as `5.7.0.11` or `4.9.0.3-1`.  Its runs of digits
compare as numbers and its runs of letters as words in lower case; every other character only
separates.  Versions compare part by part, a number before a word, and a version whose parts are
the first ones of another's comes before it.

Main definitions:

* `ClusterReport.Version` — a build text;
* `ClusterReport.Version.parts` — the numbers and words in it;
* `ClusterReport.Version.compare` — the order of versions;
* `ClusterReport.VersionRange` — versions from one bound on and before another.

Main results:

* `ClusterReport.Version.compare_self` — a version is at least itself.
-/

import ClusterReport.Integer

set_option relaxedAutoImplicit false
set_option autoImplicit false

namespace ClusterReport

/-- A build text. -/
structure Version where
  text : String
deriving DecidableEq

namespace Version

/-- A part of a version that takes part in comparisons. -/
inductive Part where
  | number (value : Nat)
  | word (value : String)
deriving DecidableEq

/-- Numbers come before words. -/
def Part.compare : Part → Part → Ordering
  | number m, number n => Ord.compare m n
  | number _, word _ => .lt
  | word _, number _ => .gt
  | word s, word t => Ord.compare s t

/-- What a character is to a version. -/
inductive CharKind where
  | digit
  | letter
  | separator
deriving DecidableEq

/-- Digits and letters are those of ASCII. -/
def CharKind.of (c : Char) : CharKind :=
  if c.isDigit then digit else if c.isAlpha then letter else separator

/-- The part that a run of characters of one kind stands for; a number beyond 64 bits counts as
the greatest one. -/
def Part.ofRun? : List Char → Option Part
  | [] => none
  | c :: rest =>
    match CharKind.of c with
    | .digit => some (number (min Integer.nat64Max (Integer.digitsValue (c :: rest))))
    | .letter => some (word (String.ofList ((c :: rest).map Char.toLower)))
    | .separator => none

def partsOf (s : List Char) : List Part :=
  (s.splitBy fun a b => CharKind.of a = CharKind.of b).filterMap Part.ofRun?

/-- The parts of a version. -/
def parts (v : Version) : List Part := partsOf v.text.toList

/-- The order of versions. -/
def compare (a b : Version) : Ordering := List.compareLex Part.compare a.parts b.parts

/-- Whether a version is not before another one. -/
def atLeast (a b : Version) : Bool := (a.compare b).isGE

theorem Part.compare_self (p : Part) : Part.compare p p = .eq := by
  cases p with
  | number n => exact Nat.compare_eq_eq.mpr rfl
  | word s => exact Std.ReflOrd.compare_self

/-- A version has the place of itself. -/
@[simp] theorem compare_self (v : Version) : v.compare v = .eq := by
  unfold compare
  induction v.parts with
  | nil => rfl
  | cons p ps ih => rw [List.compareLex_cons_cons, Part.compare_self, ih]; rfl

end Version

/-- The versions from a bound on and before another one; a missing bound leaves that end open. -/
structure VersionRange where
  first : Option Version
  limit : Option Version

def VersionRange.contains (r : VersionRange) (v : Version) : Bool :=
  r.first.all (fun first => v.atLeast first) && r.limit.all (fun limit => !v.atLeast limit)

end ClusterReport
