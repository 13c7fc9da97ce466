/-
**Binary floating point.**

A number of the IEEE 754 format `binary64` as exact data.  Every finite number of the format is a
whole multiple of `2 ^ -1074`, its *unit*; a finite number is therefore a sign and a natural number
of units that fits 53 significant bits.  Arithmetic is computed exactly on units and rounded once,
to the nearest number of the format and with a half going to the even neighbour, so each operation
can be reasoned about in the natural numbers.

Main definitions:

* `ClusterReport.Binary64` — not-a-number of either sign, the infinities, and the finite numbers;
* `ClusterReport.Binary64.divToEven` — a quotient of naturals rounded to the nearest natural;
* `ClusterReport.Binary64.ofRatio` — the number of the format nearest to a ratio of units;
* `ClusterReport.Binary64.signedUnits` — the value of a finite number, as an integer of units;
* `ClusterReport.Binary64.compare?`, `ClusterReport.Binary64.totalCompare` — the numeric order,
  undefined for not-a-number, and the total order of the format;
* `ClusterReport.Binary64.add`, `sub`, `mul`, `div`, `trunc`, `truncInt`, `roundEven`, `toInt64`.

Main results:

* `ClusterReport.Binary64.divToEven_mul` — an exact quotient is not changed by rounding;
* `ClusterReport.Binary64.representable_nearestUnits` — a rounded ratio fits the format.
-/

import ClusterReport.Integer

set_option relaxedAutoImplicit false
set_option autoImplicit false

namespace ClusterReport

/-- The number of units in `2 ^ 1024`, the first magnitude beyond the format. -/
def Binary64.unitsLimit : Nat := Nat.pow 2 2098

/-- The magnitudes of the format: below `2 ^ 1024`, with at most 53 significant bits. -/
def Binary64.Representable (units : Nat) : Prop :=
  units < unitsLimit ∧
    ∃ significand scale, significand < Nat.pow 2 53 ∧ units = significand * Nat.pow 2 scale

theorem Binary64.representable_zero : Representable 0 :=
  ⟨by decide +kernel, 0, 0, Nat.two_pow_pos _, by simp⟩

/-- A number of the format; `units` counts multiples of `2 ^ -1074`, and `payload` is the fraction
field of a not-a-number. -/
inductive Binary64 where
  | nonNumber (negative : Bool) (payload : Nat)
  | infinite (negative : Bool)
  | finite (negative : Bool) (units : Nat) (representable : Binary64.Representable units)
deriving DecidableEq

namespace Binary64

/-- The not-a-number of a sign that operations and readers give. -/
def nan (negative : Bool) : Binary64 := nonNumber negative (Nat.pow 2 51)

/-! ### Rounding -/

/-- The quotient rounded to the nearest natural number, a half to the even neighbour. -/
def divToEven (num den : Nat) : Nat :=
  let whole := num / den
  let twice := 2 * (num % den)
  if twice < den then whole else if den < twice then whole + 1 else whole + whole % 2

theorem divToEven_le (num den : Nat) : divToEven num den ≤ num / den + 1 := by
  unfold divToEven
  dsimp only
  split
  · omega
  · split <;> omega

/-- An exact quotient is not changed by rounding. -/
theorem divToEven_mul (n den : Nat) (h : 0 < den) : divToEven (n * den) den = n := by
  simp [divToEven, Nat.mul_div_cancel n h, h]

/-- The distance of neighbouring numbers of the format around a magnitude. -/
def spacing (whole : Nat) : Nat := Nat.pow 2 (whole.log2 - 52)

theorem spacing_pos (whole : Nat) : 0 < spacing whole := Nat.pow_pos (by decide)

theorem div_spacing_lt (whole : Nat) : whole / spacing whole < Nat.pow 2 53 := by
  simp only [spacing, Nat.pow_eq]
  rw [Nat.div_lt_iff_lt_mul (Nat.pow_pos (by decide)), ← Nat.pow_add]
  exact Nat.lt_of_lt_of_le Nat.lt_log2_self (Nat.pow_le_pow_right (by decide) (by omega))

/-- The multiple of the spacing nearest to the ratio. -/
def nearestUnits (num den : Nat) : Nat :=
  let step := spacing (num / den)
  divToEven num (den * step) * step

/-- A rounded ratio has at most 53 significant bits. -/
theorem representable_nearestUnits (num den : Nat) (h : nearestUnits num den < unitsLimit) :
    Representable (nearestUnits num den) := by
  refine ⟨h, ?_⟩
  have hle : divToEven num (den * spacing (num / den)) ≤ Nat.pow 2 53 := by
    have h₁ := divToEven_le num (den * spacing (num / den))
    have h₂ := div_spacing_lt (num / den)
    rw [← Nat.div_div_eq_div_mul] at h₁
    omega
  rcases Nat.lt_or_eq_of_le hle with hlt | heq
  · exact ⟨_, (num / den).log2 - 52, hlt, rfl⟩
  · refine ⟨1, 53 + ((num / den).log2 - 52), by decide, ?_⟩
    have hdef : nearestUnits num den =
        divToEven num (den * spacing (num / den)) * spacing (num / den) := rfl
    rw [hdef, heq, Nat.one_mul, spacing, Nat.pow_eq, Nat.pow_eq, Nat.pow_eq, Nat.pow_add]

/-- The number nearest to `num / den` units; from `2 ^ 1024` on the infinity of its sign. -/
def ofRatio (negative : Bool) (num den : Nat) : Binary64 :=
  if h : nearestUnits num den < unitsLimit then
    finite negative (nearestUnits num den) (representable_nearestUnits num den h)
  else infinite negative

/-- The number of units in one. -/
def unitsPerOne : Nat := Nat.pow 2 1074

theorem unitsPerOne_pos : 0 < unitsPerOne := by decide +kernel

def zero (negative : Bool) : Binary64 := finite negative 0 representable_zero

def ofInt (n : Int) : Binary64 := ofRatio (n < 0) (n.natAbs * unitsPerOne) 1

def ofNat (n : Nat) : Binary64 := ofRatio false (n * unitsPerOne) 1

/-- The number nearest to an integer number of units; `zeroSign` is the sign of a zero. -/
def ofSignedUnits (zeroSign : Bool) (units : Int) : Binary64 :=
  ofRatio (if units = 0 then zeroSign else units < 0) units.natAbs 1

/-! ### Signs, values and order -/

def isNegative : Binary64 → Bool
  | nonNumber negative _ => negative
  | infinite negative => negative
  | finite negative _ _ => negative

def isNan : Binary64 → Bool
  | nonNumber _ _ => true
  | _ => false

def isFinite : Binary64 → Bool
  | finite .. => true
  | _ => false

def neg : Binary64 → Binary64
  | nonNumber negative payload => nonNumber (!negative) payload
  | infinite negative => infinite !negative
  | finite negative units h => finite (!negative) units h

/-- A sign and a magnitude as an integer. -/
def withSign (negative : Bool) (magnitude : Nat) : Int :=
  if negative then -(magnitude : Int) else magnitude

/-- The value of a finite number in units; zero for the others. -/
def signedUnits : Binary64 → Int
  | finite negative units _ => withSign negative units
  | _ => 0

/-- The numeric order; the two zeros are equal, and not-a-number has no place in it. -/
def compare? : Binary64 → Binary64 → Option Ordering
  | nonNumber _ _, _ => none
  | _, nonNumber _ _ => none
  | infinite a, infinite b => some (compare b a)
  | infinite a, finite .. => some (if a then .lt else .gt)
  | finite .., infinite b => some (if b then .gt else .lt)
  | finite a u _, finite b v _ => some (compare (withSign a u) (withSign b v))

/-- The place of a number in the total order: its kind, and its value within the kind. -/
def totalRank : Binary64 → Int × Int
  | nonNumber true payload => (-2, -(payload : Int))
  | infinite true => (-1, 0)
  | finite true u _ => (0, -(u : Int) - 1)
  | finite false u _ => (0, u)
  | infinite false => (1, 0)
  | nonNumber false payload => (2, payload)

/-- The total order of the format: not-a-number lies beyond the infinity of its sign, farther out
with a greater payload, and the negative zero below the positive one. -/
def totalCompare (x y : Binary64) : Ordering :=
  (compare x.totalRank.1 y.totalRank.1).then (compare x.totalRank.2 y.totalRank.2)

def lt (x y : Binary64) : Bool := x.compare? y == some .lt

def ge (x y : Binary64) : Bool := x.compare? y == some .gt || x.compare? y == some .eq

def eq (x y : Binary64) : Bool := x.compare? y == some .eq

/-- The greater of two numbers; not-a-number gives way to the other one. -/
def max (x y : Binary64) : Binary64 :=
  if x.isNan then y else if y.isNan then x else if x.lt y then y else x

/-! ### Arithmetic -/

/-- The sum.  Opposite infinities have none, which is the negative not-a-number. -/
def add : Binary64 → Binary64 → Binary64
  | nonNumber a p, _ => nonNumber a p
  | _, nonNumber b q => nonNumber b q
  | infinite a, infinite b => if a = b then infinite a else nan true
  | infinite a, finite .. => infinite a
  | finite .., infinite b => infinite b
  | finite a u _, finite b v _ => ofSignedUnits (a && b) (withSign a u + withSign b v)

/-- The difference. -/
def sub : Binary64 → Binary64 → Binary64
  | nonNumber a p, _ => nonNumber a p
  | _, nonNumber b q => nonNumber b q
  | x, y => x.add y.neg

/-- The product.  Zero times an infinity is the negative not-a-number. -/
def mul : Binary64 → Binary64 → Binary64
  | nonNumber a p, _ => nonNumber a p
  | _, nonNumber b q => nonNumber b q
  | infinite a, infinite b => infinite (a != b)
  | infinite a, finite b v _ => if v = 0 then nan true else infinite (a != b)
  | finite a u _, infinite b => if u = 0 then nan true else infinite (a != b)
  | finite a u _, finite b v _ => ofRatio (a != b) (u * v) unitsPerOne

/-- The quotient.  Zero by zero and infinity by infinity are the negative not-a-number, any other
number by zero is an infinity. -/
def div : Binary64 → Binary64 → Binary64
  | nonNumber a p, _ => nonNumber a p
  | _, nonNumber b q => nonNumber b q
  | infinite _, infinite _ => nan true
  | infinite a, finite b _ _ => infinite (a != b)
  | finite a _ _, infinite b => zero (a != b)
  | finite a u _, finite b v _ =>
    if v = 0 then (if u = 0 then nan true else infinite (a != b))
    else ofRatio (a != b) (u * unitsPerOne) v

instance : Add Binary64 := ⟨add⟩
instance : Sub Binary64 := ⟨sub⟩
instance : Mul Binary64 := ⟨mul⟩
instance : Div Binary64 := ⟨div⟩
instance : Neg Binary64 := ⟨neg⟩

def sum (xs : List Binary64) : Binary64 := xs.foldl add (zero true)

/-! ### Whole numbers -/

/-- The integer part, toward zero, of a finite number; zero for the others. -/
def truncInt : Binary64 → Int
  | finite negative units _ => withSign negative (units / unitsPerOne)
  | _ => 0

/-- The integer part, toward zero, as a number of the format. -/
def trunc : Binary64 → Binary64
  | finite negative units _ => ofRatio negative (units / unitsPerOne * unitsPerOne) 1
  | x => x

/-- The nearest integer, a half to the even neighbour, as a number of the format. -/
def roundEven : Binary64 → Binary64
  | finite negative units _ => ofRatio negative (divToEven units unitsPerOne * unitsPerOne) 1
  | x => x

/-- The integer part clamped to 64 bits; zero for not-a-number. -/
def toInt64 : Binary64 → Int
  | nonNumber _ _ => 0
  | infinite negative => if negative then Integer.int64Min else Integer.int64Max
  | x => Integer.clampInt64 x.truncInt

theorem fitsInt64_toInt64 (x : Binary64) : Integer.fitsInt64 x.toInt64 = true := by
  cases x with
  | nonNumber _ _ => rfl
  | infinite negative => cases negative <;> rfl
  | finite negative units h => exact Integer.fitsInt64_clampInt64 _

end Binary64
end ClusterReport
